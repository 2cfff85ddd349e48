import Flowchart.Editor.Scheduler

/-!
# The scheduler is a debouncer

A debouncer has no clock and no timer.  All that is pending in it is one text,
or none: a schedule fills the slot, a cancel empties it, and a flush or a firing
empties it and analyzes exactly the text that it held.

The scheduler keeps a timer, the queue of a clock and a text instead, and these
three have to stay in step while edits, flushes, cancels, firings and failures
follow each other in any order, and while the clock starts and stops.
`Scheduler.Refines` is the relation that every step keeps: the queue holds just
the timer, there is a timer just where the slot is full, and then both see the
same text.  It is silent about the text of a scheduler without a timer, which a
schedule leaves behind when no clock runs and which nobody reads.

Main statement: `Scheduler.trace_eq_debouncer`, that both machines show the same
after every step of every run, and what this means for timers, runs, deliveries
and armings.
-/

namespace Flowchart

variable {σ : Type}

/-- A step that is taken while the clock runs, or while it does not. -/
structure Moment where
  /-- Does the clock run? -/
  running : Bool
  /-- The step. -/
  step : SchedulerStep
  deriving DecidableEq, Repr

/-- What is seen of a scheduler after a step. -/
structure SchedulerView (σ : Type) where
  /-- What the step answered. -/
  answer : SchedulerAnswer
  /-- Is a run pending? -/
  pending : Bool
  /-- The number of runs that came to an end. -/
  runs : Nat
  /-- The issues of the last of them. -/
  lastIssues : List Issue
  /-- The texts that the analyzer was given. -/
  analyzed : List Text
  /-- The state in which the deliveries left the listener. -/
  observer : σ
  deriving DecidableEq

namespace Setup

/-- The state of the listener after some deliveries. -/
def heard (setup : Setup σ) (initial : σ) (deliveries : List (List Issue)) : σ :=
  match setup.listener with
  | none => initial
  | some listener =>
    deliveries.foldl (fun observer issues => (listener issues observer).1) initial

/-- The setup with a listener that takes the same and never fails. -/
def calm (setup : Setup σ) : Setup σ :=
  { setup with
    listener := setup.listener.map fun listener issues observer =>
      ((listener issues observer).1, false) }

/-- Without deliveries the listener stays as it was. -/
theorem heard_nil (setup : Setup σ) (initial : σ) : setup.heard initial [] = initial := by
  unfold heard
  split <;> rfl

/-- A listener that never fails hears the same. -/
theorem heard_calm (setup : Setup σ) (initial : σ) (deliveries : List (List Issue)) :
    setup.calm.heard initial deliveries = setup.heard initial deliveries := by
  unfold heard calm
  cases setup.listener <;> rfl

end Setup

/-! ## Runs of the scheduler -/

namespace Scheduler

/-- A scheduler to which nothing has happened yet. -/
def fresh (initial : σ) : Scheduler σ :=
  ⟨{}, none, none, 0, [], [], initial⟩

/-- Take a step while the clock runs, or while it does not. -/
def stepAt (setup : Setup σ) (moment : Moment) (s : Scheduler σ) :
    SchedulerAnswer × Scheduler σ :=
  step setup moment.step { s with clock := { s.clock with running := moment.running } }

/-- What is seen of the scheduler after a step with that answer. -/
def view (answer : SchedulerAnswer) (s : Scheduler σ) : SchedulerView σ :=
  ⟨answer, s.pending, s.runs, s.lastIssues, s.analyzed, s.observer⟩

/-- The scheduler after some steps. -/
def after (setup : Setup σ) : Scheduler σ → List Moment → Scheduler σ
  | s, [] => s
  | s, moment :: moments => after setup (s.stepAt setup moment).2 moments

/-- What is seen after each of some steps. -/
def trace (setup : Setup σ) : Scheduler σ → List Moment → List (SchedulerView σ)
  | _, [] => []
  | s, moment :: moments =>
    (s.stepAt setup moment).2.view (s.stepAt setup moment).1
      :: trace setup (s.stepAt setup moment).2 moments

/-- The number of steps that armed a run. -/
def armings (setup : Setup σ) (s : Scheduler σ) (moments : List Moment) : Nat :=
  (s.trace setup moments).countP fun view => view.answer = .scheduled true

/-- The number of cancels that dropped a pending run. -/
def drops (setup : Setup σ) : Scheduler σ → List Moment → Nat
  | _, [] => 0
  | s, moment :: moments =>
    (if moment.step = .cancel ∧ s.pending then 1 else 0)
      + drops setup (s.stepAt setup moment).2 moments

end Scheduler

/-! ## The debouncer -/

/-- A machine in which nothing is pending but a text. -/
structure Debouncer where
  /-- The text that waits to be analyzed. -/
  slot : Option Text := none
  /-- The number of analyses that came to an end. -/
  runs : Nat := 0
  /-- The issues of the last of them. -/
  lastIssues : List Issue := []
  /-- The texts that were analyzed. -/
  analyzed : List Text := []
  /-- The issues that were delivered to a listener. -/
  deliveries : List (List Issue) := []
  deriving DecidableEq, Repr

namespace Debouncer

/-- Empty the slot and analyze a text.  Only an analysis that comes to an end is
counted, kept and delivered. -/
def analyze (setup : Setup σ) (text : Text) (d : Debouncer) : Debouncer :=
  let d := { d with slot := none, analyzed := d.analyzed ++ [text] }
  match setup.analyzer text with
  | none => d
  | some issues =>
    { d with
      runs := d.runs + 1
      lastIssues := issues
      deliveries := if setup.listener.isSome then d.deliveries ++ [issues] else d.deliveries }

/-- What a flush answers of an analysis. -/
def flushAnswer : Option (List Issue) → SchedulerAnswer
  | none => .failed .analysisFailed
  | some issues => .flushed (some issues)

/-- Take a step while the clock runs, or while it does not.  The clock is asked
for only where the slot is empty. -/
def step (setup : Setup σ) (moment : Moment) (d : Debouncer) : SchedulerAnswer × Debouncer :=
  match moment.step, d.slot with
  | .schedule text, some _ => (.scheduled false, { d with slot := some text })
  | .schedule text, none =>
    if moment.running then (.scheduled true, { d with slot := some text })
    else (.failed .noClock, d)
  | .cancel, _ => (.done, { d with slot := none })
  | .flush, none => (.flushed none, d)
  | .flush, some text => (flushAnswer (setup.analyzer text), d.analyze setup text)
  | .fire, none => (.done, d)
  | .fire, some text => (.done, d.analyze setup text)

/-- What is seen of the debouncer after a step with that answer. -/
def view (setup : Setup σ) (initial : σ) (answer : SchedulerAnswer) (d : Debouncer) :
    SchedulerView σ :=
  ⟨answer, d.slot.isSome, d.runs, d.lastIssues, d.analyzed,
    setup.heard initial d.deliveries⟩

/-- What is seen after each of some steps. -/
def trace (setup : Setup σ) (initial : σ) : Debouncer → List Moment → List (SchedulerView σ)
  | _, [] => []
  | d, moment :: moments =>
    (d.step setup moment).2.view setup initial (d.step setup moment).1
      :: trace setup initial (d.step setup moment).2 moments

/-- Everything that a debouncer shows, told by the texts that it analyzed. -/
structure Accounted (setup : Setup σ) (d : Debouncer) : Prop where
  /-- The runs are the analyses that came to an end. -/
  runs : d.runs = (d.analyzed.filterMap setup.analyzer).length
  /-- The last issues are those of the last of them. -/
  lastIssues : d.lastIssues = (d.analyzed.filterMap setup.analyzer).getLastD []
  /-- Each was delivered once, if anybody listens. -/
  deliveries : d.deliveries =
    if setup.listener.isSome then d.analyzed.filterMap setup.analyzer else []

/-- One analysis keeps the account. -/
theorem Accounted.analyze {setup : Setup σ} {d : Debouncer} (h : Accounted setup d)
    (text : Text) : Accounted setup (d.analyze setup text) := by
  obtain ⟨hruns, hlast, hdeliveries⟩ := h
  cases hanalyzer : setup.analyzer text with
  | none =>
      constructor
      · simp [Debouncer.analyze, hanalyzer, hruns]
      · simp [Debouncer.analyze, hanalyzer, hlast]
      · simp [Debouncer.analyze, hanalyzer, hdeliveries]
  | some issues =>
      constructor
      · simp [Debouncer.analyze, hanalyzer, hruns]
      · simp [Debouncer.analyze, hanalyzer]
      · cases hlistener : setup.listener <;>
          simp [Debouncer.analyze, hanalyzer, hlistener, hdeliveries]

/-- Every step keeps the account. -/
theorem Accounted.step {setup : Setup σ} {d : Debouncer} (h : Accounted setup d)
    (moment : Moment) : Accounted setup (d.step setup moment).2 := by
  unfold Debouncer.step
  split
  · exact ⟨h.runs, h.lastIssues, h.deliveries⟩
  · split
    · exact ⟨h.runs, h.lastIssues, h.deliveries⟩
    · exact h
  · exact ⟨h.runs, h.lastIssues, h.deliveries⟩
  · exact h
  · exact h.analyze _
  · exact h
  · exact h.analyze _

/-- Behind an analysis nothing is pending. -/
theorem analyze_slot (setup : Setup σ) (text : Text) (d : Debouncer) :
    (d.analyze setup text).slot = none := by
  unfold Debouncer.analyze
  cases setup.analyzer text <;> rfl

/-- An analysis adds its text to those that were analyzed. -/
theorem analyze_analyzed (setup : Setup σ) (text : Text) (d : Debouncer) :
    (d.analyze setup text).analyzed = d.analyzed ++ [text] := by
  unfold Debouncer.analyze
  cases setup.analyzer text <;> rfl

/-- A failed analysis is no run, and nobody hears of it. -/
theorem analyze_of_failure {setup : Setup σ} {text : Text} (d : Debouncer)
    (hfail : setup.analyzer text = none) :
    d.analyze setup text = { d with slot := none, analyzed := d.analyzed ++ [text] } := by
  simp [Debouncer.analyze, hfail]

/-- A flush is not answered as a schedule is. -/
theorem flushAnswer_ne_scheduled (result : Option (List Issue)) (armed : Bool) :
    flushAnswer result ≠ .scheduled armed := by
  cases result <;> simp [flushAnswer]

/-- What is armed by a step, and what was pending before it, is analyzed by it,
dropped by it, or pending after it. -/
theorem step_balance (setup : Setup σ) (moment : Moment) (d : Debouncer) :
    (if (d.step setup moment).1 = .scheduled true then 1 else 0)
        + d.analyzed.length + d.slot.isSome.toNat
      = (d.step setup moment).2.analyzed.length
        + (if moment.step = .cancel ∧ d.slot.isSome then 1 else 0)
        + (d.step setup moment).2.slot.isSome.toNat := by
  obtain ⟨running, step⟩ := moment
  cases step with
  | schedule text =>
      cases hslot : d.slot <;> cases running <;> simp [Debouncer.step, hslot]
      omega
  | flush =>
      cases hslot : d.slot <;>
        simp [Debouncer.step, hslot, flushAnswer_ne_scheduled, analyze_slot, analyze_analyzed]
  | cancel => cases hslot : d.slot <;> simp [Debouncer.step]
  | fire =>
      cases hslot : d.slot <;> simp [Debouncer.step, hslot, analyze_slot, analyze_analyzed]

/-- A flush and a firing leave an empty slot alone. -/
theorem step_of_idle (setup : Setup σ) {moment : Moment} {d : Debouncer}
    (hstep : moment.step = .flush ∨ moment.step = .fire) (hslot : d.slot = none) :
    (d.step setup moment).2 = d := by
  rcases hstep with hstep | hstep <;> simp [Debouncer.step, hstep, hslot]

/-- A flush and a firing analyze the text that waits. -/
theorem step_of_waiting (setup : Setup σ) {moment : Moment} {d : Debouncer} {text : Text}
    (hstep : moment.step = .flush ∨ moment.step = .fire) (hslot : d.slot = some text) :
    (d.step setup moment).2 = d.analyze setup text := by
  rcases hstep with hstep | hstep <;> simp [Debouncer.step, hstep, hslot]

/-- The step that analyzes a text, and what it leaves behind. -/
theorem step_of_analyzed {setup : Setup σ} {moment : Moment} {d : Debouncer} {text : Text}
    (h : (d.step setup moment).2.analyzed = d.analyzed ++ [text]) :
    (d.step setup moment).2 = d.analyze setup text := by
  unfold Debouncer.step at h ⊢
  split at h
  · simp at h
  · split at h <;> simp at h
  · simp at h
  · simp at h
  · obtain rfl : _ = text := by simpa [analyze_analyzed] using h
    simp_all
  · simp at h
  · obtain rfl : _ = text := by simpa [analyze_analyzed] using h
    simp_all

/-- A debouncer does not ask whether the listener fails. -/
theorem step_calm (setup : Setup σ) (moment : Moment) (d : Debouncer) :
    d.step setup.calm moment = d.step setup moment := by
  have hanalyze : ∀ text, d.analyze setup.calm text = d.analyze setup text := by
    intro text
    simp [Debouncer.analyze, Setup.calm]
  simp only [Debouncer.step, hanalyze]
  rfl

/-- It is not to be seen whether the listener fails. -/
theorem trace_calm (setup : Setup σ) (initial : σ) (d : Debouncer) (moments : List Moment) :
    d.trace setup.calm initial moments = d.trace setup initial moments := by
  induction moments generalizing d with
  | nil => rfl
  | cons moment moments ih =>
      simp only [trace, view, step_calm, Setup.heard_calm, ih]

end Debouncer

/-! ## The relation between the two -/

namespace Scheduler

/-- The scheduler `s` shows what the debouncer `d` shows, and pends on the same. -/
structure Refines (setup : Setup σ) (initial : σ) (s : Scheduler σ) (d : Debouncer) :
    Prop where
  /-- The queue of the clock holds the timer and nothing else. -/
  armed : s.clock.armed = s.timer.toList
  /-- Without a timer the slot is empty. -/
  idle : s.timer = none → d.slot = none
  /-- With a timer there is one text, and both see it. -/
  waiting : ∀ timer, s.timer = some timer → ∃ text, s.text = some text ∧ d.slot = some text
  /-- Both have counted the same runs. -/
  runs : s.runs = d.runs
  /-- Both keep the same issues. -/
  lastIssues : s.lastIssues = d.lastIssues
  /-- Both have analyzed the same texts. -/
  analyzed : s.analyzed = d.analyzed
  /-- The listener has heard the deliveries. -/
  observer : s.observer = setup.heard initial d.deliveries

/-- Without a timer the text is nobody's concern. -/
theorem Refines.fresh (setup : Setup σ) (initial : σ) :
    Refines setup initial (fresh initial) {} where
  armed := rfl
  idle _ := rfl
  waiting _ h := nomatch h
  runs := rfl
  lastIssues := rfl
  analyzed := rfl
  observer := (setup.heard_nil initial).symm

/-- A run is pending just where the slot is full. -/
theorem Refines.pending_eq {setup : Setup σ} {initial : σ} {s : Scheduler σ}
    {d : Debouncer} (h : Refines setup initial s d) : s.pending = d.slot.isSome := by
  cases htimer : s.timer with
  | none => simp [pending, htimer, h.idle htimer]
  | some timer =>
      obtain ⟨text, _, hslot⟩ := h.waiting timer htimer
      simp [pending, htimer, hslot]

/-- Both machines show the same. -/
theorem Refines.view_eq {setup : Setup σ} {initial : σ} {s : Scheduler σ} {d : Debouncer}
    (h : Refines setup initial s d) (answer : SchedulerAnswer) :
    s.view answer = d.view setup initial answer := by
  simp only [view, Debouncer.view, h.pending_eq, h.runs, h.lastIssues, h.analyzed, h.observer]

/-- Whether the clock runs is no part of the relation. -/
theorem Refines.clock_running {setup : Setup σ} {initial : σ} {s : Scheduler σ}
    {d : Debouncer} (h : Refines setup initial s d) (running : Bool) :
    Refines setup initial { s with clock := { s.clock with running := running } } d :=
  ⟨h.armed, h.idle, h.waiting, h.runs, h.lastIssues, h.analyzed, h.observer⟩

/-- A run that has left the queue of the clock is the analysis of the slot. -/
theorem Refines.run {setup : Setup σ} {initial : σ} {s : Scheduler σ} {d : Debouncer}
    {clock : Clock} {text : Text} (h : Refines setup initial s d)
    (hclock : clock.armed = []) (htext : s.text = some text) :
    (run setup { s with clock := clock }).1 = setup.analyzer text ∧
      Refines setup initial (run setup { s with clock := clock }).2 (d.analyze setup text) := by
  obtain ⟨_, _, _, hruns, hlast, hanalyzed, hobserver⟩ := h
  cases hanalyzer : setup.analyzer text with
  | none =>
      simp only [Scheduler.run, htext, Option.getD_some, hanalyzer,
        Debouncer.analyze_of_failure d hanalyzer, true_and]
      exact ⟨hclock, fun _ => rfl, nofun, hruns, hlast, by simp [hanalyzed], hobserver⟩
  | some issues =>
      cases hlistener : setup.listener with
      | none =>
          simp only [Scheduler.run, htext, Option.getD_some, hanalyzer, deliver, hlistener,
            Debouncer.analyze, true_and]
          exact ⟨hclock, fun _ => rfl, nofun, by simp [hruns], rfl, by simp [hanalyzed],
            by simp [hobserver]⟩
      | some listener =>
          simp only [Scheduler.run, htext, Option.getD_some, hanalyzer, deliver, hlistener,
            Debouncer.analyze, true_and]
          refine ⟨hclock, fun _ => rfl, nofun, by simp [hruns], rfl, by simp [hanalyzed], ?_⟩
          simp [hobserver, Setup.heard, hlistener]

/-- A schedule fills the slot, and arms a run where the slot was empty.  Where no clock runs the
text stays behind without a timer, and the relation does not look at it. -/
theorem Refines.schedule {setup : Setup σ} {initial : σ} {s : Scheduler σ} {d : Debouncer}
    (h : Refines setup initial s d) (text : Text) :
    (s.schedule text).1 = (d.step setup ⟨s.clock.running, .schedule text⟩).1 ∧
      Refines setup initial (s.schedule text).2
        (d.step setup ⟨s.clock.running, .schedule text⟩).2 := by
  obtain ⟨harmed, hidle, hwaiting, hruns, hlast, hanalyzed, hobserver⟩ := h
  cases htimer : s.timer with
  | none =>
      have hslot : d.slot = none := hidle htimer
      cases hrunning : s.clock.running with
      | false =>
          simp only [Scheduler.schedule, Debouncer.step, hslot, pending, htimer, hrunning,
            Option.isSome_none, Bool.false_eq_true, if_false, true_and]
          exact ⟨harmed.trans (congrArg _ htimer), fun _ => hslot, nofun, hruns, hlast,
            hanalyzed, hobserver⟩
      | true =>
          simp only [Scheduler.schedule, Debouncer.step, hslot, pending, htimer, hrunning,
            Option.isSome_none, Bool.false_eq_true, if_false, if_true, true_and]
          exact ⟨by simp [Clock.arm, harmed, htimer], nofun, fun _ _ => ⟨text, rfl, rfl⟩,
            hruns, hlast, hanalyzed, hobserver⟩
  | some timer =>
      obtain ⟨old, _, hslot⟩ := hwaiting timer htimer
      simp only [Scheduler.schedule, Debouncer.step, hslot, pending, htimer,
        Option.isSome_some, if_true, true_and]
      exact ⟨harmed.trans (congrArg _ htimer), nofun, fun _ _ => ⟨text, rfl, rfl⟩, hruns,
        hlast, hanalyzed, hobserver⟩

/-- A cancel empties the slot, and the queue of the clock with it. -/
theorem Refines.cancel {setup : Setup σ} {initial : σ} {s : Scheduler σ} {d : Debouncer}
    (h : Refines setup initial s d) :
    Refines setup initial s.cancel { d with slot := none } := by
  obtain ⟨harmed, _, _, hruns, hlast, hanalyzed, hobserver⟩ := h
  cases htimer : s.timer with
  | none =>
      simp only [Scheduler.cancel, htimer]
      exact ⟨harmed, fun _ => rfl, by simp [htimer], hruns, hlast, hanalyzed, hobserver⟩
  | some timer =>
      simp only [Scheduler.cancel, htimer]
      exact ⟨by simp [Clock.cancel, harmed, htimer], fun _ => rfl, nofun, hruns, hlast,
        hanalyzed, hobserver⟩

/-- A flush of a pending run is that run, taken from the queue of the clock. -/
theorem flush_of_timer (setup : Setup σ) {s : Scheduler σ} {timer : Nat}
    (htimer : s.timer = some timer) :
    s.flush setup =
      (Debouncer.flushAnswer (run setup { s with clock := s.clock.cancel timer }).1,
        (run setup { s with clock := s.clock.cancel timer }).2) := by
  obtain ⟨clock, _, text, runs, lastIssues, analyzed, observer⟩ := s
  subst htimer
  simp only [flush]
  split <;> simp_all [Debouncer.flushAnswer]

/-- A flush analyzes what the slot holds. -/
theorem Refines.flush {setup : Setup σ} {initial : σ} {s : Scheduler σ} {d : Debouncer}
    (h : Refines setup initial s d) (running : Bool) :
    (s.flush setup).1 = (d.step setup ⟨running, .flush⟩).1 ∧
      Refines setup initial (s.flush setup).2 (d.step setup ⟨running, .flush⟩).2 := by
  cases htimer : s.timer with
  | none =>
      simp only [Scheduler.flush, htimer, Debouncer.step, h.idle htimer, true_and]
      exact h
  | some timer =>
      obtain ⟨text, htext, hslot⟩ := h.waiting timer htimer
      have hempty : (s.clock.cancel timer).armed = [] := by
        simp [Clock.cancel, h.armed, htimer]
      obtain ⟨hresult, hrun⟩ := h.run hempty htext
      rw [flush_of_timer setup htimer, hresult]
      simp only [Debouncer.step, hslot, true_and]
      exact hrun

/-- A firing analyzes what the slot holds. -/
theorem Refines.fire {setup : Setup σ} {initial : σ} {s : Scheduler σ} {d : Debouncer}
    (h : Refines setup initial s d) (running : Bool) :
    Refines setup initial (s.fire setup) (d.step setup ⟨running, .fire⟩).2 := by
  cases htimer : s.timer with
  | none =>
      have hring : s.clock.ring? = none := by simp [Clock.ring?, h.armed, htimer]
      simp only [Scheduler.fire, hring, Debouncer.step, h.idle htimer]
      exact h
  | some timer =>
      obtain ⟨text, htext, hslot⟩ := h.waiting timer htimer
      have hring : s.clock.ring? = some { s.clock with armed := [] } := by
        simp [Clock.ring?, h.armed, htimer]
      simp only [Scheduler.fire, hring, Debouncer.step, hslot]
      exact (h.run rfl htext).2

/-- **One step.**  Both machines give the same answer and stay related. -/
theorem Refines.stepAt {setup : Setup σ} {initial : σ} {s : Scheduler σ} {d : Debouncer}
    (h : Refines setup initial s d) (moment : Moment) :
    (s.stepAt setup moment).1 = (d.step setup moment).1 ∧
      Refines setup initial (s.stepAt setup moment).2 (d.step setup moment).2 := by
  obtain ⟨running, step⟩ := moment
  have hclock := h.clock_running running
  cases step with
  | schedule text => exact hclock.schedule text
  | flush => exact hclock.flush running
  | cancel => exact ⟨rfl, hclock.cancel⟩
  | fire =>
      refine ⟨?_, hclock.fire running⟩
      cases hslot : d.slot <;> simp [Scheduler.stepAt, Scheduler.step, Debouncer.step, hslot]

/-- Related machines show the same after every step of every run. -/
theorem Refines.trace_eq {setup : Setup σ} {initial : σ} {s : Scheduler σ} {d : Debouncer}
    (h : Refines setup initial s d) (moments : List Moment) :
    s.trace setup moments = d.trace setup initial moments := by
  induction moments generalizing s d with
  | nil => rfl
  | cons moment moments ih =>
      obtain ⟨hanswer, hnext⟩ := h.stepAt moment
      simp only [trace, Debouncer.trace, hanswer, hnext.view_eq, ih hnext]

/-- Every state that a run reaches is related to an accounted debouncer. -/
theorem Refines.after {setup : Setup σ} {initial : σ} {s : Scheduler σ} {d : Debouncer}
    (h : Refines setup initial s d) (haccount : d.Accounted setup) (moments : List Moment) :
    ∃ d', Refines setup initial (s.after setup moments) d' ∧ d'.Accounted setup := by
  induction moments generalizing s d with
  | nil => exact ⟨d, h, haccount⟩
  | cons moment moments ih => exact ih (h.stepAt moment).2 (haccount.step moment)

/-- Over a run, every armed run is analyzed, dropped or still pending. -/
theorem Refines.balance {setup : Setup σ} {initial : σ} {s : Scheduler σ} {d : Debouncer}
    (h : Refines setup initial s d) (moments : List Moment) :
    s.armings setup moments + s.analyzed.length + s.pending.toNat
      = (s.after setup moments).analyzed.length + s.drops setup moments
        + (s.after setup moments).pending.toNat := by
  induction moments generalizing s d with
  | nil => simp [armings, Scheduler.trace, Scheduler.after, drops]
  | cons moment moments ih =>
      obtain ⟨hanswer, hnext⟩ := h.stepAt moment
      have hrest := ih hnext
      have hstep := d.step_balance setup moment
      have hcount : s.armings setup (moment :: moments)
          = (if (d.step setup moment).1 = .scheduled true then 1 else 0)
            + (s.stepAt setup moment).2.armings setup moments := by
        simp [armings, Scheduler.trace, List.countP_cons, view, hanswer, Nat.add_comm]
      have hdrops : s.drops setup (moment :: moments)
          = (if moment.step = .cancel ∧ d.slot.isSome then 1 else 0)
            + (s.stepAt setup moment).2.drops setup moments := by
        simp [drops, h.pending_eq]
      rw [hnext.pending_eq, hnext.analyzed] at hrest
      rw [hcount, hdrops, h.pending_eq, h.analyzed, Scheduler.after]
      omega

/-- Where the analyzer fails, a step leaves only the text behind, and the next
schedule arms a run again. -/
theorem Refines.after_failure {setup : Setup σ} {initial : σ} {s : Scheduler σ}
    {d : Debouncer} (h : Refines setup initial s d) {moment : Moment} {text : Text}
    (htext : (s.stepAt setup moment).2.analyzed = s.analyzed ++ [text])
    (hfail : setup.analyzer text = none) :
    (s.stepAt setup moment).2.runs = s.runs ∧
      (s.stepAt setup moment).2.lastIssues = s.lastIssues ∧
      (s.stepAt setup moment).2.observer = s.observer ∧
      (s.stepAt setup moment).2.pending = false ∧
      ∀ next, ((s.stepAt setup moment).2.stepAt setup ⟨true, .schedule next⟩).1
        = .scheduled true := by
  obtain ⟨_, hnext⟩ := h.stepAt moment
  rw [hnext.analyzed, h.analyzed] at htext
  rw [Debouncer.step_of_analyzed htext, Debouncer.analyze_of_failure d hfail] at hnext
  refine ⟨hnext.runs.trans h.runs.symm, hnext.lastIssues.trans h.lastIssues.symm,
    hnext.observer.trans h.observer.symm, hnext.pending_eq, fun next => ?_⟩
  exact (hnext.stepAt ⟨true, .schedule next⟩).1

/-- **The scheduler is a debouncer.**  Whatever is done to a scheduler, by whatever
analyzer and listener and while the clock runs or does not, it shows after every
step what a debouncer shows.  It makes no difference whether the listener fails.
In every state that is reached

* at most one timer is armed;
* the runs are the analyses that came to an end, the last issues are those of the
  last of them, and the listener was given each of them once;
* every armed run was analyzed, was dropped by a cancel or is pending;
* a step whose analysis fails changes no run, no issues and no listener, leaves
  nothing pending, and does not keep the next schedule from arming a run. -/
theorem trace_eq_debouncer (setup : Setup σ) (initial : σ) (moments : List Moment) :
    (fresh initial).trace setup moments = Debouncer.trace setup initial {} moments ∧
    (fresh initial).trace setup.calm moments = (fresh initial).trace setup moments ∧
    ((fresh initial).after setup moments).clock.armed.length ≤ 1 ∧
    (let s := (fresh initial).after setup moments
     s.runs = (s.analyzed.filterMap setup.analyzer).length ∧
      s.lastIssues = (s.analyzed.filterMap setup.analyzer).getLastD [] ∧
      s.observer = setup.heard initial (s.analyzed.filterMap setup.analyzer)) ∧
    (let s := (fresh initial).after setup moments
     (fresh initial).armings setup moments
      = s.analyzed.length + (fresh initial).drops setup moments + s.pending.toNat) ∧
    ∀ (moment : Moment) (text : Text),
      let s := (fresh initial).after setup moments
      let s' := (s.stepAt setup moment).2
      s'.analyzed = s.analyzed ++ [text] → setup.analyzer text = none →
        s'.runs = s.runs ∧ s'.lastIssues = s.lastIssues ∧ s'.observer = s.observer ∧
        s'.pending = false ∧
        ∀ next, (s'.stepAt setup ⟨true, .schedule next⟩).1 = .scheduled true := by
  have hfresh := Refines.fresh setup initial
  obtain ⟨d, hd, haccount⟩ := hfresh.after ⟨rfl, rfl, by simp⟩ moments
  refine ⟨hfresh.trace_eq moments, ?_, ?_, ⟨?_, ?_, ?_⟩, ?_, fun moment text => ?_⟩
  · rw [(Refines.fresh setup.calm initial).trace_eq, hfresh.trace_eq, Debouncer.trace_calm]
  · rw [hd.armed]
    cases ((fresh initial).after setup moments).timer <;> simp
  · rw [hd.runs, haccount.runs, hd.analyzed]
  · rw [hd.lastIssues, haccount.lastIssues, hd.analyzed]
  · rw [hd.observer, haccount.deliveries, hd.analyzed]
    cases hlistener : setup.listener <;> simp [Setup.heard, hlistener]
  · simpa [fresh, pending] using hfresh.balance moments
  · exact hd.after_failure

/-- A text that the analyzer fails on, taken while no clock runs, taken again and
flushed: the failure leaves nothing pending, and the next schedule arms a run. -/
theorem trace_eq_debouncer_failing :
    let setup : Setup Unit := ⟨fun text => if text = ['x'] then none else some [], none⟩
    let s := (fresh ()).after setup [⟨false, .schedule ['x']⟩, ⟨true, .schedule ['x']⟩]
    let s' := (s.stepAt setup ⟨true, .flush⟩).2
    s'.analyzed = s.analyzed ++ [['x']] ∧ setup.analyzer ['x'] = none ∧ s'.pending = false ∧
      (s'.stepAt setup ⟨true, .schedule ['y']⟩).1 = .scheduled true := by
  intro setup s s'
  have h := (trace_eq_debouncer setup ()
    [⟨false, .schedule ['x']⟩, ⟨true, .schedule ['x']⟩]).2.2.2.2.2 ⟨true, .flush⟩ ['x'] rfl rfl
  exact ⟨rfl, rfl, h.2.2.2.1, h.2.2.2.2 ['y']⟩

end Scheduler

end Flowchart
