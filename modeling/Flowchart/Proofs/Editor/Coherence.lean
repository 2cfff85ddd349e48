import Flowchart.Editor.Session
import Flowchart.Proofs.Editor.Debouncer

/-!
# Sessions are coherent

A session keeps its text, the issues that it shows, and a scheduler with a text
and issues of its own.  Edits, flushes, cancels, firings and fixes touch these in
turn, and a choice of a fix may be made of issues that are out of date.

The scheduler is taken for the debouncer that it is.  `Session.Coherent` is the
invariant: what the debouncer holds is the text of the session, or nothing; and
where it holds nothing and no run was dropped since the text was last set, the
last analysis was of this very text.

Main statement: `Session.coherent_after`, for every run of a fresh session.
-/

namespace Flowchart

/-! ## What the steps of a scheduler leave alone -/

namespace Scheduler

variable {σ : Type}

/-- A run leaves the clock as it is. -/
theorem run_clock (setup : Setup σ) (s : Scheduler σ) : (run setup s).2.clock = s.clock := by
  cases hanalyzer : setup.analyzer (s.text.getD []) <;>
    cases hlistener : setup.listener <;> simp [run, deliver, hanalyzer, hlistener]

/-- No step starts or stops the clock. -/
theorem step_running (setup : Setup σ) (step : SchedulerStep) (s : Scheduler σ) :
    (s.step setup step).2.clock.running = s.clock.running := by
  cases step with
  | schedule text =>
      cases htimer : s.timer <;> cases hrunning : s.clock.running <;>
        simp [Scheduler.step, schedule, pending, htimer, hrunning, Clock.arm]
  | flush =>
      cases htimer : s.timer with
      | none => simp [Scheduler.step, flush, htimer]
      | some timer => simp [Scheduler.step, flush_of_timer setup htimer, run_clock, Clock.cancel]
  | cancel =>
      cases htimer : s.timer <;> simp [Scheduler.step, cancel, htimer, Clock.cancel]
  | fire =>
      cases harmed : s.clock.armed <;>
        simp [Scheduler.step, fire, Clock.ring?, harmed, run_clock]

/-- While the clock runs, a step is a step at such a moment. -/
theorem stepAt_of_running (setup : Setup σ) (step : SchedulerStep) {s : Scheduler σ}
    (hrunning : s.clock.running = true) :
    s.stepAt setup ⟨true, step⟩ = s.step setup step := by
  obtain ⟨⟨_, armed, count⟩, timer, text, runs, lastIssues, analyzed, observer⟩ := s
  subst hrunning
  rfl

/-- While the clock runs, every text is taken. -/
theorem schedule_answer {s : Scheduler σ} (hrunning : s.clock.running = true) (text : Text) :
    ∃ armed, (s.schedule text).1 = .scheduled armed := by
  cases hpending : s.timer <;> simp [schedule, pending, hpending, hrunning]

end Scheduler

/-- An item at a place is the item at a natural number. -/
theorem itemAt?_eq_some {α : Type} {items : List α} {place : Int} {item : α} :
    itemAt? items place = some item ↔ ∃ n : Nat, place = n ∧ items[n]? = some item := by
  unfold itemAt?
  split
  · rename_i hneg
    constructor
    · nofun
    · rintro ⟨n, rfl, _⟩
      omega
  · rename_i hpos
    constructor
    · intro h
      exact ⟨place.toNat, by omega, h⟩
    · rintro ⟨n, rfl, h⟩
      exact h

namespace Session

variable {limits : Limits} {audience : Audience}

/-! ## Runs of a session -/

/-- The session after some steps. -/
def after (limits : Limits) (audience : Audience) : Session → List SessionStep → Session
  | s, [] => s
  | s, step :: steps => after limits audience (s.step limits audience step).2 steps

/-- Has a cancel dropped a run since the text was last set, if `dropped` says so of
the time before the step? -/
def droppedBy (step : SessionStep) (dropped : Bool) (s : Session) : Bool :=
  match step with
  | .update _ => false
  | .flush => dropped
  | .cancel => dropped || s.scheduler.pending
  | .fire => dropped
  | .apply issue candidate => dropped && (s.apply issue candidate).2.text = s.text

/-- Has a cancel dropped a run since the text was last set, after some steps? -/
def droppedAfter (limits : Limits) (audience : Audience) :
    Session → Bool → List SessionStep → Bool
  | _, dropped, [] => dropped
  | s, dropped, step :: steps =>
    droppedAfter limits audience (s.step limits audience step).2 (s.droppedBy step dropped) steps

/-- The fix at two places: of the issues that are shown, and of the candidates of
that issue. -/
def Offers (s : Session) (issue candidate : Int) (fix : Fix) : Prop :=
  ∃ (i k : Nat) (found : Issue), issue = i ∧ s.issues[i]? = some found ∧
    candidate = k ∧ found.candidates[k]? = some fix

/-- A choice makes a text exactly if a fix is offered there, and then it is the one the fix makes.
-/
theorem fixed?_eq_some {s : Session} {issue candidate : Int} {text : Text} :
    s.fixed? issue candidate = some text ↔
      ∃ fix, s.Offers issue candidate fix ∧ fix.apply s.text = text := by
  simp only [fixed?, Option.bind_eq_bind, Option.bind_eq_some_iff, itemAt?_eq_some, Offers,
    Option.some.injEq]
  constructor
  · rintro ⟨found, ⟨i, hi, hfound⟩, fix, ⟨k, hk, hfix⟩, happly⟩
    exact ⟨fix, ⟨i, k, found, hi, hfound, hk, hfix⟩, happly⟩
  · rintro ⟨fix, ⟨i, k, found, hi, hfound, hk, hfix⟩, happly⟩
    exact ⟨found, ⟨i, hi, hfound⟩, fix, ⟨k, hk, hfix⟩, happly⟩

/-! ## The invariant -/

/-- The inbox holds the issues of the last delivery. -/
theorem heard_issues (deliveries : List (List Issue)) :
    ((setup limits audience).heard {} deliveries).issues = deliveries.getLastD [] := by
  rcases List.eq_nil_or_concat deliveries with rfl | ⟨earlier, last, rfl⟩
  · rfl
  · cases audience <;> simp [Setup.heard, setup, Audience.receive]

/-- The scheduler of the session is the debouncer `d`, which waits for the text of
the session or for nothing. -/
structure Coherent (limits : Limits) (audience : Audience) (s : Session) (dropped : Bool)
    (d : Debouncer) : Prop where
  /-- The scheduler does what the debouncer does. -/
  refines : Scheduler.Refines (setup limits audience) {} s.scheduler d
  /-- The debouncer keeps account of its runs. -/
  accounted : d.Accounted (setup limits audience)
  /-- The clock runs. -/
  running : s.scheduler.clock.running = true
  /-- A text that waits is the text of the session. -/
  waiting : ∀ text, d.slot = some text → text = s.text
  /-- With nothing waiting and nothing dropped, the text has been analyzed. -/
  settled : d.slot = none → dropped = false → d.lastIssues = analyze limits s.text

/-- A session to which nothing has happened is coherent. -/
theorem Coherent.fresh : Coherent limits audience {} false {} where
  refines := Scheduler.Refines.fresh _ _
  accounted := ⟨rfl, rfl, rfl⟩
  running := rfl
  waiting _ h := nomatch h
  settled _ _ := rfl

/-- In a coherent session a run is pending just where the slot is full. -/
theorem Coherent.pending_eq {s : Session} {dropped : Bool} {d : Debouncer}
    (h : Coherent limits audience s dropped d) : s.scheduler.pending = d.slot.isSome :=
  h.refines.pending_eq

/-- The pending run will see the text of the session. -/
theorem Coherent.pending_text {s : Session} {dropped : Bool} {d : Debouncer}
    (h : Coherent limits audience s dropped d) (hpending : s.scheduler.pending = true) :
    s.scheduler.text = some s.text ∧ d.slot = some s.text := by
  obtain ⟨timer, htimer⟩ := Option.isSome_iff_exists.mp hpending
  obtain ⟨text, htext, hslot⟩ := h.refines.waiting timer htimer
  obtain rfl := h.waiting text hslot
  exact ⟨htext, hslot⟩

/-- What the session shows are the issues of the last run. -/
theorem Coherent.issues_eq {s : Session} {dropped : Bool} {d : Debouncer}
    (h : Coherent limits audience s dropped d) : s.issues = s.scheduler.lastIssues := by
  rw [issues, h.refines.observer, heard_issues, h.accounted.deliveries, h.refines.lastIssues,
    h.accounted.lastIssues]
  rfl

/-- The issues of the last run are those of the text that was analyzed last. -/
theorem Coherent.lastIssues_eq {s : Session} {dropped : Bool} {d : Debouncer}
    (h : Coherent limits audience s dropped d) :
    s.scheduler.lastIssues
      = (s.scheduler.analyzed.getLast?.map (analyze limits)).getD [] := by
  rw [h.refines.lastIssues, h.accounted.lastIssues, h.refines.analyzed]
  rcases List.eq_nil_or_concat d.analyzed with hnil | ⟨earlier, last, hlast⟩
  · simp [hnil]
  · simp [hlast, setup]

/-- An analysis of the text of the session settles it. -/
theorem Coherent.analyze {s : Session} {scheduler : Scheduler Inbox} {dropped : Bool}
    {d : Debouncer} (h : Coherent limits audience s dropped d)
    (hrefines : Scheduler.Refines (setup limits audience) {} scheduler
      (d.analyze (setup limits audience) s.text))
    (hrunning : scheduler.clock.running = true) :
    Coherent limits audience { s with scheduler } dropped
      (d.analyze (setup limits audience) s.text) where
  refines := hrefines
  accounted := h.accounted.analyze s.text
  running := hrunning
  waiting text hslot := by simp [Debouncer.analyze_slot] at hslot
  settled _ _ := by simp [Debouncer.analyze, setup]

/-- Taking a text leaves exactly this text to be analyzed. -/
theorem Coherent.update {s : Session} {dropped : Bool} {d : Debouncer}
    (h : Coherent limits audience s dropped d) (text : Text) :
    (s.update text).1 = .done ∧ (s.update text).2.text = text ∧
      (s.update text).2.scheduler = (s.scheduler.schedule text).2 ∧
      Coherent limits audience (s.update text).2 false { d with slot := some text } := by
  have hmoment : (⟨true, .schedule text⟩ : Moment)
      = ⟨s.scheduler.clock.running, .schedule text⟩ := by
    rw [h.running]
  have hd : (d.step (setup limits audience) ⟨true, .schedule text⟩).2
      = { d with slot := some text } := by
    cases hslot : d.slot <;> simp [Debouncer.step, hslot]
  obtain ⟨_, hrefines⟩ := h.refines.schedule text
  rw [← hmoment, hd] at hrefines
  obtain ⟨armed, hanswer⟩ := Scheduler.schedule_answer h.running text
  have hupdate : s.update text = (.done, ⟨text, (s.scheduler.schedule text).2⟩) := by
    unfold Session.update
    split <;> simp_all
  rw [hupdate]
  refine ⟨rfl, rfl, rfl, hrefines, ?_, ?_, ?_, ?_⟩
  · exact ⟨h.accounted.runs, h.accounted.lastIssues, h.accounted.deliveries⟩
  · exact (Scheduler.step_running (setup limits audience) (.schedule text) s.scheduler).trans
      h.running
  · intro other hother
    exact (Option.some.inj hother).symm
  · intro hslot _
    cases hslot

/-- A flush changes the scheduler alone. -/
theorem step_flush (s : Session) :
    (s.step limits audience .flush).2
      = { s with scheduler := (s.scheduler.flush (setup limits audience)).2 } := by
  rcases hflush : s.scheduler.flush (setup limits audience) with ⟨answer, scheduler⟩
  cases answer <;> simp [Session.step, hflush]

/-- A run that was pending sees the text of the session, whether it is flushed or
fires. -/
theorem Coherent.drain {s : Session} {scheduler : Scheduler Inbox} {dropped : Bool}
    {d : Debouncer} (h : Coherent limits audience s dropped d) {step : SchedulerStep}
    (hstep : step = .flush ∨ step = .fire)
    (hscheduler : scheduler = (s.scheduler.step (setup limits audience) step).2) :
    ∃ d', Coherent limits audience { s with scheduler } dropped d' := by
  have hrefines := (h.refines.stepAt ⟨true, step⟩).2
  rw [Scheduler.stepAt_of_running _ _ h.running, ← hscheduler] at hrefines
  have hrunning : scheduler.clock.running = true := by
    rw [hscheduler, Scheduler.step_running, h.running]
  cases hslot : d.slot with
  | none =>
      rw [Debouncer.step_of_idle _ hstep hslot] at hrefines
      exact ⟨d, hrefines, h.accounted, hrunning, h.waiting, h.settled⟩
  | some text =>
      obtain rfl := h.waiting text hslot
      rw [Debouncer.step_of_waiting _ hstep hslot] at hrefines
      exact ⟨_, h.analyze hrefines hrunning⟩

/-- What is pending is analyzed by a flush and by a firing. -/
theorem Coherent.analyzed_of_pending {s : Session} {dropped : Bool} {d : Debouncer}
    (h : Coherent limits audience s dropped d) (hpending : s.scheduler.pending = true)
    {step : SessionStep} (hstep : step = .flush ∨ step = .fire) :
    (s.step limits audience step).2.scheduler.analyzed = s.scheduler.analyzed ++ [s.text] := by
  have hslot := (h.pending_text hpending).2
  have hanalyzed : ∀ step : SchedulerStep, step = .flush ∨ step = .fire →
      (s.scheduler.step (setup limits audience) step).2.analyzed
        = s.scheduler.analyzed ++ [s.text] := by
    intro step hstep
    have hrefines := (h.refines.stepAt ⟨true, step⟩).2
    rw [Scheduler.stepAt_of_running _ _ h.running,
      Debouncer.step_of_waiting _ hstep hslot] at hrefines
    rw [hrefines.analyzed, h.refines.analyzed, Debouncer.analyze_analyzed]
  rcases hstep with rfl | rfl
  · rw [step_flush]
    exact hanalyzed .flush (Or.inl rfl)
  · exact hanalyzed .fire (Or.inr rfl)

/-- A cancel settles nothing, unless nothing was pending. -/
theorem Coherent.cancel {s : Session} {dropped : Bool} {d : Debouncer}
    (h : Coherent limits audience s dropped d) :
    Coherent limits audience { s with scheduler := s.scheduler.cancel }
      (dropped || s.scheduler.pending) { d with slot := none } where
  refines := h.refines.cancel
  accounted := ⟨h.accounted.runs, h.accounted.lastIssues, h.accounted.deliveries⟩
  running := (Scheduler.step_running (setup limits audience) .cancel s.scheduler).trans h.running
  waiting _ hslot := nomatch hslot
  settled _ hdropped := by
    obtain ⟨hdropped, hpending⟩ := Bool.or_eq_false_iff.mp hdropped
    rw [h.pending_eq] at hpending
    exact h.settled (by simpa using hpending) hdropped

/-- A fix that changes the text is an update with its result. -/
theorem apply_of_offers {s : Session} {issue candidate : Int} {fix : Fix}
    (hoffers : s.Offers issue candidate fix) (hne : fix.apply s.text ≠ s.text)
    {dropped : Bool} {d : Debouncer} (h : Coherent limits audience s dropped d) :
    s.apply issue candidate
      = (.text (fix.apply s.text), (s.update (fix.apply s.text)).2) := by
  obtain ⟨hanswer, htext, _, _⟩ := h.update (fix.apply s.text)
  have hfixed := fixed?_eq_some.mpr ⟨fix, hoffers, rfl⟩
  simp only [apply, hfixed, if_neg hne]
  split <;> simp_all

/-- Where no fix is chosen, or it has no effect, nothing is done. -/
theorem apply_of_not_offers {s : Session} {issue candidate : Int}
    (hnone : ∀ fix, s.Offers issue candidate fix → fix.apply s.text = s.text) :
    s.apply issue candidate = (.text s.text, s) := by
  cases hfixed : s.fixed? issue candidate with
  | none => simp [apply, hfixed]
  | some text =>
      obtain ⟨fix, hoffers, rfl⟩ := fixed?_eq_some.mp hfixed
      simp [apply, hfixed, hnone fix hoffers]

/-- The two outcomes of a choice. -/
theorem offers_or_not (s : Session) (issue candidate : Int) :
    (∃ fix, s.Offers issue candidate fix ∧ fix.apply s.text ≠ s.text) ∨
      ∀ fix, s.Offers issue candidate fix → fix.apply s.text = s.text := by
  by_cases h : ∃ fix, s.Offers issue candidate fix ∧ fix.apply s.text ≠ s.text
  · exact Or.inl h
  · refine Or.inr fun fix hoffers => ?_
    exact Decidable.byContradiction fun hne => h ⟨fix, hoffers, hne⟩

/-- **One step.**  Every step keeps the invariant. -/
theorem Coherent.step {s : Session} {dropped : Bool} {d : Debouncer}
    (h : Coherent limits audience s dropped d) (step : SessionStep) :
    ∃ d', Coherent limits audience (s.step limits audience step).2
      (s.droppedBy step dropped) d' := by
  cases step with
  | update text => exact ⟨_, (h.update text).2.2.2⟩
  | flush =>
      rw [step_flush]
      exact h.drain (Or.inl rfl) rfl
  | cancel => exact ⟨_, h.cancel⟩
  | fire => exact h.drain (Or.inr rfl) rfl
  | apply issue candidate =>
      simp only [Session.step, droppedBy]
      rcases s.offers_or_not issue candidate with ⟨fix, hoffers, hne⟩ | hnone
      · obtain ⟨_, htext, _, hcoherent⟩ := h.update (fix.apply s.text)
        rw [apply_of_offers hoffers hne h]
        exact ⟨{ d with slot := some (fix.apply s.text) }, by simpa [htext, hne] using hcoherent⟩
      · rw [apply_of_not_offers hnone]
        exact ⟨d, by simpa using h⟩

/-- Every run of a fresh session keeps the invariant. -/
theorem Coherent.after {s : Session} {dropped : Bool} {d : Debouncer}
    (h : Coherent limits audience s dropped d) (steps : List SessionStep) :
    ∃ d', Coherent limits audience (s.after limits audience steps)
      (s.droppedAfter limits audience dropped steps) d' := by
  induction steps generalizing s dropped d with
  | nil => exact ⟨d, h⟩
  | cons step steps ih =>
      obtain ⟨d', h'⟩ := h.step step
      exact ih h'

/-- A choice that changes the text leaves its result pending, and the issues as they were. -/
theorem Coherent.apply_of_offers {s : Session} {dropped : Bool} {d : Debouncer}
    (h : Coherent limits audience s dropped d) {issue candidate : Int} {fix : Fix}
    (hoffers : s.Offers issue candidate fix) (hne : fix.apply s.text ≠ s.text) :
    (s.apply issue candidate).1 = .text (s.apply issue candidate).2.text ∧
      (s.apply issue candidate).2.text = fix.apply s.text ∧
      (s.apply issue candidate).2.scheduler.pending = true ∧
      (s.apply issue candidate).2.issues = s.issues ∧
      (s.apply issue candidate).2.scheduler.runs = s.scheduler.runs := by
  obtain ⟨_, htext, _, hcoherent⟩ := h.update (fix.apply s.text)
  rw [Session.apply_of_offers hoffers hne h]
  refine ⟨by rw [htext], htext, hcoherent.pending_eq, ?_, ?_⟩
  · rw [hcoherent.issues_eq, h.issues_eq, hcoherent.refines.lastIssues, h.refines.lastIssues]
  · rw [hcoherent.refines.runs, h.refines.runs]

/-- What a choice of a fix does in a coherent session. -/
theorem Coherent.apply {s : Session} {dropped : Bool} {d : Debouncer}
    (h : Coherent limits audience s dropped d) (issue candidate : Int) :
    (s.apply issue candidate).1 = .text (s.apply issue candidate).2.text ∧
      (∀ fix, s.Offers issue candidate fix → fix.apply s.text ≠ s.text →
        (s.apply issue candidate).2.text = fix.apply s.text ∧
        (s.apply issue candidate).2.scheduler.pending = true ∧
        (s.apply issue candidate).2.issues = s.issues ∧
        (s.apply issue candidate).2.scheduler.runs = s.scheduler.runs) ∧
      ((∀ fix, s.Offers issue candidate fix → fix.apply s.text = s.text) →
        (s.apply issue candidate).2 = s) := by
  refine ⟨?_, fun fix hoffers hne => (h.apply_of_offers hoffers hne).2, fun hnone => ?_⟩
  · rcases s.offers_or_not issue candidate with ⟨fix, hoffers, hne⟩ | hnone
    · exact (h.apply_of_offers hoffers hne).1
    · rw [apply_of_not_offers hnone]
  · rw [apply_of_not_offers hnone]

/-- **Sessions are coherent.**  After every run of a fresh session, whoever listens,

* the pending run will see the text of the session, and a firing or a flush
  analyzes just that;
* the session shows the issues of its scheduler, which are those of the text that
  was analyzed last, or none before the first run;
* where no run is pending, and none was dropped since the text was last set, it
  shows the issues of its own text;
* a choice of a fix answers the text of the session afterwards; where it is a
  choice and changes the text, the result is the new text and pending, with the
  issues and the runs as they were, and otherwise the session stays what it was. -/
theorem coherent_after (limits : Limits) (audience : Audience) (steps : List SessionStep) :
    let s := after limits audience {} steps
    (s.scheduler.pending = true → s.scheduler.text = some s.text ∧
      ∀ step, step = .flush ∨ step = .fire →
        (s.step limits audience step).2.scheduler.analyzed
          = s.scheduler.analyzed ++ [s.text]) ∧
    (s.issues = s.scheduler.lastIssues ∧
      s.issues = (s.scheduler.analyzed.getLast?.map (analyze limits)).getD []) ∧
    (s.scheduler.pending = false → droppedAfter limits audience {} false steps = false →
      s.issues = analyze limits s.text) ∧
    ∀ issue candidate,
      (s.apply issue candidate).1 = .text (s.apply issue candidate).2.text ∧
      (∀ fix, s.Offers issue candidate fix → fix.apply s.text ≠ s.text →
        (s.apply issue candidate).2.text = fix.apply s.text ∧
        (s.apply issue candidate).2.scheduler.pending = true ∧
        (s.apply issue candidate).2.issues = s.issues ∧
        (s.apply issue candidate).2.scheduler.runs = s.scheduler.runs) ∧
      ((∀ fix, s.Offers issue candidate fix → fix.apply s.text = s.text) →
        (s.apply issue candidate).2 = s) := by
  intro s
  obtain ⟨d, h⟩ := (@Coherent.fresh limits audience).after steps
  refine ⟨fun hpending => ⟨(h.pending_text hpending).1, ?_⟩, ⟨h.issues_eq, ?_⟩, ?_,
    fun issue candidate => h.apply issue candidate⟩
  · exact fun step hstep => h.analyzed_of_pending hpending hstep
  · rw [h.issues_eq, h.lastIssues_eq]
  · intro hpending hdropped
    rw [h.pending_eq] at hpending
    have hslot : d.slot = none := by simpa using hpending
    rw [h.issues_eq, h.refines.lastIssues, h.settled hslot hdropped]

/-- The fifth candidate for a header without a direction, chosen before a listener
that fails. -/
theorem coherent_after_choice :
    let s := after {} .failing {} [.update "graph XY".toList, .flush]
    let fix := Fix.replace ⟨1, "graph XY".toList, "graph LR".toList⟩
    s.Offers 0 4 fix ∧ fix.apply s.text ≠ s.text ∧
      (s.apply 0 4).2.text = fix.apply s.text ∧ (s.apply 0 4).2.scheduler.pending = true := by
  intro s fix
  have hoffers : s.Offers 0 4 fix := ⟨0, 4, _, rfl, rfl, rfl, rfl⟩
  have hne : fix.apply s.text ≠ s.text := by decide
  have h := ((coherent_after {} .failing [.update "graph XY".toList, .flush]).2.2.2 0 4).2.1
    fix hoffers hne
  exact ⟨hoffers, hne, h.1, h.2.1⟩

end Session

end Flowchart
