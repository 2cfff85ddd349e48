import Flowchart.Editor.Clock
import Flowchart.Issue

/-!
# Scheduled analysis

Changes of a text come faster than analysis is needed.  The scheduler keeps at
most one run armed: the first change arms it, later changes only exchange the
text that it will see.  A run is given to an analyzer, which may fail, and its
issues go to a listener, whose failure is nobody's concern.
-/

namespace Flowchart

/-- What can go wrong in an editor. -/
inductive EditorError where
  /-- A run was to be armed while no clock runs. -/
  | noClock
  /-- The analyzer failed. -/
  | analysisFailed
  deriving DecidableEq, Repr

/-- What is said of an error. -/
def EditorError.message : EditorError → Text
  | noClock => "no running event loop".toList
  | analysisFailed => "analyzer failed".toList

/-- An analyzer finds the issues of a text, or fails. -/
abbrev Analyzer := Text → Option (List Issue)

/-- A listener is given the issues of a run.  It is known by the state that it
has afterwards and by whether it failed. -/
abbrev Listener (σ : Type) := List Issue → σ → σ × Bool

/-- What a scheduler works with. -/
structure Setup (σ : Type) where
  /-- The analyzer. -/
  analyzer : Analyzer
  /-- The listener, if there is one. -/
  listener : Option (Listener σ)

/-- A scheduler whose listener has states in `σ`. -/
structure Scheduler (σ : Type) where
  /-- The clock on which runs are armed. -/
  clock : Clock
  /-- The timer of the pending run. -/
  timer : Option Nat := none
  /-- The text that the pending run will see. -/
  text : Option Text := none
  /-- The number of runs that came to an end. -/
  runs : Nat := 0
  /-- The issues of the last of them. -/
  lastIssues : List Issue := []
  /-- The texts that the analyzer was given. -/
  analyzed : List Text := []
  /-- The state of the listener. -/
  observer : σ

/-- What can be done with a scheduler. -/
inductive SchedulerStep where
  /-- The text has changed. -/
  | schedule (text : Text)
  /-- Run now what is pending. -/
  | flush
  /-- Drop what is pending. -/
  | cancel
  /-- Let the armed timer go off. -/
  | fire
  deriving DecidableEq, Repr

/-- What a step answers. -/
inductive SchedulerAnswer where
  /-- A text was taken; was a run armed for it? -/
  | scheduled (armed : Bool)
  /-- The issues of the run that was pending, if one was. -/
  | flushed (issues : Option (List Issue))
  /-- Nothing to say. -/
  | done
  /-- The step failed. -/
  | failed (error : EditorError)
  deriving DecidableEq, Repr

namespace Scheduler

variable {σ : Type}

/-- Is a run pending? -/
def pending (s : Scheduler σ) : Bool :=
  s.timer.isSome

/-- Hand issues to the listener. -/
def deliver (setup : Setup σ) (issues : List Issue) (s : Scheduler σ) : Scheduler σ :=
  match setup.listener with
  | none => s
  | some listener => { s with observer := (listener issues s.observer).1 }

/-- Analyze the text at hand, and hand on the issues. -/
def run (setup : Setup σ) (s : Scheduler σ) : Option (List Issue) × Scheduler σ :=
  let text := s.text.getD []
  let s := { s with timer := none, text := none, analyzed := s.analyzed ++ [text] }
  match setup.analyzer text with
  | none => (none, s)
  | some issues =>
    let s := { s with runs := s.runs + 1, lastIssues := issues }
    (some issues, s.deliver setup issues)

/-- Take a new text, and arm a run unless one is pending. -/
def schedule (text : Text) (s : Scheduler σ) : SchedulerAnswer × Scheduler σ :=
  let s := { s with text := some text }
  if s.pending then (.scheduled false, s)
  else if s.clock.running then
    (.scheduled true, { s with timer := some s.clock.count, clock := s.clock.arm })
  else (.failed .noClock, s)

/-- Drop the pending run, if there is one. -/
def cancel (s : Scheduler σ) : Scheduler σ :=
  match s.timer with
  | none => s
  | some timer => { s with clock := s.clock.cancel timer, timer := none, text := none }

/-- Run now what is pending. -/
def flush (setup : Setup σ) (s : Scheduler σ) : SchedulerAnswer × Scheduler σ :=
  match s.timer with
  | none => (.flushed none, s)
  | some timer =>
    match run setup { s with clock := s.clock.cancel timer } with
    | (some issues, s) => (.flushed (some issues), s)
    | (none, s) => (.failed .analysisFailed, s)

/-- Let the armed timer go off, if there is one; a failure is lost. -/
def fire (setup : Setup σ) (s : Scheduler σ) : Scheduler σ :=
  match s.clock.ring? with
  | none => s
  | some clock => (run setup { s with clock := clock }).2

/-- Take one step. -/
def step (setup : Setup σ) : SchedulerStep → Scheduler σ → SchedulerAnswer × Scheduler σ
  | .schedule text, s => s.schedule text
  | .flush, s => s.flush setup
  | .cancel, s => (.done, s.cancel)
  | .fire, s => (.done, s.fire setup)

end Scheduler

end Flowchart
