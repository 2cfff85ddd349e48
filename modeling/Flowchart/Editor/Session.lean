import Flowchart.Analysis
import Flowchart.Editor.Scheduler
import Flowchart.Fix.Apply
import Flowchart.Fix.Candidates

/-!
# Editor sessions

A session owns the text of one buffer and a scheduler that looks at it.  The
issues that the scheduler delivers are the ones whose fixes can be applied; they
may be those of an older text, and a choice that does not fit changes nothing.
-/

namespace Flowchart

/-- What a session has been given by its scheduler. -/
structure Inbox where
  /-- The issues of the last delivery. -/
  issues : List Issue := []
  /-- The deliveries that were passed on to the session's own listener. -/
  passedOn : List (List Issue) := []
  deriving DecidableEq, Repr

/-- The listener of a session. -/
inductive Audience where
  /-- There is none. -/
  | absent
  /-- There is one. -/
  | attentive
  /-- There is one, and it fails on every delivery. -/
  | failing
  deriving DecidableEq, Repr

/-- Take a delivery, and pass it on to those who listen. -/
def Audience.receive (audience : Audience) : Listener Inbox := fun issues inbox =>
  let inbox := { inbox with issues := issues }
  match audience with
  | .absent => (inbox, false)
  | .attentive => ({ inbox with passedOn := inbox.passedOn ++ [issues] }, false)
  | .failing => ({ inbox with passedOn := inbox.passedOn ++ [issues] }, true)

/-- The state of one editor buffer. -/
structure Session where
  /-- The text of the buffer. -/
  text : Text := []
  /-- The scheduler that looks at it. -/
  scheduler : Scheduler Inbox := ⟨{}, none, none, 0, [], [], {}⟩

/-- What can be done with a session. -/
inductive SessionStep where
  /-- The buffer has a new text. -/
  | update (text : Text)
  /-- Run now what is pending. -/
  | flush
  /-- Drop what is pending. -/
  | cancel
  /-- Let the armed timer go off. -/
  | fire
  /-- Apply a candidate fix of an issue, both by their places. -/
  | apply (issue candidate : Int)
  deriving DecidableEq, Repr

/-- What a step answers. -/
inductive SessionAnswer where
  /-- Nothing to say. -/
  | done
  /-- The issues of the run that was pending, if one was. -/
  | flushed (issues : Option (List Issue))
  /-- The text of the buffer. -/
  | text (text : Text)
  /-- The step failed. -/
  | failed (error : EditorError)
  deriving DecidableEq, Repr

/-- The item at a place of a list; nothing outside the list. -/
def itemAt? {α : Type} (items : List α) (place : Int) : Option α :=
  if place < 0 then none else items[place.toNat]?

namespace Session

/-- The scheduler's means: the analysis of texts, and the session's inbox. -/
def setup (limits : Limits) (audience : Audience) : Setup Inbox where
  analyzer text := some (analyze limits text)
  listener := some audience.receive

/-- The issues whose fixes can be applied. -/
def issues (s : Session) : List Issue :=
  s.scheduler.observer.issues

/-- Take a new text and have it looked at. -/
def update (text : Text) (s : Session) : SessionAnswer × Session :=
  match s.scheduler.schedule text with
  | (.failed error, scheduler) => (.failed error, ⟨text, scheduler⟩)
  | (_, scheduler) => (.done, ⟨text, scheduler⟩)

/-- The text with the chosen fix applied, unless there is no such choice. -/
def fixed? (issue candidate : Int) (s : Session) : Option Text := do
  let issue ← itemAt? s.issues issue
  let fix ← itemAt? issue.candidates candidate
  some (fix.apply s.text)

/-- Apply the chosen fix; the answer is the text afterwards. -/
def apply (issue candidate : Int) (s : Session) : SessionAnswer × Session :=
  match s.fixed? issue candidate with
  | none => (.text s.text, s)
  | some text =>
    if text = s.text then (.text s.text, s)
    else
      match s.update text with
      | (.failed error, s) => (.failed error, s)
      | (_, s) => (.text s.text, s)

/-- Take one step. -/
def step (limits : Limits) (audience : Audience) :
    SessionStep → Session → SessionAnswer × Session
  | .update text, s => s.update text
  | .flush, s =>
    match s.scheduler.flush (setup limits audience) with
    | (.flushed issues, scheduler) => (.flushed issues, { s with scheduler })
    | (.failed error, scheduler) => (.failed error, { s with scheduler })
    | (_, scheduler) => (.done, { s with scheduler })
  | .cancel, s => (.done, { s with scheduler := s.scheduler.cancel })
  | .fire, s => (.done, { s with scheduler := s.scheduler.fire (setup limits audience) })
  | .apply issue candidate, s => s.apply issue candidate

end Session

end Flowchart
