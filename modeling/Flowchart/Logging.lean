import Flowchart.Settings
import Flowchart.Text.Quoted
import Flowchart.Text.UpperCase

/-!
# Logging

What a program does on the way is logged in lines of their own, from a least level on, unless
it is told to be quiet.  The settings name the level, in any case; where no level has that
name the program ends before it has begun.  What the lines say and when they were written is
left to those who read them, as they are written to the standard error output alone.
-/

namespace Flowchart

/-- The levels of log lines. -/
inductive LogLevel where
  /-- All lines. -/
  | all
  /-- Lines for those who look for a mistake. -/
  | debug
  /-- What was done. -/
  | info
  /-- What could have gone better. -/
  | warning
  /-- What went wrong. -/
  | error
  /-- What cannot go on. -/
  | critical
  deriving DecidableEq, Repr

namespace LogLevel

/-- The levels by their names; two of them have two. -/
def named : List (Text × LogLevel) :=
  [("CRITICAL".toList, critical), ("FATAL".toList, critical), ("ERROR".toList, error),
   ("WARN".toList, warning), ("WARNING".toList, warning), ("INFO".toList, info),
   ("DEBUG".toList, debug), ("NOTSET".toList, all)]

/-- The level of that name. -/
def ofName? (name : Text) : Option LogLevel :=
  (named.find? fun entry => entry.1 = name).map (·.2)

end LogLevel

/-- Where log lines go. -/
inductive Logging where
  /-- Nowhere. -/
  | quiet
  /-- To the standard error output, from a least level on. -/
  | lines (least : LogLevel) (format : LogFormat)
  deriving DecidableEq, Repr

/-- A name that no level has. -/
structure UnknownLevel where
  /-- The name, in capitals. -/
  name : Text
  deriving DecidableEq, Repr

/-- What is said of the error. -/
def UnknownLevel.message (error : UnknownLevel) : Text :=
  "Unknown level: ".toList ++ quoted error.name

/-- The logging that the settings ask for; where all is quiet they are not looked at. -/
def Settings.logging (settings : Settings) (quiet : Bool) : Except UnknownLevel Logging :=
  if quiet then .ok .quiet
  else
    match LogLevel.ofName? (upper settings.logLevel) with
    | some level => .ok (.lines level settings.logFormat)
    | none => .error ⟨upper settings.logLevel⟩

end Flowchart
