import Flowchart.Command.Execution

/-!
# Commands that are begun

A command is begun once logging is set up, which takes a level that is known or the wish to
be quiet.  Where it is not set up nothing has happened but that the program has failed.

Main statements: `exists_logging_iff`, `execute_of_read`, `execute_of_not_canLog`.
-/

namespace Flowchart

/-- Logging can be set up: all is to be quiet, or the settings name one of the levels, in any
case. -/
def Settings.CanLog (settings : Settings) (quiet : Bool) : Prop :=
  quiet = true ∨ upper settings.logLevel ∈
    ["CRITICAL".toList, "FATAL".toList, "ERROR".toList, "WARN".toList, "WARNING".toList,
     "INFO".toList, "DEBUG".toList, "NOTSET".toList]

namespace LogLevel

/-- A level is found exactly if its name stands in the list of all names. -/
theorem isSome_ofName?_iff {name : Text} :
    (ofName? name).isSome = true ↔ name ∈ named.map (·.1) := by
  rw [ofName?, Option.isSome_map, List.find?_isSome, List.mem_map]
  simp only [decide_eq_true_eq]

end LogLevel

variable {settings : Settings} {arguments : List Text}

/-- Logging is set up exactly if it can be. -/
theorem exists_logging_iff {quiet : Bool} :
    (∃ logging, settings.logging quiet = .ok logging) ↔ settings.CanLog quiet := by
  unfold Settings.logging Settings.CanLog
  by_cases hquiet : quiet = true
  · rw [if_pos hquiet]
    exact iff_of_true ⟨_, rfl⟩ (Or.inl hquiet)
  · rw [if_neg hquiet]
    rw [or_iff_right hquiet]
    refine Iff.trans ?_ LogLevel.isSome_ofName?_iff
    cases LogLevel.ofName? (upper settings.logLevel) with
    | none =>
        refine iff_of_false ?_ Bool.false_ne_true
        intro hlogging
        obtain ⟨_, hlogging⟩ := hlogging
        cases hlogging
    | some level => exact iff_of_true ⟨_, rfl⟩ rfl

/-- What can be logged can be kept quiet. -/
theorem Settings.CanLog.quiet (h : settings.CanLog false) (quiet : Bool) :
    settings.CanLog quiet := by
  obtain hfalse | hnamed := h
  · cases hfalse
  · exact Or.inr hnamed

/-- The level that is set where no other is has a name. -/
theorem canLog_default (quiet : Bool) : ({} : Settings).CanLog quiet :=
  Or.inr (by decide)

example : ({ logLevel := "Warning".toList } : Settings).CanLog false :=
  Or.inr (by decide)

/-- A command that is read waits for logging to be set up. -/
theorem execute_eq {command : Command}
    (h : Invocation.read settings arguments = .ok { command := some command })
    (run : Run) (directory : Directory) :
    execute settings run directory arguments
      = match settings.logging command.quiet with
        | .error error => .failed (.report (.level error))
        | .ok _ => command.execute settings.limits run directory := by
  rw [execute, h]
  rfl

/-- With logging set up a command is carried out. -/
theorem execute_of_read {command : Command}
    (h : Invocation.read settings arguments = .ok { command := some command })
    (hlog : settings.CanLog command.quiet) (run : Run) (directory : Directory) :
    execute settings run directory arguments = command.execute settings.limits run directory := by
  obtain ⟨logging, hlogging⟩ := exists_logging_iff.mpr hlog
  rw [execute_eq h, hlogging]

/-- Where logging cannot be set up no command is begun. -/
theorem execute_of_not_canLog {command : Command}
    (h : Invocation.read settings arguments = .ok { command := some command })
    (hlog : ¬ settings.CanLog command.quiet) (run : Run) (directory : Directory) :
    ∃ error, execute settings run directory arguments = .failed error := by
  rw [execute_eq h]
  cases hlogging : settings.logging command.quiet with
  | ok logging => exact absurd (exists_logging_iff.mp ⟨logging, hlogging⟩) hlog
  | error error => exact ⟨_, rfl⟩

end Flowchart
