/-!
# The clock

The clock holds the timers that are armed, in the order in which they will go
off.  A timer that is cancelled never goes off.  Only a running clock can arm one.
-/

namespace Flowchart

/-- The timers of an editor. -/
structure Clock where
  /-- Does the clock run? -/
  running : Bool := true
  /-- The armed timers, the next first. -/
  armed : List Nat := []
  /-- The number of timers armed so far, which numbers the next. -/
  count : Nat := 0
  deriving DecidableEq, Repr

namespace Clock

/-- Arm one more timer. -/
def arm (clock : Clock) : Clock :=
  { clock with armed := clock.armed ++ [clock.count], count := clock.count + 1 }

/-- Cancel a timer. -/
def cancel (clock : Clock) (timer : Nat) : Clock :=
  { clock with armed := clock.armed.filter (· ≠ timer) }

/-- Let the next timer go off; nothing where none is armed. -/
def ring? (clock : Clock) : Option Clock :=
  match clock.armed with
  | [] => none
  | _ :: armed => some { clock with armed := armed }

end Clock

end Flowchart
