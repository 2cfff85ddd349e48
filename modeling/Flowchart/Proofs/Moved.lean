import Flowchart.Proofs.Direction
import Mathlib.Data.List.Basic

/-!
# One more line

A line that is inserted moves those behind it down by one, and what is reported of
them moves with them.  If no direction is missing in the line itself, the unknown
directions are those before, moved.

Main statement: `checkDirection_moved`.
-/

namespace Flowchart

/-- The number of a line when one more line stands before the line `place`. -/
def movedLine (place line : Int) : Int :=
  if line < place then line else line + 1

/-- The fix when one more line stands before the line `place`. -/
def Fix.moved (place : Int) : Fix → Fix
  | replace change => .replace { change with line := movedLine place change.line }
  | appendEnd ending => .appendEnd ⟨ending.afterLine + 1⟩
  | defineNode definition =>
    .defineNode { definition with
      insertBeforeLine := movedLine place definition.insertBeforeLine }

/-- The issue when one more line stands before the line `place`, and it speaks of no line in
its message. -/
def Issue.moved (place : Int) (issue : Issue) : Issue :=
  { issue with line := movedLine place issue.line, fix := issue.fix.map (Fix.moved place) }

/-- The issue of a header moves with the number of its line. -/
theorem issue?_moved {place : Int} {number other : Nat} (h : movedLine place number = other)
    (header : Header) : (header.issue? number).map (Issue.moved place) = header.issue? other := by
  unfold Header.issue?
  split
  · rfl
  · simp [Issue.moved, Fix.moved, Header.redirect, h]

/-- The issue of a line moves with its number. -/
theorem directionIssue?_moved {place : Int} {line : NumberedLine} {other : Nat}
    (h : movedLine place line.number = other) :
    line.directionIssue?.map (Issue.moved place)
      = (NumberedLine.mk other line.text).directionIssue? := by
  unfold NumberedLine.directionIssue?
  cases Header.ofLine? line.text with
  | none => rfl
  | some header => exact issue?_moved h header

/-- **Beside one more line the unknown directions are those before, moved.** -/
theorem checkDirection_moved {limits : Limits} {new : Text}
    (hnew : ∀ number, (NumberedLine.mk number new).directionIssue? = none)
    (front back : List Text) :
    checkDirection limits (front ++ new :: back)
      = (checkDirection limits (front ++ back)).map (Issue.moved (front.length + 1)) := by
  have hfront : ∀ line ∈ inspectedFrom limits 1 front,
      line.directionIssue? = line.directionIssue?.map (Issue.moved (front.length + 1)) := by
    intro line hline
    obtain ⟨_, hbefore⟩ := number_of_mem_inspectedFrom hline
    refine (directionIssue?_moved ?_).symm
    rw [movedLine, if_pos (by omega)]
  have hback : ∀ line ∈ inspectedFrom limits (1 + front.length) back,
      (NumberedLine.mk (line.number + 1) line.text).directionIssue?
        = line.directionIssue?.map (Issue.moved (front.length + 1)) := by
    intro line hline
    obtain ⟨hbehind, _⟩ := number_of_mem_inspectedFrom hline
    refine (directionIssue?_moved ?_).symm
    rw [movedLine, if_neg (by omega)]
    rfl
  have hsilent := @filterMap_directionIssue?_eq_nil limits [new]
    (List.forall_mem_singleton.mpr hnew)
  have hchecked : checkDirection limits front
      = (inspectedFrom limits 1 front).filterMap (·.directionIssue?) := rfl
  rw [checkDirection_insert, hsilent, List.nil_append, checkDirection_append, hchecked,
    List.map_append, List.map_filterMap, List.map_filterMap,
    inspectedFrom_succ limits (1 + front.length), List.filterMap_map]
  exact congr (congrArg _ (List.filterMap_congr hfront)) (List.filterMap_congr hback)

end Flowchart
