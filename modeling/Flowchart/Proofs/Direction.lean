import Flowchart.Check.Direction
import Flowchart.Proofs.Document

/-!
# The check of directions, line by line

Each line that is looked at is checked by itself.  So the issues of a document are
those in front of a line, that of the line, and those behind it.
-/

namespace Flowchart

/-- The issue of a line that is a header without a direction. -/
def NumberedLine.directionIssue? (line : NumberedLine) : Option Issue :=
  (Header.ofLine? line.text).bind fun header => header.issue? line.number

/-- There is no issue about the direction of a line that is no header. -/
theorem NumberedLine.directionIssue?_of_ofLine? {line : NumberedLine}
    (h : Header.ofLine? line.text = none) : line.directionIssue? = none := by
  rw [directionIssue?, h]
  rfl

/-- What is known of the issue of a header. -/
theorem of_issue?_eq_some {header : Header} {number : Nat} {issue : Issue}
    (h : header.issue? number = some issue) :
    issue.kind = .unknownDirection ∧ Direction.ofName? header.direction = none ∧
      issue.line = number ∧ issue.fix = some (header.redirect number .topDown) := by
  unfold Header.issue? at h
  split at h
  · cases h
  · rename_i hdirection
    obtain rfl := Option.some.inj h
    exact ⟨rfl, by simpa using hdirection, rfl, rfl⟩

/-- The lines in front are checked by themselves, and those behind them with their own numbers. -/
theorem checkDirection_append (limits : Limits) (front back : List Text) :
    checkDirection limits (front ++ back)
      = checkDirection limits front
        ++ (inspectedFrom limits (1 + front.length) back).filterMap (·.directionIssue?) := by
  unfold checkDirection
  rw [inspectedLines_append, List.filterMap_append]
  rfl

/-- A line between others is checked between them. -/
theorem checkDirection_insert (limits : Limits) (front : List Text) (line : Text)
    (back : List Text) :
    checkDirection limits (front ++ line :: back)
      = checkDirection limits front
        ++ ((inspectedFrom limits (1 + front.length) [line]).filterMap (·.directionIssue?)
          ++ (inspectedFrom limits (1 + front.length + 1) back).filterMap (·.directionIssue?)) := by
  rw [checkDirection_append, inspectedFrom_cons, List.filterMap_append]

/-- Lines that are no headers without a direction are not reported. -/
theorem filterMap_directionIssue?_eq_nil {limits : Limits} {lines : List Text}
    (h : ∀ line ∈ lines, ∀ number, (NumberedLine.mk number line).directionIssue? = none)
    (number : Nat) :
    (inspectedFrom limits number lines).filterMap (·.directionIssue?) = [] :=
  List.filterMap_eq_nil_iff.mpr fun found hfound =>
    h found.text (text_mem_of_mem_inspectedFrom hfound) found.number

end Flowchart
