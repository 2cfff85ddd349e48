import Flowchart.Check.Direction

/-!
# Candidate fixes

Every issue has a list of candidate fixes, of which its own fix comes first.  A
direction has a candidate for each of the five.  A closing line that nothing
opened has none, since the block it was meant for is not known; and a reference
that looks misspelt is not renamed, as its line may hold the name only as a part
of another.
-/

namespace Flowchart

/-- The candidates for a header: the old text up to its direction, with each
direction in turn.  Where the old text is no header, the replacement itself is
all there is. -/
def Replacement.directions (change : Replacement) : List Replacement :=
  match Header.ofLine? change.oldText with
  | none => [change]
  | some header =>
    Direction.all.map fun direction =>
      { change with
        newText := change.oldText.take header.directionStart ++ direction.name }

/-- The candidate fixes of an issue. -/
def Issue.candidates (issue : Issue) : List Fix :=
  match issue.kind, issue.fix with
  | .unknownDirection, some (.replace change) => change.directions.map .replace
  | .missingEnd, some fix => [fix]
  | .possibleTypo, some (.defineNode definition) => [.defineNode definition]
  | _, _ => []

end Flowchart
