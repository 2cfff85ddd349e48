import Flowchart.Distance
import Flowchart.Document
import Flowchart.Issue

/-!
# References that look misspelt

A reference that is defined nowhere, but is close to a node that is, may be a
misspelt one.  The first node that is close enough is suggested, not the closest,
and the issue stands where the reference is first seen outside comments.
-/

namespace Flowchart

/-- Is the reference close enough to the node to be a misspelling of it, without
regard to case? -/
def isProbableTypo (limits : Limits) (reference node : Text) : Bool :=
  let delta : Int := ((reference.length : Int) - node.length).natAbs
  delta ≤ limits.typoMaxLengthDelta
    && editDistance (lower reference) (lower node) ≤ limits.typoMaxDistance

/-- The first node that the reference may be a misspelling of. -/
def closestDefinition? (limits : Limits) (reference : Text) (nodes : List Text) :
    Option Text :=
  nodes.find? (isProbableTypo limits reference)

/-- The first place where a name stands among numbered lines, comments apart. -/
def locateFrom? (name : Text) : List NumberedLine → Option (Nat × Nat)
  | [] => none
  | line :: lines =>
    if isComment line.text then locateFrom? name lines
    else
      match indexOf? name line.text with
      | some offset => some (line.number, offset + 1)
      | none => locateFrom? name lines

/-- The line and the column where a name first stands outside comments. -/
def locate? (name : Text) (lines : List Text) : Option (Nat × Nat) :=
  locateFrom? name (numbered lines)

/-- The issue of a reference for which `node` was meant. -/
def typoIssue (reference node : Text) (line column : Nat) : Issue where
  kind := .possibleTypo
  line := line
  column := column
  message :=
    "'".toList ++ reference ++ "' is referenced but never defined; did you mean '".toList
      ++ node ++ "'?".toList
  suggestion := some node
  fix := some (.defineNode ⟨reference, line⟩)

/-- The issue of a reference, if it looks misspelt. -/
def typoIssue? (limits : Limits) (lines nodes : List Text) (reference : Text) :
    Option Issue := do
  if nodes.contains reference then none
  else if (reference.length : Int) < limits.typoMinLength then none
  else
    let node ← closestDefinition? limits reference nodes
    let (line, column) ← locate? reference lines
    some (typoIssue reference node line column)

/-- The issues of the references of a document. -/
def checkTypos (limits : Limits) (lines : List Text) (names : Names) : List Issue :=
  names.references.filterMap (typoIssue? limits lines names.nodes)

end Flowchart
