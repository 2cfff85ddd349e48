import Flowchart.Edge.Stretch
import Flowchart.Limits
import Flowchart.Token.Prepared

/-!
# Documents

A document is the list of its lines, numbered from one.  Comments and lines
beyond the length limit are not inspected.  The names of a document are the
nodes that its lines define and the endpoints that its arrows refer to, each
once and in order of first appearance.
-/

namespace Flowchart

/-- A line with its number. -/
structure NumberedLine where
  /-- The number, from one on. -/
  number : Nat
  /-- The characters. -/
  text : Text
  deriving DecidableEq, Repr

/-- The lines with their numbers, the first of which is `number`. -/
def numberFrom : (number : Nat) → List Text → List NumberedLine
  | _, [] => []
  | number, line :: lines => ⟨number, line⟩ :: numberFrom (number + 1) lines

/-- The lines of a document with their numbers. -/
def numbered (lines : List Text) : List NumberedLine :=
  numberFrom 1 lines

/-- Is the line looked at by the checks? -/
def isInspected (limits : Limits) (line : Text) : Bool :=
  line.length ≤ limits.maxLineLength && !isComment line

/-- The lines that are looked at. -/
def inspectedLines (limits : Limits) (lines : List Text) : List NumberedLine :=
  (numbered lines).filter fun line => isInspected limits line.text

/-- The nodes and the references of a document. -/
structure Names where
  /-- The names of the nodes that are defined. -/
  nodes : List Text
  /-- The names at the ends of arrows. -/
  references : List Text
  deriving DecidableEq, Repr

/-- Does the line define or refer to nodes at all? -/
def namesNodes (line : Text) : Bool :=
  (Header.ofLine? line).isNone && !isStatement line

/-- The nodes that a line defines, in order and with repetitions. -/
def lineDefinitions (line : Text) : List Text :=
  if namesNodes line then (stretches (prepareLine line)).flatMap Stretch.definitions
  else []

/-- The endpoints of the arrows in a line, in order and with repetitions. -/
def lineReferences (line : Text) : List Text :=
  if namesNodes line then (stretches (prepareLine line)).flatMap Stretch.references
  else []

/-- The names of a document. -/
def extractNames (limits : Limits) (lines : List Text) : Names :=
  let inspected := (inspectedLines limits lines).map (·.text)
  ⟨(inspected.flatMap lineDefinitions).eraseDups,
   (inspected.flatMap lineReferences).eraseDups⟩

end Flowchart
