import Flowchart.Token.Arrow
import Flowchart.Token.Identifier
import Flowchart.Token.Line

/-!
# Stretches between arrows

The arrows of a prepared line cut it into stretches.  The endpoint of an arrow
is the name with which the stretch before it ends, and the name with which the
stretch behind it begins.  A stretch defines the names in it, except one that is
only the target of the arrow before and has no shape.
-/

namespace Flowchart

/-- A stretch of a line, between two arrows or an arrow and an end of the line. -/
structure Stretch where
  /-- Does an arrow stand before it? -/
  entered : Bool
  /-- The characters of the stretch. -/
  text : Text
  /-- The arrow behind it, with its label. -/
  arrow : Option Text
  deriving DecidableEq, Repr

/-- Put a character in front of the first stretch. -/
def consStretch (c : Char) : List Stretch → List Stretch
  | [] => []
  | stretch :: rest => { stretch with text := c :: stretch.text } :: rest

/-- The stretches of pieces whose lexemes are arrows. -/
def stretchesFrom (entered : Bool) : List Piece → List Stretch
  | [] => [⟨entered, [], none⟩]
  | .plain c :: rest => consStretch c (stretchesFrom entered rest)
  | .lexeme text _ :: rest => ⟨entered, [], some text⟩ :: stretchesFrom true rest

/-- The stretches of a prepared line. -/
def stretches (prepared : Text) : List Stretch :=
  stretchesFrom false (pieces arrow prepared)

/-- Is the name one that a node can have? -/
def isNodeName (name : Occurrence) : Bool :=
  !isKeyword name.text

namespace Stretch

/-- The arrow behind the stretch; empty at the end of the line. -/
def arrowText (stretch : Stretch) : Text :=
  stretch.arrow.getD []

/-- The node from which the arrow behind the stretch leads. -/
def source? (stretch : Stretch) : Option Occurrence :=
  if stretch.arrow.isSome then (lastEndpoint? stretch.text).filter isNodeName else none

/-- The node to which the arrow before the stretch leads.  It is read with the
next arrow in sight, which may take a hyphen from its end. -/
def target? (stretch : Stretch) : Option Occurrence :=
  if stretch.entered then
    (firstEndpoint? (stretch.text ++ stretch.arrowText)).filter isNodeName
  else none

/-- Does the stretch define a name that stands in it? -/
def defines (stretch : Stretch) (name : Occurrence) : Bool :=
  isNodeName name
    && (opensShape name.rest
      || (stretch.source?.map (·.start)) == some name.start
      || (stretch.target?.map (·.start)) != some name.start)

/-- The names that the stretch, and the label of the arrow behind it, define. -/
def definitions (stretch : Stretch) : List Text :=
  ((occurrences identifier stretch.text).filter stretch.defines
    ++ (shapedNames stretch.arrowText).filter isNodeName).map (·.text)

/-- The endpoints in the stretch. -/
def references (stretch : Stretch) : List Text :=
  (stretch.target?.toList ++ stretch.source?.toList).map (·.text)

end Stretch

end Flowchart
