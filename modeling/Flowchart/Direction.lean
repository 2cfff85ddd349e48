import Flowchart.Text

/-!
# Directions

A diagram runs in one of five directions, each of which has a name of two
letters that may be written in either case.
-/

namespace Flowchart

/-- The direction in which a diagram is laid out. -/
inductive Direction where
  /-- From the top down. -/
  | topDown
  /-- From the top to the bottom. -/
  | topBottom
  /-- From the bottom to the top. -/
  | bottomTop
  /-- From the right to the left. -/
  | rightLeft
  /-- From the left to the right. -/
  | leftRight
  deriving DecidableEq, Repr

namespace Direction

/-- The directions, in the order in which they are offered. -/
def all : List Direction :=
  [topDown, topBottom, bottomTop, rightLeft, leftRight]

/-- The name of a direction, in capitals. -/
def name : Direction → Text
  | topDown => "TD".toList
  | topBottom => "TB".toList
  | bottomTop => "BT".toList
  | rightLeft => "RL".toList
  | leftRight => "LR".toList

/-- The direction of a name in either case.  No character outside ASCII has one
of these letters as its capital. -/
def ofName? (text : Text) : Option Direction :=
  all.find? fun direction => direction.name = text.map Char.toUpper

/-- The names of all directions, for a message. -/
def choices : Text :=
  joinWith ", ".toList (all.map name)

end Direction

end Flowchart
