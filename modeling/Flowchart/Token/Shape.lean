import Flowchart.Text

/-!
# Shapes

A node's shape is a group in brackets behind its name.  The characters inside a
group are a label and name nothing, so masking leaves the outer brackets of each
group alone.  Brackets of the three kinds are counted together: any closing
bracket ends the innermost group.  A group that nothing closes is kept as it is,
with all that follows.
-/

namespace Flowchart

/-- Is `c` an opening bracket? -/
def isOpener (c : Char) : Bool :=
  c = '[' || c = '(' || c = '\x7b'

/-- Is `c` a closing bracket? -/
def isCloser (c : Char) : Bool :=
  c = ']' || c = ')' || c = '\x7d'

/-- Does the text close `depth` open groups? -/
def closes : (depth : Nat) → Text → Bool
  | 0, _ => true
  | _ + 1, [] => false
  | depth + 1, c :: rest =>
    if isOpener c then closes (depth + 2) rest
    else if isCloser c then closes depth rest
    else closes (depth + 1) rest

/-- Mask a text that begins inside `depth` groups. -/
def maskFrom : (depth : Nat) → Text → Text
  | _, [] => []
  | 0, c :: rest =>
    if isOpener c && !closes 1 rest then c :: rest
    else c :: maskFrom (if isOpener c then 1 else 0) rest
  | depth + 1, c :: rest =>
    if isOpener c then maskFrom (depth + 2) rest
    else if !isCloser c then maskFrom (depth + 1) rest
    else if depth = 0 then c :: maskFrom 0 rest
    else maskFrom depth rest

/-- The text with each group shrunk to its two outer brackets. -/
def maskShapes (line : Text) : Text :=
  maskFrom 0 line

/-- The text behind a masked shape, if one stands at its front. -/
def dropShape : Text → Text
  | '[' :: ']' :: rest => rest
  | '(' :: ')' :: rest => rest
  | '\x7b' :: '\x7d' :: rest => rest
  | text => text

end Flowchart
