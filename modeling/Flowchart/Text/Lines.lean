import Flowchart.Text

/-!
# Lines

A line ends at a line feed, or at a carriage return with a line feed behind it;
a carriage return alone is a character like any other.  The last line needs no
end, so a text that ends in a line break has an empty last line, and the empty
text has one empty line.
-/

namespace Flowchart

/-- The two ways of ending a line. -/
inductive Newline where
  /-- A line feed alone. -/
  | lf
  /-- A carriage return and a line feed. -/
  | crlf
  deriving DecidableEq, Repr

namespace Newline

/-- The characters that end a line. -/
def text : Newline → Text
  | lf => ['\n']
  | crlf => ['\r', '\n']

/-- The newline of a text: the longer one as soon as it occurs anywhere. -/
def ofText (source : Text) : Newline :=
  if contains crlf.text source then crlf else lf

end Newline

/-- Put a character in front of the first line. -/
def consFirst (c : Char) : List Text → List Text
  | [] => [[c]]
  | line :: lines => (c :: line) :: lines

/-- The lines of a text, of which there is always at least one. -/
def splitLines : Text → List Text
  | [] => [[]]
  | '\r' :: '\n' :: rest => [] :: splitLines rest
  | '\n' :: rest => [] :: splitLines rest
  | c :: rest => consFirst c (splitLines rest)

/-- One text from its lines, with `newline` between each and the next. -/
def joinLines (newline : Text) (lines : List Text) : Text :=
  joinWith newline lines

end Flowchart
