import Flowchart.Document
import Flowchart.Issue

/-!
# The balance of blocks

Lines that open a block push a frame, lines that close one pop the innermost.  A
closing line without a frame is an unexpected end, which no fix can mend, since
nobody knows which block was meant.  The frames that are left are missing their
ends; each is fixed by one more closing line at the end of the document.
-/

namespace Flowchart

/-- A line that opens or closes a block. -/
structure Frame where
  /-- The number of the line. -/
  line : Nat
  /-- The column of the keyword. -/
  column : Nat
  deriving DecidableEq, Repr

/-- The place of the first character of a line that is not blank. -/
def Frame.ofLine (line : NumberedLine) : Frame :=
  ⟨line.number, (indentOf line.text).length + 1⟩

/-- What is out of balance in a document. -/
structure Imbalance where
  /-- The lines that close no block. -/
  unexpected : List Frame
  /-- The lines whose block is never closed. -/
  unclosed : List Frame
  deriving DecidableEq, Repr

/-- The imbalance of lines inside blocks that are open, the innermost first. -/
def imbalanceFrom : (opened : List Frame) → List NumberedLine → Imbalance
  | opened, [] => ⟨[], opened.reverse⟩
  | opened, line :: lines =>
    match Mark.ofLine line.text, opened with
    | .opening, opened => imbalanceFrom (Frame.ofLine line :: opened) lines
    | .closing, _ :: opened => imbalanceFrom opened lines
    | .closing, [] =>
      let rest := imbalanceFrom [] lines
      { rest with unexpected := Frame.ofLine line :: rest.unexpected }
    | .neither, opened => imbalanceFrom opened lines

/-- The issue of a line that closes no block. -/
def Frame.unexpectedEnd (frame : Frame) : Issue where
  kind := .unexpectedEnd
  line := frame.line
  column := frame.column
  message := "'end' without a matching 'subgraph'".toList

/-- The issue of a block that is never closed in a document of `count` lines. -/
def Frame.missingEnd (count : Nat) (frame : Frame) : Issue where
  kind := .missingEnd
  line := frame.line
  column := frame.column
  message :=
    "'subgraph' opened on line ".toList ++ natText frame.line
      ++ " is never closed with 'end'".toList
  suggestion := some "end".toList
  fix := some (.appendEnd ⟨count⟩)

/-- The issues of the blocks of a document. -/
def checkBalance (limits : Limits) (lines : List Text) : List Issue :=
  let imbalance := imbalanceFrom [] (inspectedLines limits lines)
  imbalance.unexpected.map Frame.unexpectedEnd
    ++ imbalance.unclosed.map (Frame.missingEnd lines.length)

end Flowchart
