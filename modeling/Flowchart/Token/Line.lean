import Flowchart.Direction
import Flowchart.Text.Blank
import Flowchart.Text.LowerCase
import Flowchart.Text.Word

/-!
# Kinds of lines

A line is known by how it begins: a comment by its two percent signs, a header
by its keyword, a block by `subgraph` and `end`, and a statement by the word
that configures something.  Keywords are read without regard to case.
-/

namespace Flowchart

/-- Is the line a comment? -/
def isComment (line : Text) : Bool :=
  "%%".toList.isPrefixOf (trimStart line)

/-- The words that are never a node, in small letters. -/
def keywords : List Text :=
  ["graph".toList, "flowchart".toList, "subgraph".toList, "end".toList]
    ++ Direction.all.map fun direction => lower direction.name

/-- Is the word a keyword? -/
def isKeyword (word : Text) : Bool :=
  keywords.contains (lower word)

/-- The words with which a statement begins, in small letters. -/
def statementWords : List Text :=
  ["style".toList, "classdef".toList, "class".toList, "click".toList,
   "linkstyle".toList, "direction".toList]

/-- Does the line configure the diagram instead of naming nodes? -/
def isStatement (line : Text) : Bool :=
  statementWords.contains (lower (firstWord line))

/-- The parts of a header line; what follows them is of no interest. -/
structure Header where
  /-- The blanks in front. -/
  indent : Text
  /-- The keyword as it is written. -/
  keyword : Text
  /-- The blanks behind the keyword. -/
  gap : Text
  /-- The word that should be a direction. -/
  direction : Text
  deriving DecidableEq, Repr

namespace Header

/-- The parts of a line that begins with a header keyword, blanks and a word. -/
def ofLine? (line : Text) : Option Header :=
  let rest := trimStart line
  match (splitFolded? "graph".toList rest).or (splitFolded? "flowchart".toList rest) with
  | none => none
  | some (keyword, rest) =>
    let gap := indentOf rest
    let direction := (trimStart rest).takeWhile isWord
    if gap.isEmpty || direction.isEmpty then none
    else some ⟨indentOf line, keyword, gap, direction⟩

/-- The characters from the keyword to the direction. -/
def span (header : Header) : Text :=
  header.keyword ++ header.gap ++ header.direction

/-- The number of characters in front of the direction. -/
def directionStart (header : Header) : Nat :=
  header.indent.length + header.keyword.length + header.gap.length

end Header

/-- The opening of a block at the front of a line: blanks and the keyword, which
must be a whole word. -/
def blockOpening? (line : Text) : Option Text :=
  match splitFolded? "subgraph".toList (trimStart line) with
  | some (keyword, rest) =>
    if rest.head?.any isWord then none else some (indentOf line ++ keyword)
  | none => none

/-- Is the text blank, one semicolon apart? -/
def isLineEnd (text : Text) : Bool :=
  match trimStart text with
  | [] => true
  | c :: rest => c = ';' && rest.all isBlank

/-- Is the line the closing of a block, and nothing else? -/
def isBlockClosing (line : Text) : Bool :=
  match splitFolded? "end".toList (trimStart line) with
  | some (_, rest) => isLineEnd rest
  | none => false

/-- What a line does to the blocks around it. -/
inductive Mark where
  /-- It opens a block. -/
  | opening
  /-- It closes the innermost block. -/
  | closing
  /-- Neither. -/
  | neither
  deriving DecidableEq, Repr

/-- What a line does to the blocks around it. -/
def Mark.ofLine (line : Text) : Mark :=
  if (blockOpening? line).isSome then .opening
  else if isBlockClosing line then .closing
  else .neither

end Flowchart
