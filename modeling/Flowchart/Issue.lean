import Flowchart.Fix

/-!
# Issues

An issue is one thing wrong with a document, at a line and a column that both
count from one, with the fix that is most likely meant where there is one.
-/

namespace Flowchart

/-- The kinds of issues. -/
inductive IssueKind where
  /-- A header names no direction. -/
  | unknownDirection
  /-- A block is closed that was not opened. -/
  | unexpectedEnd
  /-- A block is never closed. -/
  | missingEnd
  /-- A reference looks like a misspelt node. -/
  | possibleTypo
  deriving DecidableEq, Repr

namespace IssueKind

/-- The kinds, in the order in which rules are listed. -/
def all : List IssueKind :=
  [unknownDirection, unexpectedEnd, missingEnd, possibleTypo]

/-- The name of a kind. -/
def name : IssueKind → Text
  | unknownDirection => "unknown_direction".toList
  | unexpectedEnd => "unexpected_end".toList
  | missingEnd => "missing_end".toList
  | possibleTypo => "possible_typo".toList

/-- The kind of that name. -/
def ofName? (text : Text) : Option IssueKind :=
  all.find? fun kind => kind.name = text

end IssueKind

/-- One thing wrong with a document. -/
structure Issue where
  /-- What kind of thing it is. -/
  kind : IssueKind
  /-- The line, from one on. -/
  line : Int
  /-- The column, from one on. -/
  column : Int
  /-- What to tell the author. -/
  message : Text
  /-- What the author most likely meant. -/
  suggestion : Option Text := none
  /-- The fix, if one is known. -/
  fix : Option Fix := none
  deriving DecidableEq, Repr

/-- Does `first` stand before `second`, or at the same place, by line and then by
column? -/
def Issue.notBehind (first second : Issue) : Bool :=
  first.line < second.line || (first.line = second.line && first.column ≤ second.column)

/-- The issues by line and column; issues at one place keep their order. -/
def sortIssues (issues : List Issue) : List Issue :=
  issues.mergeSort Issue.notBehind

end Flowchart
