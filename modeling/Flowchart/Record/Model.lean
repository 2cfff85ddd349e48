import Flowchart.Record.Exchange

/-!
# The kinds of records

Data can be checked against any kind of record.  What is found valid is written
out again with all fields of the record and no others.
-/

namespace Flowchart

/-- The kinds of records. -/
inductive Model where
  /-- A kind of issue. -/
  | issueKind
  /-- A replacement. -/
  | replacement
  /-- An ending. -/
  | ending
  /-- A definition. -/
  | definition
  /-- A fix of any kind. -/
  | fix
  /-- An issue. -/
  | issue
  /-- The names of a document. -/
  | names
  /-- A request to look at a text. -/
  | lintRequest
  /-- An issue with its candidate fixes. -/
  | finding
  /-- The answer to a request to look at a text. -/
  | lintResponse
  /-- A request to apply a fix. -/
  | fixRequest
  /-- A text that was made from another. -/
  | sourceResponse
  deriving DecidableEq, Repr

namespace Model

/-- The values of a kind of record. -/
def Value : Model → Type
  | issueKind => IssueKind
  | replacement => Replacement
  | ending => Ending
  | definition => Definition
  | fix => Fix
  | issue => Issue
  | names => Names
  | lintRequest => LintRequest
  | finding => Finding
  | lintResponse => LintResponse
  | fixRequest => FixRequest
  | sourceResponse => SourceResponse

/-- The form of a kind of record. -/
def form : (model : Model) → Form model.Value
  | issueKind => IssueKind.form
  | replacement => Replacement.form
  | ending => Ending.form
  | definition => Definition.form
  | fix => Fix.form
  | issue => Issue.form
  | names => Names.form
  | lintRequest => LintRequest.form
  | finding => Finding.form
  | lintResponse => LintResponse.form
  | fixRequest => FixRequest.form
  | sourceResponse => SourceResponse.form

/-- The data that a record keeps of the data it was read from. -/
def normalize (model : Model) (data : Json) : Checked Json :=
  (model.form.decode data).map model.form.encode

end Model

end Flowchart
