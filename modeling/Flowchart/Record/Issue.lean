import Flowchart.Document
import Flowchart.Issue
import Flowchart.Record.Fix

/-!
# Issues and names as data

An issue is a record in which the suggestion and the fix may be absent or
`null`; all its fields are written.
-/

namespace Flowchart

/-- A kind of issue, by its name. -/
def IssueKind.form : Form IssueKind where
  encode kind := .str kind.name
  decode
    | .str name => (ofName? name).elim (.fault .enum) .valid
    | _ => .fault .enum

/-- The members of the record of an issue. -/
def Issue.members (issue : Issue) : List (String × Json) :=
  [("kind", .str issue.kind.name),
   ("line", .int issue.line),
   ("column", .int issue.column),
   ("message", .str issue.message),
   ("suggestion", .ofOption .str issue.suggestion),
   ("fix", .ofOption Fix.toJson issue.fix)]

/-- An issue. -/
def Issue.form : Form Issue where
  encode issue := .ofMembers issue.members
  decode := decodeRecord .modelType fun members =>
    Issue.mk <$> requiredField "kind" IssueKind.form members
      <*> requiredField "line" .integer members
      <*> requiredField "column" .integer members
      <*> requiredField "message" .text members
      <*> defaultField "suggestion" (.optional .text) none members
      <*> defaultField "fix" (.optional Fix.form) none members

/-- The names of a document. -/
def Names.form : Form Names where
  encode names := .ofMembers
    [("nodes", (Form.array .tupleType .text).encode names.nodes),
     ("references", (Form.array .tupleType .text).encode names.references)]
  decode := decodeRecord .modelType fun members =>
    Names.mk <$> defaultField "nodes" (.array .tupleType .text) [] members
      <*> defaultField "references" (.array .tupleType .text) [] members

end Flowchart
