import Flowchart.Record.Issue

/-!
# Requests and responses as data

These are the records that a client of the service sends and receives.
-/

namespace Flowchart

/-- A request to look at a text. -/
structure LintRequest where
  /-- The text. -/
  source : Text
  /-- Are the issues to be sorted by line and column? -/
  sort : Bool
  deriving DecidableEq, Repr

/-- A request to apply a fix to a text. -/
structure FixRequest where
  /-- The text. -/
  source : Text
  /-- The fix. -/
  fix : Fix
  deriving DecidableEq, Repr

/-- An issue together with its candidate fixes. -/
structure Finding where
  /-- The issue. -/
  issue : Issue
  /-- The candidates. -/
  candidates : List Fix
  deriving DecidableEq, Repr

/-- The answer to a request to look at a text. -/
structure LintResponse where
  /-- The findings in order. -/
  issues : List Finding
  deriving DecidableEq, Repr

/-- A text that was made from another. -/
structure SourceResponse where
  /-- The text. -/
  source : Text
  /-- Does it differ from the other? -/
  changed : Bool
  deriving DecidableEq, Repr

/-- The fields of a request to look at a text. -/
def LintRequest.ofMembers (members : Members) : Checked LintRequest :=
  LintRequest.mk <$> requiredField "source" .text members
    <*> defaultField "sort" .truth false members

/-- A request to look at a text. -/
def LintRequest.form : Form LintRequest where
  encode request :=
    .ofMembers [("source", .str request.source), ("sort", .bool request.sort)]
  decode := decodeRecord .modelType ofMembers

/-- The fields of a request to apply a fix. -/
def FixRequest.ofMembers (members : Members) : Checked FixRequest :=
  FixRequest.mk <$> requiredField "source" .text members
    <*> requiredField "fix" Fix.form members

/-- A request to apply a fix. -/
def FixRequest.form : Form FixRequest where
  encode request :=
    .ofMembers [("source", .str request.source), ("fix", request.fix.toJson)]
  decode := decodeRecord .modelType ofMembers

/-- An issue together with its candidate fixes. -/
def Finding.form : Form Finding where
  encode finding := .ofMembers
    [("issue", Issue.form.encode finding.issue),
     ("candidates", (Form.array .listType Fix.form).encode finding.candidates)]
  decode := decodeRecord .modelType fun members =>
    Finding.mk <$> requiredField "issue" Issue.form members
      <*> defaultField "candidates" (.array .listType Fix.form) [] members

/-- The answer to a request to look at a text. -/
def LintResponse.form : Form LintResponse where
  encode response :=
    .ofMembers [("issues", (Form.array .listType Finding.form).encode response.issues)]
  decode := decodeRecord .modelType fun members =>
    LintResponse.mk <$> defaultField "issues" (.array .listType Finding.form) [] members

/-- A text that was made from another. -/
def SourceResponse.form : Form SourceResponse where
  encode response :=
    .ofMembers [("source", .str response.source), ("changed", .bool response.changed)]
  decode := decodeRecord .modelType fun members =>
    SourceResponse.mk <$> requiredField "source" .text members
      <*> requiredField "changed" .truth members

end Flowchart
