import Flowchart.Analysis
import Flowchart.Digest.Sha256
import Flowchart.Json
import Flowchart.Report.Timestamp

/-!
# Reports

A report holds the issues of one text and what identifies the text and the run:
the file, the digest, the time, and an identity.  Its summary is an object that
counts the issues, by kind in the order in which the kinds first occur.
-/

namespace Flowchart

/-- The version of the linter. -/
def version : Text :=
  "0.1.0".toList

/-- What the summary of a report counts. -/
structure Summary where
  /-- The number of issues. -/
  total : Nat
  /-- The number of issues of each kind that occurs. -/
  byKind : List (IssueKind × Nat)
  /-- The number of issues that have a fix. -/
  fixable : Nat
  deriving DecidableEq, Repr

namespace Summary

/-- The summary of a list of issues. -/
def ofIssues (issues : List Issue) : Summary where
  total := issues.length
  byKind :=
    (issues.map (·.kind)).eraseDups.map fun kind =>
      (kind, issues.countP fun issue => issue.kind = kind)
  fixable := issues.countP fun issue => issue.fix.isSome

/-- The members of a summary. -/
def members (summary : Summary) : List (Text × Json) :=
  [("total_issues".toList, .int summary.total),
   ("by_kind".toList,
     .obj (summary.byKind.map fun (kind, count) => (kind.name, .int count))),
   ("fixable".toList, .int summary.fixable)]

end Summary

/-- The report on one text. -/
structure Report where
  /-- What tells this report from all others. -/
  analysisId : Text
  /-- When it was made. -/
  timestamp : Timestamp
  /-- The file of the text. -/
  filePath : Text
  /-- The digest of the text. -/
  codeHash : Text
  /-- The members of the summary. -/
  summary : List (Text × Json)
  /-- The issues. -/
  issues : List Issue

/-- What tells one run from another. -/
structure Run where
  /-- The identity of the report. -/
  analysisId : Text
  /-- The time of the report. -/
  timestamp : Timestamp

/-- The issues of a text, sorted if that is wanted. -/
def orderedIssues (limits : Limits) (sorted : Bool) (source : Text) : List Issue :=
  if sorted then sortIssues (analyze limits source) else analyze limits source

/-- The report on a text. -/
def lint (limits : Limits) (run : Run) (sorted : Bool) (filePath source : Text) :
    Report where
  analysisId := run.analysisId
  timestamp := run.timestamp
  filePath := filePath
  codeHash := Sha256.hexDigest source
  summary := (Summary.ofIssues (orderedIssues limits sorted source)).members
  issues := orderedIssues limits sorted source

/-- The report on the text that some bytes are read as. -/
def lintBytes (limits : Limits) (run : Run) (sorted : Bool) (filePath : Text)
    (bytes : List UInt8) : Report :=
  lint limits run sorted filePath (Utf8.decode bytes)

namespace Report

/-- What went wrong, for a report of a run that failed. -/
def error? (report : Report) : Option Json :=
  Json.lookup? "error".toList report.summary

end Report

end Flowchart
