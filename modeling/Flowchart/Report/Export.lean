import Flowchart.Fix.Candidates
import Flowchart.Json.Plain
import Flowchart.Json.Printer
import Flowchart.Record.Issue
import Flowchart.Report

/-!
# Exporting reports

A report is exported as JSON with the candidate fixes of each issue, in the
interchange format of static analysis results, or as lines for the console.
-/

namespace Flowchart

/-- The formats of an exported report. -/
inductive ReportFormat where
  /-- The whole report as JSON. -/
  | json
  /-- The interchange format for results of static analysis. -/
  | sarif
  /-- Lines of text. -/
  | console
  deriving DecidableEq, Repr

namespace ReportFormat

/-- The formats. -/
def all : List ReportFormat :=
  [json, sarif, console]

/-- The name of a format. -/
def name : ReportFormat → Text
  | json => "json".toList
  | sarif => "sarif".toList
  | console => "console".toList

/-- The format of that name. -/
def ofName? (text : Text) : Option ReportFormat :=
  all.find? fun format => format.name = text

end ReportFormat

/-- Why a report is not exported. -/
inductive ExportError where
  /-- There is no format of that name. -/
  | unknownFormat (name : Text)
  deriving DecidableEq, Repr

/-- What is said of the error. -/
def ExportError.message : ExportError → Text
  | unknownFormat name => "Unknown format: ".toList ++ name

/-- What an issue of this kind says about a document. -/
def IssueKind.description : IssueKind → Text
  | unknownDirection => "Graph direction must be one of TD, TB, BT, RL, LR".toList
  | unexpectedEnd => "'end' without a matching 'subgraph'".toList
  | missingEnd => "'subgraph' never closed with 'end'".toList
  | possibleTypo => "Edge references an undefined node similar to a defined one".toList

/-- How grave an issue of this kind is. -/
def IssueKind.level : IssueKind → Text
  | possibleTypo => "warning".toList
  | _ => "error".toList

/-- An issue with its candidates, as JSON. -/
def Issue.reportEntry (issue : Issue) : Json :=
  .ofMembers (issue.members ++ [("candidates", .arr (issue.candidates.map Fix.toJson))])

/-- The rule of a kind of issue. -/
def IssueKind.rule (kind : IssueKind) : Json :=
  .ofMembers
    [("id", .str kind.name),
     ("shortDescription", .ofMembers [("text", .str kind.description)])]

/-- An issue as a result in the file of that path. -/
def Issue.result (filePath : Text) (issue : Issue) : Json :=
  .ofMembers
    [("ruleId", .str issue.kind.name),
     ("level", .str issue.kind.level),
     ("message", .ofMembers [("text", .str issue.message)]),
     ("locations", .arr
       [.ofMembers
         [("physicalLocation", .ofMembers
           [("artifactLocation", .ofMembers [("uri", .str filePath)]),
            ("region", .ofMembers
              [("startLine", .int issue.line), ("startColumn", .int issue.column)])])]])]

namespace Report

/-- The report as JSON. -/
def toJson (report : Report) : Json :=
  .ofMembers
    [("analysis_id", .str report.analysisId),
     ("timestamp", .str report.timestamp.text),
     ("file_path", .str report.filePath),
     ("code_hash", .str report.codeHash),
     ("summary", .obj report.summary),
     ("issues", .arr (report.issues.map Issue.reportEntry))]

/-- The report in the interchange format. -/
def toSarif (report : Report) : Json :=
  let driver :=
    ("driver", Json.ofMembers
      [("name", .ofString "flowlint"),
       ("version", .str version),
       ("rules", .arr (IssueKind.all.map IssueKind.rule))])
  let invocation :=
    Json.ofMembers
      [("startTimeUtc", .str report.timestamp.text),
       ("executionSuccessful", .bool report.error?.isNone)]
  .ofMembers
    [("version", .ofString "2.1.0"),
     ("$schema", .ofString "https://json.schemastore.org/sarif-2.1.0.json"),
     ("runs", .arr
       [.ofMembers
         [("tool", .ofMembers [driver]),
          ("results", .arr (report.issues.map (Issue.result report.filePath))),
          ("invocations", .arr [invocation])]])]

/-- The lines for an issue at that place of the list. -/
def issueLines (filePath : Text) (index : Nat) (issue : Issue) : List Text :=
  let place := joinWith [':'] [filePath, intText issue.line, intText issue.column]
  let count := issue.candidates.length
  ("  [".toList ++ natText index ++ "] ".toList ++ place ++ ' ' :: issue.kind.name
      ++ ": ".toList ++ issue.message)
    :: if count = 0 then []
      else ["      ".toList ++ natText count ++ " quick-fix candidate(s)".toList]

/-- A count of the summary, zero where it is absent. -/
def summaryText (report : Report) (name : String) : Text :=
  ((Json.lookup? name.toList report.summary).getD (.int 0)).plainText

/-- The lines for the console. -/
def consoleLines (report : Report) : List Text :=
  let rule := List.replicate 60 '='
  [rule, "flowlint Report".toList,
    "File: ".toList ++ report.filePath,
    "Analysis ID: ".toList ++ report.analysisId,
    rule, []]
  ++ match report.error? with
    | some error => ["Error: ".toList ++ error.plainText]
    | none =>
      ["Total Issues: ".toList ++ report.summaryText "total_issues",
        "Fixable: ".toList ++ report.summaryText "fixable", []]
      ++ (report.issues.zipIdx.map fun (issue, index) =>
          issueLines report.filePath index issue).flatten

/-- The report as JSON text. -/
def jsonText (report : Report) (layout : Json.Layout) : Text :=
  report.toJson.render layout

/-- The report in a format, as text. -/
def exportText (report : Report) : ReportFormat → Text
  | .json => report.jsonText (.lines 2)
  | .sarif => report.toSarif.render (.lines 2)
  | .console => joinWith ['\n'] report.consoleLines

/-- The report in the format of a name, as text. -/
def exportAs (report : Report) (name : Text) : Except ExportError Text :=
  match ReportFormat.ofName? name with
  | some format => .ok (report.exportText format)
  | none => .error (.unknownFormat name)

end Report

end Flowchart
