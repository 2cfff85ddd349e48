import Flowchart.Fix.Candidates
import Flowchart.Record.Issue

/-!
# What can be fixed

A summary of the fixes of a list of issues counts the issues that can be fixed
and the candidates of each kind, and lists the candidates by issue.
-/

namespace Flowchart

/-- Can the issue be fixed? -/
def Issue.isFixable (issue : Issue) : Bool :=
  !issue.candidates.isEmpty

/-- The number of candidates of a kind. -/
def countCandidates (issues : List Issue) (kind : FixKind) : Nat :=
  (issues.flatMap Issue.candidates).countP fun fix => fix.kind = kind

/-- The entry of an issue in the list of fixes. -/
def Issue.fixEntry (issue : Issue) : Json :=
  .ofMembers
    [("kind", .str issue.kind.name),
     ("line", .int issue.line),
     ("column", .int issue.column),
     ("message", .str issue.message),
     ("candidates", .arr (issue.candidates.map Fix.toJson))]

/-- The number of candidates of each kind. -/
def candidateCounts (issues : List Issue) : Json :=
  .obj (FixKind.all.map fun kind => (kind.name, .int (countCandidates issues kind)))

/-- The summary of the fixes of a list of issues. -/
def fixSummary (issues : List Issue) : Json :=
  .ofMembers
    [("summary", .ofMembers
      [("total_issues", .int issues.length),
       ("fixable", .int (issues.countP Issue.isFixable)),
       ("by_fix_kind", candidateCounts issues)]),
     ("fixes", .arr ((issues.filter Issue.isFixable).map Issue.fixEntry))]

end Flowchart
