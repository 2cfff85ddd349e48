import Flowchart.Proofs.Json.Spacing
import Flowchart.Proofs.Report

/-!
# The texts of exported reports

A report may come from anywhere: its names and messages hold any characters, its summary
any values.  Where there are no reals in the summary there are none in the report, and none
at all in the interchange format.  So what is written is read back, with the members in the
order in which they were put together; it can be sent where only ASCII passes; and the indent
that is asked for changes nothing but the gaps between the parts.

Main statement: `Report.export_faithful`.
-/

namespace Flowchart

/-- The text holds ASCII alone, and is read as the value. -/
structure Json.WrittenIn (value : Json) (text : Text) : Prop where
  /-- All characters are of ASCII. -/
  ascii : ∀ c ∈ text, isAscii c = true
  /-- The value is what is read. -/
  read : Json.read? text = some value

/-- A value without reals is written in ASCII, and read back. -/
theorem Json.writtenIn_render (layout : Layout) {value : Json} (h : value.isExact = true) :
    value.WrittenIn (value.render layout) where
  ascii := isAscii_of_mem_render layout h
  read := by
    have hread := @read?_render layout value h [] (List.forall_mem_nil _)
    rwa [List.append_nil] at hread

/-- There are no reals in the interchange format. -/
theorem Report.isExact_toSarif (report : Report) : report.toSarif.isExact = true := by
  have hrules : Json.areExact (IssueKind.all.map IssueKind.rule) = true := rfl
  have hresults : Json.areExact (report.issues.map (Issue.result report.filePath)) = true := by
    refine Json.areExact_iff.mpr fun entry hentry => ?_
    obtain ⟨issue, _, rfl⟩ := List.mem_map.mp hentry
    rfl
  simp [toSarif, Json.ofMembers, Json.ofString, Json.isExact, Json.areExact, Json.haveExact,
    hrules, hresults]

/-- **A report is read back from what it is exported to.**  Its JSON text is of ASCII and read
as the report, whatever the indent, and two indents differ in the gaps outside the strings; the
text of the interchange format is of ASCII and read back as well. -/
theorem Report.export_faithful (report : Report) (h : Json.haveExact report.summary = true) :
    (∀ indent : Option Int, report.toJson.WrittenIn (report.jsonText (.ofIndent indent))) ∧
      (∀ indent other : Option Int, Json.tightened (report.jsonText (.ofIndent indent))
        = Json.tightened (report.jsonText (.ofIndent other))) ∧
      report.toSarif.WrittenIn (report.exportText .sarif) := by
  have hexact := Report.isExact_toJson h
  refine ⟨fun indent => ?_, fun indent other => ?_, ?_⟩
  · exact Json.writtenIn_render (.ofIndent indent) hexact
  · exact Json.tightened_render (.ofIndent indent) (.ofIndent other) hexact
  · exact Json.writtenIn_render (.lines 2) report.isExact_toSarif

/-- A report whose texts hold controls, marks of strings, blanks and characters beyond the basic
plane, at a place below zero, and whose summary is deep. -/
def strangeReport : Report where
  analysisId := "\"\\ \t \x7f".toList
  timestamp := ⟨2024, 2, 29, 23, 59, 59, 7⟩
  filePath := "𝄞 – \x00\x1f\r\n.mmd".toList
  codeHash := []
  summary :=
    [("".toList,
       .arr [.obj [], .arr [], .obj [("\\\"".toList, .int (-36893488147419103233))]]),
      ("error".toList, .null)]
  issues :=
    [{ kind := .possibleTypo, line := -3, column := 0, message := "\u2028 , [ \"".toList,
       suggestion := some "\x7b\x7d: ".toList,
       fix := some (.defineNode ⟨"é".toList, 36893488147419103233⟩) }]

/-- It is read back from each of its texts. -/
theorem export_faithful_strange :
    Json.read? (strangeReport.jsonText (.ofIndent none)) = some strangeReport.toJson ∧
      Json.read? (strangeReport.jsonText (.ofIndent (some (-4)))) = some strangeReport.toJson ∧
      Json.tightened (strangeReport.jsonText (.ofIndent none))
        = Json.tightened (strangeReport.jsonText (.ofIndent (some 3))) ∧
      Json.read? (strangeReport.exportText .sarif) = some strangeReport.toSarif := by
  obtain ⟨hjson, halike, hsarif⟩ := strangeReport.export_faithful rfl
  exact ⟨(hjson none).read, (hjson (some (-4))).read, halike none (some 3), hsarif.read⟩

end Flowchart
