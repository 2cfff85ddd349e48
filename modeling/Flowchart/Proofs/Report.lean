import Flowchart.Proofs.Json.Reading
import Flowchart.Report.Export
import Flowchart.Service

/-!
# What a report holds

A report holds no reals, so its text is read back as the report.  The candidates of its
issues stand at the same places in the answer of the service, which has the same issues in
the same order; and the record of each is read as the fix that it was made of.

Main statements: `read?_exportText`, `candidateAt?_eq`.
-/

namespace Flowchart

/-! ## Reading a report -/

/-- There are no reals in the record of a fix. -/
theorem Fix.isExact_toJson (fix : Fix) : fix.toJson.isExact = true := by
  cases fix <;> rfl

/-- There are no reals in the entry of an issue. -/
theorem Issue.isExact_reportEntry (issue : Issue) : issue.reportEntry.isExact = true := by
  have hfixes : Json.areExact (issue.candidates.map Fix.toJson) = true := by
    refine Json.areExact_iff.mpr fun entry hentry => ?_
    obtain ⟨fix, _, rfl⟩ := List.mem_map.mp hentry
    exact fix.isExact_toJson
  obtain ⟨kind, line, column, message, suggestion, fix⟩ := issue
  have hsuggestion : (Json.ofOption .str suggestion).isExact = true := by
    cases suggestion <;> rfl
  have hfix : (Json.ofOption Fix.toJson fix).isExact = true := by
    cases fix with
    | none => rfl
    | some fix => exact fix.isExact_toJson
  simp [Issue.reportEntry, Issue.members, Json.ofMembers, Json.isExact, Json.haveExact,
    hsuggestion, hfix, hfixes]

/-- There are no reals in a summary. -/
theorem Summary.haveExact_members (summary : Summary) :
    Json.haveExact summary.members = true := by
  refine Json.haveExact_iff.mpr (List.forall_mem_cons.mpr
    ⟨rfl, List.forall_mem_cons.mpr ⟨?_, List.forall_mem_singleton.mpr rfl⟩⟩)
  refine Json.haveExact_iff.mpr fun member hmember => ?_
  obtain ⟨_, _, rfl⟩ := List.mem_map.mp hmember
  rfl

/-- Where there are no reals in its summary, there are none in a report. -/
theorem Report.isExact_toJson {report : Report} (h : Json.haveExact report.summary = true) :
    report.toJson.isExact = true := by
  have hissues : Json.areExact (report.issues.map Issue.reportEntry) = true := by
    refine Json.areExact_iff.mpr fun entry hentry => ?_
    obtain ⟨issue, _, rfl⟩ := List.mem_map.mp hentry
    exact issue.isExact_reportEntry
  simp [toJson, Json.ofMembers, Json.isExact, Json.haveExact, h, hissues]

/-- **A report that is printed is read back.** -/
theorem read?_exportText (limits : Limits) (run : Run) (sorted : Bool) (path source : Text) :
    Json.read? ((lint limits run sorted path source).exportText .json ++ ['\n'])
      = some (lint limits run sorted path source).toJson :=
  Json.read?_render (.lines 2)
    (Report.isExact_toJson
      (Summary.ofIssues (orderedIssues limits sorted source)).haveExact_members)
    (List.forall_mem_singleton.mpr rfl)

/-! ## Places in a report -/

/-- The item at a place of an array. -/
def Json.item? (place : Nat) : Json → Option Json
  | arr items => items[place]?
  | _ => none

/-- The candidate at a place of the list that an issue has, in a report or an answer. -/
def Json.candidateAt? (report : Json) (place candidate : Nat) : Option Json := do
  let issues ← report.get? "issues".toList
  let entry ← issues.item? place
  let candidates ← entry.get? "candidates".toList
  candidates.item? candidate

/-- The candidate at a place of the list that an issue has. -/
def candidateOf? (issues : List Issue) (place candidate : Nat) : Option Fix :=
  issues[place]?.bind fun issue => issue.candidates[candidate]?

/-- Where each issue has a record with its candidates, these stand at the places of the
issues. -/
theorem candidateAt?_eq {report : Json} {issues : List Issue} {entry : Issue → Json}
    (hreport : report.get? "issues".toList = some (.arr (issues.map entry)))
    (hentry : ∀ issue : Issue,
      (entry issue).get? "candidates".toList = some (.arr (issue.candidates.map Fix.toJson)))
    (place candidate : Nat) :
    report.candidateAt? place candidate = (candidateOf? issues place candidate).map Fix.toJson := by
  have hissues : (Json.arr (issues.map entry)).item? place = issues[place]?.map entry :=
    List.getElem?_map
  have hcandidates : ∀ issue : Issue, (Json.arr (issue.candidates.map Fix.toJson)).item? candidate
      = issue.candidates[candidate]?.map Fix.toJson := fun _ => List.getElem?_map
  simp only [Json.candidateAt?, candidateOf?, hreport, hissues, Option.bind_eq_bind,
    Option.bind_some]
  cases issues[place]? with
  | none => rfl
  | some issue => simp only [Option.map_some, Option.bind_some, hentry, hcandidates]

/-- In a report the candidates stand at the places that they are chosen by. -/
theorem candidateAt?_lint (limits : Limits) (run : Run) (sorted : Bool) (path source : Text)
    (place candidate : Nat) :
    (lint limits run sorted path source).toJson.candidateAt? place candidate
      = (candidateOf? (orderedIssues limits sorted source) place candidate).map Fix.toJson :=
  candidateAt?_eq rfl (fun _ => rfl) place candidate

/-- In an answer the candidates stand at the places that they are chosen by. -/
theorem candidateAt?_answer (limits : Limits) (request : LintRequest) (place candidate : Nat) :
    (LintResponse.form.encode (request.answer limits)).candidateAt? place candidate
      = (candidateOf? (orderedIssues limits request.sort request.source) place candidate).map
        Fix.toJson := by
  refine @candidateAt?_eq _ _ (fun issue => Finding.form.encode ⟨issue, issue.candidates⟩) ?_
    (fun _ => rfl) place candidate
  have hentries : (request.answer limits).issues.map Finding.form.encode
      = (orderedIssues limits request.sort request.source).map fun issue =>
        Finding.form.encode ⟨issue, issue.candidates⟩ := by
    rw [LintRequest.answer, List.map_map]
    rfl
  rw [← hentries]
  rfl

end Flowchart
