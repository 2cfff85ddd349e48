import Flowchart.Command.Execution
import Flowchart.Proofs.Command.Directory
import Flowchart.Proofs.Command.Logging
import Flowchart.Proofs.Fix.Changing
import Flowchart.Proofs.Record
import Flowchart.Proofs.Report
import Flowchart.Proofs.Utf8

/-!
# The command line and the service agree

A candidate of an issue has one place, whether it is asked for on the command line or of
the service: both look at the text that the file holds, order its issues alike, and list
the same candidates.  A client that sends a candidate back with the text gets what the
command prints, or writes, for the candidate at that place; and it is never the text that
it sent.

Main statement: `interfaces_agree`.
-/

namespace Flowchart

/-- The arguments ask for the report on a file as JSON, whether quiet or not. -/
def AskReport (settings : Settings) (path : Text) (sorted : Bool) (arguments : List Text) : Prop :=
  ∃ quiet, Invocation.read settings arguments
    = .ok { command := some (.lint
      { file := path, format := some .json, sorted := sorted, quiet := quiet }) }

/-- The arguments ask for the candidate at a place of the list of an issue, to be printed, or
to be written where a file is named, whether quiet or not. -/
def AskFix (settings : Settings) (path : Text) (sorted : Bool) (place candidate : Nat)
    (output : Text) (arguments : List Text) : Prop :=
  ∃ quiet, Invocation.read settings arguments
    = .ok { command := some (.fix
      { file := path, issue := some place, sorted := sorted, candidate := some candidate,
        output := output, quiet := quiet }) }

/-- The fix `sent` changes the source to `after`, whether it is sent to the service with the
source or its place is given on the command line. -/
structure AppliedAlike (settings : Settings) (run : Run) (directory : Directory)
    (path source : Text) (sorted : Bool) (place candidate : Nat) (sent : Json)
    (after : Text) : Prop where
  /-- The text is changed. -/
  changed : after ≠ source
  /-- The service answers with the text, and says that it is changed. -/
  answered : ∀ body : Body,
    body.content = .value (.ofMembers [("source", .str source), ("fix", sent)]) →
      respond settings.limits ⟨"POST".toList, "/api/v1/fix".toList, body⟩
        = .ok (SourceResponse.form.encode ⟨after, true⟩)
  /-- The command prints the text. -/
  printed : ∀ arguments, AskFix settings path sorted place candidate [] arguments →
    execute settings run directory arguments = .finished 0 (after ++ ['\n']) [] directory
  /-- Where a file is named for it, the command writes the text there. -/
  written : ∀ arguments output later, output ≠ [] →
    AskFix settings path sorted place candidate output arguments →
    directory.write output (Utf8.encode after) = .ok later →
      execute settings run directory arguments
          = .finished 0 ("Fixed source saved to: ".toList ++ output ++ ['\n']) [] later ∧
        later.entryAt output = .ok (.file (Utf8.encode after))

/-! ## Commands -/

/-- A place that is a natural number is a place of the list. -/
theorem withItem_of_getElem? {α : Type} {items : List α} {place : Nat} {item : α}
    (h : items[place]? = some item) (go : Int → Option α → Outcome) :
    withItem items (some (place : Int)) go = go place (some item) := by
  have hitem : itemAt? items (place : Int) = some item := by
    rw [itemAt?, if_neg (by omega), Int.toNat_natCast, h]
  rw [withItem, hitem]

section File

variable {settings : Settings} {directory : Directory} {path source : Text} {sorted : Bool}
  (hfile : directory.entryAt path = .ok (.file (Utf8.encode source)))

include hfile

/-- A command goes on with the text that its file holds. -/
theorem withSource_of_encode (go : Text → Outcome) : withSource directory path go = go source := by
  rw [withSource, hfile]
  simp only [Utf8.decode_encode]

variable (hlog : settings.CanLog false)

include hlog

/-- The command for a report prints it. -/
theorem execute_askReport {arguments : List Text}
    (harguments : AskReport settings path sorted arguments) (run : Run) :
    ∃ exit, execute settings run directory arguments
      = .finished exit ((lint settings.limits run sorted path source).exportText .json ++ ['\n'])
        [] directory := by
  obtain ⟨quiet, hread⟩ := harguments
  rw [execute_of_read hread (hlog.quiet quiet), Command.execute, LintOptions.execute,
    withSource_of_encode hfile]
  exact ⟨_, rfl⟩

/-- The command for a fix emits the text with the candidate at that place. -/
theorem execute_askFix {place candidate : Nat} {output : Text} {arguments : List Text}
    (harguments : AskFix settings path sorted place candidate output arguments) {fix : Fix}
    (hfix : candidateOf? (orderedIssues settings.limits sorted source) place candidate = some fix)
    (run : Run) :
    execute settings run directory arguments
      = emit directory output (fix.apply source) "Fixed source saved to: ".toList 0 := by
  obtain ⟨quiet, hread⟩ := harguments
  obtain ⟨issue, hissue, hcandidate⟩ := Option.bind_eq_some_iff.mp hfix
  rw [execute_of_read hread (hlog.quiet quiet), Command.execute, FixOptions.execute,
    withSource_of_encode hfile, withItem_of_getElem? hissue]
  simp only [withItem_of_getElem? hcandidate]

end File

/-- What is read without a refusal is the invocation. -/
theorem read_eq_ok {settings : Settings} {arguments : List Text} {invocation : Invocation}
    (h : (Invocation.read settings arguments).toOption = some invocation) :
    Invocation.read settings arguments = .ok invocation := by
  cases hread : Invocation.read settings arguments with
  | error _ =>
      rw [hread] at h
      cases h
  | ok found =>
      rw [hread] at h
      exact congrArg Except.ok (Option.some.inj h)

/-! ## Requests -/

/-- A body that holds a valid request is carried out. -/
theorem Body.respond_of_valid {α : Type} {decode : Members → Checked α} {request : α}
    {members : Members} (hdecode : decode members = .valid request) {body : Body}
    (hbody : body.content = .value (.obj members)) (carryOut : α → Json) :
    body.respond decode carryOut = .ok (carryOut request) := by
  rw [Body.respond, hbody]
  simp only [decodeRecord, hdecode]
  rfl

/-- A record is read from an object only, from its members. -/
theorem exists_of_decodeRecord {α : Type} {otherwise : FaultKind} {decode : Members → Checked α}
    {json : Json} {value : α} (h : decodeRecord otherwise decode json = .valid value) :
    ∃ members, json = .obj members ∧ decode members = .valid value := by
  cases json with
  | obj members => exact ⟨members, rfl, h⟩
  | _ => cases h

/-! ## All candidates -/

/-- Ordering adds no issues. -/
theorem mem_analyze_of_mem_orderedIssues {limits : Limits} {sorted : Bool} {source : Text}
    {issue : Issue} (h : issue ∈ orderedIssues limits sorted source) :
    issue ∈ analyze limits source := by
  cases sorted with
  | false => exact h
  | true => exact List.mem_mergeSort.mp h

/-- Wherever it is applied, a candidate changes the text alike. -/
theorem appliedAlike {settings : Settings} (hlog : settings.CanLog false)
    {directory : Directory} {path source : Text}
    (hfile : directory.entryAt path = .ok (.file (Utf8.encode source))) {sorted : Bool}
    {place candidate : Nat} {fix : Fix}
    (hfix : candidateOf? (orderedIssues settings.limits sorted source) place candidate = some fix)
    (run : Run) :
    AppliedAlike settings run directory path source sorted place candidate fix.toJson
      (fix.apply source) := by
  have hchanged : fix.apply source ≠ source := by
    obtain ⟨issue, hissue, hcandidate⟩ := Option.bind_eq_some_iff.mp hfix
    exact apply_ne_of_mem_candidates
      (mem_analyze_of_mem_orderedIssues (List.mem_of_getElem? hissue))
      (List.mem_of_getElem? hcandidate)
  refine ⟨hchanged, fun body hbody => ?_, fun arguments harguments => ?_,
    fun arguments output later hne harguments hwritten => ?_⟩
  · have hanswer : (FixRequest.mk source fix).answer = ⟨fix.apply source, true⟩ := by
      simp [FixRequest.answer, hchanged]
    have hread : FixRequest.ofMembers [("source".toList, .str source), ("fix".toList, fix.toJson)]
        = .valid ⟨source, fix⟩ := FixRequest.faithful_form ⟨source, fix⟩
    have hresponse := Body.respond_of_valid hread hbody
      fun request => SourceResponse.form.encode request.answer
    rw [hanswer] at hresponse
    exact hresponse
  · rw [execute_askFix hfile hlog harguments hfix]
    rfl
  · rw [execute_askFix hfile hlog harguments hfix, emit, if_neg (by simpa using hne), hwritten]
    exact ⟨rfl, Directory.entryAt_of_write hwritten⟩

/-- **The command line and the service agree on every fix.** Both are there where logging can be
set up, which the service always does. -/
theorem interfaces_agree (settings : Settings) (hlog : settings.CanLog false) (run : Run)
    {directory : Directory} {path source : Text}
    (hfile : directory.entryAt path = .ok (.file (Utf8.encode source))) {sorted : Bool}
    {arguments : List Text}
    (harguments : AskReport settings path sorted arguments) {body : Body} {request : Json}
    (hbody : body.content = .value request)
    (hrequest : LintRequest.form.decode request = .valid ⟨source, sorted⟩) :
    ∃ exit output report answer,
      execute settings run directory arguments = .finished exit output [] directory ∧
      Json.read? output = some report ∧
      respond settings.limits ⟨"POST".toList, "/api/v1/lint".toList, body⟩ = .ok answer ∧
      ∀ place candidate,
        report.candidateAt? place candidate
          = (candidateOf? (orderedIssues settings.limits sorted source) place candidate).map
            Fix.toJson ∧
        answer.candidateAt? place candidate = report.candidateAt? place candidate ∧
        ∀ fix, report.candidateAt? place candidate = some fix →
          ∃ after, AppliedAlike settings run directory path source sorted place candidate fix
            after := by
  obtain ⟨exit, hprinted⟩ := execute_askReport hfile hlog harguments run
  obtain ⟨members, rfl, hmembers⟩ := exists_of_decodeRecord hrequest
  refine ⟨exit, _, _, _, hprinted, read?_exportText settings.limits run sorted path source,
    Body.respond_of_valid hmembers hbody _, fun place candidate => ?_⟩
  have hreport := candidateAt?_lint settings.limits run sorted path source place candidate
  have hanswer := candidateAt?_answer settings.limits ⟨source, sorted⟩ place candidate
  refine ⟨hreport, hanswer.trans hreport.symm, fun sent hsent => ?_⟩
  rw [hreport] at hsent
  obtain ⟨fix, hfix, rfl⟩ := Option.map_eq_some_iff.mp hsent
  exact ⟨fix.apply source, appliedAlike hlog hfile hfix run⟩

/-- A text with both newlines, a reference that looks misspelt, and behind it a header without a
direction. -/
def strayText : Text :=
  "A[\"Zürich 𝄞\"]-->Stpe1\r\nStep1[x]\n\tgraph up".toList

/-- A directory with that text in its one file. -/
def strayDirectory : Directory :=
  .ofList [("flow.mmd".toList, Utf8.encode strayText)]

/-- The fix that gives the header the third direction. -/
def strayFix : Fix :=
  .replace ⟨3, "graph up".toList, "graph BT".toList⟩

/-- The header is reported first, and second where the issues are sorted. -/
theorem candidateOf?_stray :
    candidateOf? (orderedIssues {} true strayText) 1 2 = some strayFix := by
  have hlength : (analyze {} strayText).length = 2 := by decide
  obtain ⟨first, second, hissues⟩ := List.length_eq_two.mp hlength
  have hplaces : (analyze {} strayText).map (fun issue => (issue.line, issue.candidates[2]?))
      = [(3, some strayFix), (1, none)] := by decide
  rw [hissues] at hplaces
  obtain ⟨⟨hfirst, hfix⟩, hsecond, _⟩ : (first.line = 3 ∧ first.candidates[2]? = some strayFix) ∧
      second.line = 1 ∧ second.candidates[2]? = none := by simpa using hplaces
  have hbehind : first.notBehind second = false := by
    simp [Issue.notBehind, hfirst, hsecond]
  have hsorted : sortIssues [first, second] = [second, first] := by
    simp [sortIssues, List.mergeSort, List.MergeSort.Internal.splitInTwo, hbehind]
  rw [orderedIssues, if_pos rfl, hissues, hsorted]
  exact hfix

/-- A run on a leap day. -/
def strayRun : Run :=
  ⟨"c4".toList, ⟨2024, 2, 29, 23, 59, 59, 0⟩⟩

/-- The fix for the header has the second place in both reports, and makes one text of both
interfaces. -/
theorem interfaces_agree_stray :
    ∃ exit output report answer after,
      execute {} strayRun strayDirectory
          ["lint".toList, "flow.mmd".toList, "--sorted".toList, "-f".toList, "json".toList]
        = .finished exit output [] strayDirectory ∧
      Json.read? output = some report ∧
      respond {} ⟨"POST".toList, "/api/v1/lint".toList,
        .json (LintRequest.form.encode ⟨strayText, true⟩)⟩ = .ok answer ∧
      report.candidateAt? 1 2 = some strayFix.toJson ∧
      answer.candidateAt? 1 2 = some strayFix.toJson ∧
      respond {} ⟨"POST".toList, "/api/v1/fix".toList,
          .json (.ofMembers [("source", .str strayText), ("fix", strayFix.toJson)])⟩
        = .ok (SourceResponse.form.encode ⟨after, true⟩) ∧
      execute {} strayRun strayDirectory
          ["fix".toList, "flow.mmd".toList, "--sorted".toList, "--issue".toList, "1".toList,
            "--candidate=2".toList]
        = .finished 0 (after ++ ['\n']) [] strayDirectory := by
  have hentry : ∀ content, (Directory.ofList [("flow.mmd".toList, content)]).entryAt
      "flow.mmd".toList = .ok (.file content) := by
    intro content
    cbv
  have hreported : AskReport {} "flow.mmd".toList true
      ["lint".toList, "flow.mmd".toList, "--sorted".toList, "-f".toList, "json".toList] :=
    ⟨false, read_eq_ok (by decide +kernel)⟩
  have hfixed : AskFix {} "flow.mmd".toList true 1 2 []
      ["fix".toList, "flow.mmd".toList, "--sorted".toList, "--issue".toList, "1".toList,
        "--candidate=2".toList] :=
    ⟨false, read_eq_ok (by decide +kernel)⟩
  obtain ⟨exit, output, report, answer, hexecuted, hread, hanswered, hall⟩ :=
    interfaces_agree {} (canLog_default false) strayRun (hentry (Utf8.encode strayText)) hreported
      (show (Body.json (LintRequest.form.encode ⟨strayText, true⟩)).content = _ from rfl)
      (LintRequest.faithful_form ⟨strayText, true⟩)
  obtain ⟨hreport, hanswer, happlied⟩ := hall 1 2
  rw [candidateOf?_stray] at hreport
  obtain ⟨after, hafter⟩ := happlied _ hreport
  exact ⟨exit, output, report, answer, after, hexecuted, hread, hanswered, hreport,
    hanswer.trans hreport, hafter.answered _ rfl, hafter.printed _ hfixed⟩

end Flowchart
