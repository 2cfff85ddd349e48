import Flowchart.Fix.Summary
import Flowchart.Proofs.Fix.Redirect
import Flowchart.Report
import Mathlib.Algebra.BigOperators.Group.List.Lemmas
import Mathlib.Algebra.GroupWithZero.Nat

/-!
# What can be fixed, counted twice

A report counts the issues that have a fix, and a summary of fixes those that have
candidates, which are found by reading the header in the fix once more.  The two agree: the
fix of an issue is the first of its candidates, and the header that was replaced is a header
by itself, so that it has all five directions.  Every kind of fix mends one kind of issue,
and only a block that is closed without being opened is left.

Main statement: `fixable_agree`.
-/

namespace Flowchart

/-! ## The candidates of one issue -/

/-- The kind of issue that a kind of fix mends. -/
def FixKind.mends : FixKind → IssueKind
  | replace => .unknownDirection
  | appendEnd => .missingEnd
  | defineNode => .possibleTypo

/-- The number of candidates of a kind that an issue has, if it has any. -/
def FixKind.choices : FixKind → Nat
  | replace => 5
  | appendEnd => 1
  | defineNode => 1

/-- What is known of the candidates of an issue. -/
structure Issue.Offers (issue : Issue) : Prop where
  /-- Its own fix is the first of them. -/
  head : issue.candidates.head? = issue.fix
  /-- There are none for a block that is closed without being opened, and some for others. -/
  none_iff : issue.candidates = [] ↔ issue.kind = .unexpectedEnd
  /-- They are of the kind that mends the issue. -/
  count : ∀ kind : FixKind, (issue.candidates.countP fun fix => fix.kind = kind)
    = if issue.kind = kind.mends then kind.choices else 0

/-- A closing line without a block has no candidates. -/
theorem offers_unexpectedEnd (frame : Frame) : frame.unexpectedEnd.Offers where
  head := rfl
  none_iff := by simp [Issue.candidates, Frame.unexpectedEnd]
  count := fun kind => by cases kind <;> rfl

/-- A block that is never closed has its ending for the only candidate. -/
theorem offers_missingEnd (frame : Frame) (count : Nat) : (frame.missingEnd count).Offers where
  head := rfl
  none_iff := by simp [Issue.candidates, Frame.missingEnd]
  count := fun kind => by cases kind <;> rfl

/-- A misspelt reference has its definition for the only candidate. -/
theorem offers_typoIssue (id node : Text) (number column : Nat) :
    (typoIssue id node number column).Offers where
  head := rfl
  none_iff := by simp [Issue.candidates, typoIssue]
  count := fun kind => by cases kind <;> rfl

/-- The header that is replaced is read as a header again, which gives the five directions. -/
theorem Header.Reads.offers {header : Header} {line rest : Text} (h : header.Reads line rest)
    {number : Nat} {issue : Issue} (hissue : header.issue? number = some issue) :
    issue.Offers := by
  obtain ⟨hkind, _, _, hfix⟩ := of_issue?_eq_some hissue
  have hcandidates := h.candidates_eq hissue
  refine ⟨?_, ?_, fun kind => ?_⟩
  · rw [hcandidates, hfix]
    rfl
  · rw [hcandidates, hkind]
    exact iff_of_false nofun nofun
  · rw [hcandidates, hkind]
    cases kind <;> rfl

/-- Every issue of a text offers its fix first. -/
theorem offers_of_mem {limits : Limits} {source : Text} {issue : Issue}
    (h : issue ∈ analyze limits source) : issue.Offers := by
  rw [analyze_eq_analyzeLines] at h
  cases found_of_mem h with
  | astray _ hheader hmade =>
      obtain ⟨rest, hreads⟩ := Header.ofLine?_eq_some_iff.mp hheader
      exact hreads.offers hmade
  | @unexpected frame _ => exact offers_unexpectedEnd frame
  | @unclosed frame _ => exact offers_missingEnd frame _
  | misspelt _ _ _ => exact offers_typoIssue _ _ _ _

/-- An issue can be fixed exactly if it has a fix. -/
theorem Issue.Offers.isFixable_eq {issue : Issue} (h : issue.Offers) :
    issue.isFixable = issue.fix.isSome := by
  rw [isFixable, ← h.head]
  cases issue.candidates <;> rfl

/-- An issue has a fix exactly if it is no closing line without a block. -/
theorem Issue.Offers.isSome_fix_iff {issue : Issue} (h : issue.Offers) :
    issue.fix.isSome = true ↔ issue.kind ≠ .unexpectedEnd := by
  rw [← h.head, List.isSome_head?]
  exact not_congr h.none_iff

/-! ## The issues of a list -/

/-- The number of issues of a kind. -/
def countKind (issues : List Issue) (kind : IssueKind) : Nat :=
  issues.countP fun issue => issue.kind = kind

section Counted

variable {issues : List Issue} (h : ∀ issue ∈ issues, issue.Offers)

include h

/-- The issues that can be fixed are those that have a fix. -/
theorem filter_isFixable : issues.filter Issue.isFixable = issues.filter (·.fix.isSome) :=
  List.filter_congr fun issue hissue => (h issue hissue).isFixable_eq

/-- As many issues have candidates as have a fix. -/
theorem countP_isFixable : issues.countP Issue.isFixable = issues.countP (·.fix.isSome) := by
  rw [List.countP_eq_length_filter, List.countP_eq_length_filter, filter_isFixable h]

/-- All issues have a fix but for the closing lines without a block. -/
theorem countP_isSome_fix :
    issues.countP (·.fix.isSome) + countKind issues .unexpectedEnd = issues.length := by
  have hfixed : issues.countP (·.fix.isSome)
      = issues.countP fun issue => !decide (issue.kind = .unexpectedEnd) := by
    refine List.countP_congr fun issue hissue => ?_
    simpa using (h issue hissue).isSome_fix_iff
  rw [hfixed, countKind, Nat.add_comm]
  simpa using (List.length_eq_countP_add_countP fun issue : Issue =>
    decide (issue.kind = .unexpectedEnd)).symm

/-- The candidates of a kind are as many as the issues that it mends, times the choices. -/
theorem countCandidates_eq (kind : FixKind) :
    countCandidates issues kind = kind.choices * countKind issues kind.mends := by
  unfold countCandidates countKind
  rw [List.countP_flatMap]
  induction issues with
  | nil => rfl
  | cons issue issues ih =>
      obtain ⟨hissue, hissues⟩ := List.forall_mem_cons.mp h
      have hrest := ih hissues
      rw [List.map_cons, List.sum_cons, hrest, Function.comp_apply, hissue.count,
        List.countP_cons]
      by_cases hkind : issue.kind = kind.mends
      · simp [hkind, Nat.mul_add, Nat.add_comm]
      · simp [hkind]

/-- Of each kind of fix there are as many candidates as its issues have together. -/
theorem candidateCounts_eq : candidateCounts issues = .ofMembers
    [("replace", .int (5 * countKind issues .unknownDirection)),
     ("append_end", .int (countKind issues .missingEnd)),
     ("define_node", .int (countKind issues .possibleTypo))] := by
  simp only [candidateCounts, FixKind.all, List.map_cons, List.map_nil, countCandidates_eq h,
    FixKind.choices, FixKind.mends, Nat.one_mul]
  rfl

end Counted

/-- The entries count the issues of each kind, and add up to all. -/
structure Tallies (issues : List Issue) (entries : List (IssueKind × Nat)) : Prop where
  /-- No kind is there twice. -/
  kinds : (entries.map (·.1)).Nodup
  /-- Each kind is there with the number of its issues. -/
  counts : ∀ entry ∈ entries, entry.2 = countKind issues entry.1
  /-- The numbers add up to that of the issues. -/
  sum : (entries.map (·.2)).sum = issues.length

/-- The counts by kind in a summary tally. -/
theorem tallies_byKind (issues : List Issue) : Tallies issues (Summary.ofIssues issues).byKind where
  kinds := by
    have hkinds : (Summary.ofIssues issues).byKind.map (·.1)
        = (issues.map (·.kind)).eraseDups := by
      simp [Summary.ofIssues, Function.comp_def]
    rw [hkinds]
    exact nodup_eraseDups _
  counts := by
    intro entry hentry
    obtain ⟨kind, _, rfl⟩ := List.mem_map.mp hentry
    rfl
  sum := by
    have hperm : (issues.map (·.kind)).eraseDups.Perm (issues.map (·.kind)).dedup := by
      refine (List.perm_ext_iff_of_nodup (nodup_eraseDups _) (List.nodup_dedup _)).mpr
        fun kind => ?_
      rw [List.mem_eraseDups, List.mem_dedup]
    have hcount : ∀ kind, issues.countP (fun issue => issue.kind = kind)
        = (issues.map (·.kind)).count kind := by
      intro kind
      rw [List.count, List.countP_map]
      refine List.countP_congr fun issue _ => ?_
      simp
    calc ((Summary.ofIssues issues).byKind.map (·.2)).sum
        = ((issues.map (·.kind)).eraseDups.map
            fun kind => (issues.map (·.kind)).count kind).sum := by
          simp [Summary.ofIssues, hcount, Function.comp_def]
      _ = ((issues.map (·.kind)).dedup.map fun kind => (issues.map (·.kind)).count kind).sum :=
          (hperm.map _).sum_eq
      _ = (issues.map (·.kind)).length := List.sum_map_count_dedup_eq_length _
      _ = issues.length := List.length_map ..

/-- The order of the issues does not matter to the counts. -/
theorem Tallies.of_perm {issues other : List Issue} {entries : List (IssueKind × Nat)}
    (h : Tallies issues entries) (hperm : issues.Perm other) : Tallies other entries where
  kinds := h.kinds
  counts := fun entry hentry => (h.counts entry hentry).trans (hperm.countP_eq _)
  sum := h.sum.trans hperm.length_eq

/-- To order issues adds none and takes none away. -/
theorem orderedIssues_perm (limits : Limits) (sorted : Bool) (source : Text) :
    (orderedIssues limits sorted source).Perm (analyze limits source) := by
  cases sorted with
  | false => exact .rfl
  | true => exact List.mergeSort_perm _ _

/-- **The report and the summary of fixes agree on what can be fixed.** An issue has candidates
exactly if it has a fix, which is the first of them then. Both count all issues but the closing
lines without a block, in whatever order; each header has five candidates, each block that is
never closed one, and each misspelt reference one; and those listed are the issues with a fix, in
their order, each with its kind, its place, its message and its candidates. -/
theorem fixable_agree (limits : Limits) (run : Run) (sorted order : Bool) (path source : Text) :
    (∀ issue ∈ analyze limits source,
      (issue.candidates ≠ [] ↔ issue.fix ≠ none) ∧ issue.candidates.head? = issue.fix) ∧
    ∃ (fixable : Nat) (byKind : List (IssueKind × Nat)),
      fixable + countKind (analyze limits source) .unexpectedEnd
        = (analyze limits source).length ∧
      Tallies (analyze limits source) byKind ∧
      (lint limits run sorted path source).summary
        = [("total_issues".toList, .int (analyze limits source).length),
           ("by_kind".toList, .obj (byKind.map fun entry => (entry.1.name, .int entry.2))),
           ("fixable".toList, .int fixable)] ∧
      fixSummary (orderedIssues limits order source)
        = .ofMembers
          [("summary", .ofMembers
            [("total_issues", .int (analyze limits source).length),
             ("fixable", .int fixable),
             ("by_fix_kind", .ofMembers
              [("replace", .int (5 * countKind (analyze limits source) .unknownDirection)),
               ("append_end", .int (countKind (analyze limits source) .missingEnd)),
               ("define_node", .int (countKind (analyze limits source) .possibleTypo))])]),
           ("fixes", .arr (((orderedIssues limits order source).filter (·.fix.isSome)).map
              fun issue => .ofMembers
                [("kind", .str issue.kind.name),
                 ("line", .int issue.line),
                 ("column", .int issue.column),
                 ("message", .str issue.message),
                 ("candidates", .arr (issue.candidates.map Fix.toJson))]))] := by
  have hoffers : ∀ issue ∈ analyze limits source, issue.Offers := fun _ => offers_of_mem
  have hordered : ∀ issue ∈ orderedIssues limits order source, issue.Offers := fun issue hissue =>
    hoffers issue ((orderedIssues_perm limits order source).mem_iff.mp hissue)
  have hperm := orderedIssues_perm limits sorted source
  have hother := orderedIssues_perm limits order source
  have hkind : ∀ kind, countKind (orderedIssues limits order source) kind
      = countKind (analyze limits source) kind := fun kind => hother.countP_eq _
  refine ⟨fun issue hissue => ⟨?_, (hoffers issue hissue).head⟩,
    (analyze limits source).countP (·.fix.isSome), _, countP_isSome_fix hoffers,
    (tallies_byKind (orderedIssues limits sorted source)).of_perm hperm, ?_, ?_⟩
  · rw [← (hoffers issue hissue).head]
    exact not_congr List.head?_eq_none_iff.symm
  · rw [lint, Summary.members]
    simp only [Summary.ofIssues, hperm.length_eq, hperm.countP_eq]
  · rw [fixSummary, candidateCounts_eq hordered, hkind, hkind, hkind, countP_isFixable hordered,
      filter_isFixable hordered, hother.length_eq, hother.countP_eq]
    rfl

/-- A text with two headers without a direction, a closing line too many and one too few, and a
misspelt name. -/
def gatheredSource : Text :=
  "end\nStep1-->Step2\nStep2-->Stpe1\ngraph up\nsubgraph x\nFlowChart\tl; l".toList

/-- Of the five issues of the text four can be fixed, in twelve ways. -/
theorem fixable_agree_gathered :
    (analyze {} gatheredSource).map (·.kind)
        = [.unknownDirection, .unknownDirection, .unexpectedEnd, .missingEnd, .possibleTypo] ∧
      ∀ run path,
        Json.lookup? "fixable".toList (lint {} run true path gatheredSource).summary
          = some (.int 4) ∧
        (fixSummary (analyze {} gatheredSource)).get? "summary".toList
          = some (.ofMembers
            [("total_issues", .int 5),
             ("fixable", .int 4),
             ("by_fix_kind", .ofMembers
              [("replace", .int 10), ("append_end", .int 1), ("define_node", .int 1)])]) := by
  refine ⟨by decide, fun run path => ?_⟩
  obtain ⟨_, fixable, byKind, htotal, _, hsummary, hfixes⟩ :=
    fixable_agree {} run true false path gatheredSource
  have hlength : (analyze {} gatheredSource).length = 5 := by decide
  have hunexpected : countKind (analyze {} gatheredSource) .unexpectedEnd = 1 := by decide
  have hdirection : countKind (analyze {} gatheredSource) .unknownDirection = 2 := by decide
  have hmissing : countKind (analyze {} gatheredSource) .missingEnd = 1 := by decide
  have htypo : countKind (analyze {} gatheredSource) .possibleTypo = 1 := by decide
  obtain rfl : fixable = 4 := by omega
  rw [hlength, hdirection, hmissing, htypo] at hfixes
  have hordered : orderedIssues {} false gatheredSource = analyze {} gatheredSource := rfl
  rw [hordered] at hfixes
  rw [hsummary, hfixes]
  exact ⟨rfl, rfl⟩

end Flowchart
