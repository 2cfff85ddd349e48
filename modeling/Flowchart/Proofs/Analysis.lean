import Flowchart.Analysis
import Flowchart.Proofs.Direction

/-!
# What issues are about

An issue of a document is about one of four things: a header that names no
direction, a closing line without a block, a block without a closing line, or a
reference that is close to a node and defined nowhere.
-/

namespace Flowchart

/-- What an issue of a document is about, and where it comes from. -/
inductive Found (limits : Limits) (lines : List Text) : Issue → Prop
  /-- A header that names no direction. -/
  | astray {line : NumberedLine} {header : Header} {issue : Issue} :
      line ∈ inspectedLines limits lines → Header.ofLine? line.text = some header →
      header.issue? line.number = some issue → Found limits lines issue
  /-- A closing line without a block. -/
  | unexpected {frame : Frame} :
      frame ∈ (imbalanceFrom [] (inspectedLines limits lines)).unexpected →
      Found limits lines frame.unexpectedEnd
  /-- A block without a closing line. -/
  | unclosed {frame : Frame} :
      frame ∈ (imbalanceFrom [] (inspectedLines limits lines)).unclosed →
      Found limits lines (frame.missingEnd lines.length)
  /-- A reference that is defined nowhere, at the place where it first stands. -/
  | misspelt {id node : Text} {number column : Nat} :
      id ∈ (extractNames limits lines).references →
      id ∉ (extractNames limits lines).nodes →
      locate? id lines = some (number, column) →
      Found limits lines (typoIssue id node number column)

/-- What is known of a reference that looks misspelt. -/
theorem of_typoIssue?_eq_some {limits : Limits} {lines nodes : List Text} {id : Text}
    {issue : Issue} (h : typoIssue? limits lines nodes id = some issue) :
    id ∉ nodes ∧ limits.typoMinLength ≤ id.length ∧ ∃ node number column,
      closestDefinition? limits id nodes = some node ∧
      locate? id lines = some (number, column) ∧ issue = typoIssue id node number column := by
  unfold typoIssue? at h
  split at h
  · cases h
  · rename_i hundefined
    split at h
    · cases h
    · rename_i hlong
      obtain ⟨node, hnode, hrest⟩ := Option.bind_eq_some_iff.mp h
      obtain ⟨⟨number, column⟩, hlocate, hmade⟩ := Option.bind_eq_some_iff.mp hrest
      obtain rfl := Option.some.inj hmade
      exact ⟨by simpa using hundefined, Int.not_lt.mp hlong, node, number, column, hnode,
        hlocate, rfl⟩

/-- A typo is about a reference that is defined nowhere. -/
theorem found_of_mem_checkTypos {limits : Limits} {lines : List Text} {issue : Issue}
    (h : issue ∈ checkTypos limits lines (extractNames limits lines)) :
    Found limits lines issue := by
  obtain ⟨id, hid, hfound⟩ := List.mem_filterMap.mp h
  obtain ⟨hundefined, _, node, number, column, _, hlocate, rfl⟩ := of_typoIssue?_eq_some hfound
  exact .misspelt hid hundefined hlocate

/-- Every issue is about one of the four things. -/
theorem found_of_mem {limits : Limits} {lines : List Text} {issue : Issue}
    (h : issue ∈ analyzeLines limits lines) : Found limits lines issue := by
  rcases List.mem_append.mp h with hstructure | htypo
  · rcases List.mem_append.mp hstructure with hdirection | hbalance
    · obtain ⟨line, hline, hfound⟩ := List.mem_filterMap.mp hdirection
      obtain ⟨header, hheader, hmade⟩ := Option.bind_eq_some_iff.mp hfound
      exact .astray hline hheader hmade
    · rcases List.mem_append.mp hbalance with hunexpected | hmissing
      · obtain ⟨frame, hframe, rfl⟩ := List.mem_map.mp hunexpected
        exact .unexpected hframe
      · obtain ⟨frame, hframe, rfl⟩ := List.mem_map.mp hmissing
        exact .unclosed hframe
  · exact found_of_mem_checkTypos htypo

/-! ## The kinds that a check reports -/

/-- The issues about directions are of one kind. -/
theorem kind_eq_of_mem_checkDirection {limits : Limits} {lines : List Text} {issue : Issue}
    (h : issue ∈ checkDirection limits lines) : issue.kind = .unknownDirection := by
  obtain ⟨line, _, hfound⟩ := List.mem_filterMap.mp h
  obtain ⟨header, _, hmade⟩ := Option.bind_eq_some_iff.mp hfound
  exact (of_issue?_eq_some hmade).1

/-- The issues about blocks are of two kinds. -/
theorem kind_eq_of_mem_checkBalance {limits : Limits} {lines : List Text} {issue : Issue}
    (h : issue ∈ checkBalance limits lines) :
    issue.kind = .unexpectedEnd ∨ issue.kind = .missingEnd := by
  rcases List.mem_append.mp h with hunexpected | hmissing
  · obtain ⟨frame, _, rfl⟩ := List.mem_map.mp hunexpected
    exact Or.inl rfl
  · obtain ⟨frame, _, rfl⟩ := List.mem_map.mp hmissing
    exact Or.inr rfl

/-- The issues about names are of one kind. -/
theorem kind_eq_of_mem_checkTypos {limits : Limits} {lines : List Text} {names : Names}
    {issue : Issue} (h : issue ∈ checkTypos limits lines names) : issue.kind = .possibleTypo := by
  obtain ⟨id, _, hfound⟩ := List.mem_filterMap.mp h
  obtain ⟨_, _, node, number, column, _, _, rfl⟩ := of_typoIssue?_eq_some hfound
  rfl

/-- No missing end is among the issues about directions. -/
theorem kind_of_mem_checkDirection {limits : Limits} {lines : List Text} {issue : Issue}
    (h : issue ∈ checkDirection limits lines) : issue.kind ≠ .missingEnd := by
  rw [kind_eq_of_mem_checkDirection h]
  exact nofun

/-- No missing end is among the unexpected ends. -/
theorem kind_of_mem_unexpected {frames : List Frame} {issue : Issue}
    (h : issue ∈ frames.map Frame.unexpectedEnd) : issue.kind ≠ .missingEnd := by
  obtain ⟨frame, _, rfl⟩ := List.mem_map.mp h
  exact nofun

/-- No missing end is among the issues about names. -/
theorem kind_of_mem_checkTypos {limits : Limits} {lines : List Text} {names : Names}
    {issue : Issue} (h : issue ∈ checkTypos limits lines names) : issue.kind ≠ .missingEnd := by
  rw [kind_eq_of_mem_checkTypos h]
  exact nofun

/-! ## The issues of a check -/

/-- The issues of one kind. -/
def issuesOf (kind : IssueKind) (issues : List Issue) : List Issue :=
  issues.filter fun issue => issue.kind = kind

/-- The issues that are about the balance of blocks. -/
def balanceIssues (issues : List Issue) : List Issue :=
  issues.filter fun issue => issue.kind = .unexpectedEnd ∨ issue.kind = .missingEnd

/-- Issues of one kind are kept or dropped together. -/
theorem filter_of_kind_eq {kind : IssueKind} {issues : List Issue}
    (h : ∀ issue ∈ issues, issue.kind = kind) (kept : IssueKind → Bool) :
    issues.filter (fun issue => kept issue.kind) = if kept kind then issues else [] := by
  split
  · rename_i hkept
    exact List.filter_eq_self.mpr fun issue hissue => by rw [h issue hissue, hkept]
  · rename_i hdropped
    exact List.filter_eq_nil_iff.mpr fun issue hissue => by rwa [h issue hissue]

/-- Which issues are kept by their kinds is decided check by check. -/
theorem filter_analyzeLines (limits : Limits) (lines : List Text) (kept : IssueKind → Bool) :
    (analyzeLines limits lines).filter (fun issue => kept issue.kind)
      = (if kept .unknownDirection then checkDirection limits lines else [])
        ++ (checkBalance limits lines).filter (fun issue => kept issue.kind)
        ++ if kept .possibleTypo then checkTypos limits lines (extractNames limits lines)
           else [] := by
  have hdirection := filter_of_kind_eq
    (fun issue => @kind_eq_of_mem_checkDirection limits lines issue) kept
  have htypos := filter_of_kind_eq
    (fun issue => @kind_eq_of_mem_checkTypos limits lines (extractNames limits lines) issue) kept
  rw [analyzeLines, List.filter_append, List.filter_append, hdirection, htypos]

/-- Balance issues are of no other kind. -/
theorem issuesOf_checkBalance {kind : IssueKind} (hunexpected : kind ≠ .unexpectedEnd)
    (hmissing : kind ≠ .missingEnd) (limits : Limits) (lines : List Text) :
    issuesOf kind (checkBalance limits lines) = [] := by
  refine List.filter_eq_nil_iff.mpr fun issue hissue => ?_
  rcases kind_eq_of_mem_checkBalance hissue with hkind | hkind
  · simpa [hkind] using Ne.symm hunexpected
  · simpa [hkind] using Ne.symm hmissing

/-- The issues of unknown directions are those that the check of directions reports. -/
theorem issuesOf_unknownDirection (limits : Limits) (lines : List Text) :
    issuesOf .unknownDirection (analyzeLines limits lines) = checkDirection limits lines := by
  have hbalance := @issuesOf_checkBalance .unknownDirection nofun nofun limits lines
  have hparts := filter_analyzeLines limits lines (· = .unknownDirection)
  unfold issuesOf at hbalance ⊢
  simpa [hbalance] using hparts

/-- The issues of misspelt references are those that the check of typos reports. -/
theorem issuesOf_possibleTypo (limits : Limits) (lines : List Text) :
    issuesOf .possibleTypo (analyzeLines limits lines)
      = checkTypos limits lines (extractNames limits lines) := by
  have hbalance := @issuesOf_checkBalance .possibleTypo nofun nofun limits lines
  have hparts := filter_analyzeLines limits lines (· = .possibleTypo)
  unfold issuesOf at hbalance ⊢
  simpa [hbalance] using hparts

/-- The issues of blocks are those that the check of the balance reports. -/
theorem balanceIssues_analyzeLines (limits : Limits) (lines : List Text) :
    balanceIssues (analyzeLines limits lines) = checkBalance limits lines := by
  have hbalance : balanceIssues (checkBalance limits lines) = checkBalance limits lines :=
    List.filter_eq_self.mpr fun issue hissue => by simpa using kind_eq_of_mem_checkBalance hissue
  have hparts := filter_analyzeLines limits lines
    fun kind => kind = .unexpectedEnd ∨ kind = .missingEnd
  refine Eq.trans ?_ hbalance
  simpa [balanceIssues] using hparts

end Flowchart
