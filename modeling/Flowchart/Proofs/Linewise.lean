import Flowchart.Proofs.Typo
import Mathlib.Data.List.Induction
import Mathlib.Data.List.Perm.Basic

/-!
# Names, line by line

Every line is scanned by itself, so the names of a document are those of its front part,
and behind them what the rest has more; each stands where it is first mentioned.  In
another order of the lines other mentions are the first, but the names are the same, and
so are the references that look misspelt: which node is suggested for one, and where it is
found, depends on the order, but not whether there is such a node and such a place.

Main statement: `extractNames_linewise`.
-/

namespace Flowchart

/-! ## First mentions -/

/-- The names are those that are mentioned, each once, in the order in which they first are. -/
structure FirstMentions (mentions names : List Text) : Prop where
  /-- A name is one that is mentioned. -/
  mem_iff : ∀ id, id ∈ names ↔ id ∈ mentions
  /-- No name is there twice. -/
  nodup : names.Nodup
  /-- A name that stands before another is mentioned before it. -/
  ordered : names.Pairwise fun id next => mentions.idxOf id < mentions.idxOf next

/-- One more mention adds its name, unless that was mentioned before. -/
theorem eraseDups_concat (mentions : List Text) (id : Text) :
    (mentions ++ [id]).eraseDups
      = if id ∈ mentions then mentions.eraseDups else mentions.eraseDups ++ [id] := by
  rw [List.eraseDups_append]
  split
  · next hmem => simp [List.removeAll, hmem]
  · next hnew => simp [List.removeAll, hnew, List.eraseDups_cons]

/-- A name that is mentioned already is not mentioned earlier in more mentions. -/
theorem eraseDups_ordered (mentions : List Text) :
    mentions.eraseDups.Pairwise fun id next => mentions.idxOf id < mentions.idxOf next := by
  induction mentions using List.reverseRecOn with
  | nil => exact .nil
  | append_singleton mentions last ih =>
      have hkept : mentions.eraseDups.Pairwise fun id next =>
          (mentions ++ [last]).idxOf id < (mentions ++ [last]).idxOf next := by
        refine ih.imp_of_mem fun hid hnext hlt => ?_
        rwa [List.idxOf_append_of_mem (List.mem_eraseDups.mp hid),
          List.idxOf_append_of_mem (List.mem_eraseDups.mp hnext)]
      rw [eraseDups_concat]
      split
      · exact hkept
      · next hnew =>
          refine List.pairwise_append.mpr
            ⟨hkept, List.pairwise_singleton .., fun id hid next hnext => ?_⟩
          obtain rfl := List.mem_singleton.mp hnext
          have hmem := List.mem_eraseDups.mp hid
          rw [List.idxOf_append_of_mem hmem, List.idxOf_append_of_notMem hnew]
          exact Nat.lt_add_right _ (List.idxOf_lt_length_iff.mpr hmem)

/-- To erase what was mentioned before leaves the first mentions. -/
theorem firstMentions_eraseDups (mentions : List Text) :
    FirstMentions mentions mentions.eraseDups where
  mem_iff := fun _ => List.mem_eraseDups
  nodup := nodup_eraseDups mentions
  ordered := eraseDups_ordered mentions

/-! ## Documents put together -/

/-- The definitions in the lines that are looked at, in order and with repetitions. -/
def definitionsIn (limits : Limits) (lines : List Text) : List Text :=
  (lines.filter (isInspected limits)).flatMap lineDefinitions

/-- The references in the lines that are looked at, in order and with repetitions. -/
def referencesIn (limits : Limits) (lines : List Text) : List Text :=
  (lines.filter (isInspected limits)).flatMap lineReferences

/-- The list, and behind it what the other has more. -/
def followedBy (names more : List Text) : List Text :=
  names ++ more.filter fun id => !names.contains id

/-- The names of a document, and behind them what another has more. -/
def Names.followedBy (names more : Names) : Names :=
  ⟨Flowchart.followedBy names.nodes more.nodes,
   Flowchart.followedBy names.references more.references⟩

/-- The first mentions of a front part come first, and then what the rest has more. -/
theorem eraseDups_append_followedBy (mentions more : List Text) :
    (mentions ++ more).eraseDups = followedBy mentions.eraseDups more.eraseDups := by
  rw [List.eraseDups_append, List.removeAll, eraseDups_filter, followedBy]
  congr 1
  refine List.filter_congr fun id _ => ?_
  simp

/-- The names of lines are those of a front part, followed by those of the rest. -/
theorem extractNames_append (limits : Limits) (front back : List Text) :
    extractNames limits (front ++ back)
      = (extractNames limits front).followedBy (extractNames limits back) := by
  simp only [extractNames_eq, List.filter_append, List.flatMap_append,
    eraseDups_append_followedBy, Names.followedBy]

/-! ## Documents in another order -/

section Reordered

variable {limits : Limits} {lines other : List Text}

/-- Mentions in another order are of the same names. -/
theorem eraseDups_perm {mentions more : List Text} (h : mentions.Perm more) :
    mentions.eraseDups.Perm more.eraseDups := by
  refine (List.perm_ext_iff_of_nodup (nodup_eraseDups _) (nodup_eraseDups _)).mpr fun id => ?_
  rw [List.mem_eraseDups, List.mem_eraseDups]
  exact h.mem_iff

/-- In another order of the lines the nodes are the same. -/
theorem nodes_perm (h : lines.Perm other) :
    (extractNames limits lines).nodes.Perm (extractNames limits other).nodes := by
  rw [extractNames_eq, extractNames_eq]
  exact eraseDups_perm ((h.filter _).flatMap_right _)

/-- In another order of the lines the references are the same. -/
theorem references_perm (h : lines.Perm other) :
    (extractNames limits lines).references.Perm (extractNames limits other).references := by
  rw [extractNames_eq, extractNames_eq]
  exact eraseDups_perm ((h.filter _).flatMap_right _)

/-- Whether a name looks misspelt does not depend on the order of the nodes. -/
theorem isMisspelt_perm {nodes more : List Text} (h : nodes.Perm more) {id : Text} :
    IsMisspelt limits nodes id ↔ IsMisspelt limits more id := by
  simp only [IsMisspelt, h.mem_iff]

/-- A name has a place exactly if it stands in some line that is no comment. -/
theorem locate?_isSome_iff {id : Text} :
    (locate? id lines).isSome = true ↔ ∃ line ∈ lines, isComment line = false ∧ id <:+: line := by
  constructor
  · intro hplace
    obtain ⟨⟨number, column⟩, hfound⟩ := Option.isSome_iff_exists.mp hplace
    obtain ⟨front, back, line, offset, rfl, _, _, hcomment, hstands, _⟩ :=
      firstPlace_of_locate? hfound
    obtain ⟨before, behind, rfl, _⟩ := hstands.stands
    exact ⟨_, by simp, hcomment, before, behind, by simp⟩
  · rintro ⟨line, hline, hcomment, hwithin⟩
    exact Option.isSome_iff_ne_none.mpr (locate?_ne_none hline hcomment hwithin)

/-- Whether a name is found does not depend on the order of the lines. -/
theorem locate?_isSome_perm (h : lines.Perm other) (id : Text) :
    (locate? id lines).isSome = (locate? id other).isSome := by
  rw [Bool.eq_iff_iff, locate?_isSome_iff, locate?_isSome_iff]
  simp only [h.mem_iff]

/-- The references that are reported as misspelt, in order. -/
def flagged (limits : Limits) (lines : List Text) : List Text :=
  (checkTypos limits lines (extractNames limits lines)).filterMap Issue.reference?

/-- The references that are reported are those that look misspelt and have a place. -/
theorem flagged_eq (limits : Limits) (lines : List Text) :
    flagged limits lines = (extractNames limits lines).references.filter fun id =>
      decide (IsMisspelt limits (extractNames limits lines).nodes id)
        && (locate? id lines).isSome := by
  rw [flagged, checkTypos, List.filterMap_filterMap, ← List.filterMap_eq_filter]
  refine List.filterMap_congr fun id _ => ?_
  by_cases hmisspelt : IsMisspelt limits (extractNames limits lines).nodes id
  · obtain ⟨node, _, hissue⟩ := exists_typoIssue?_eq_map hmisspelt
    rw [hissue]
    cases hplace : locate? id lines with
    | none => simp [Option.guard, hplace]
    | some place => simp [Option.guard, hplace, hmisspelt, Issue.reference?, typoIssue]
  · simp [typoIssue?_eq_none hmisspelt, Option.guard, hmisspelt]

/-- The same references are reported in any order of the lines. -/
theorem flagged_perm (h : lines.Perm other) :
    (flagged limits lines).Perm (flagged limits other) := by
  rw [flagged_eq, flagged_eq]
  refine ((references_perm h).filter _).trans (.of_eq (List.filter_congr fun id _ => ?_))
  rw [locate?_isSome_perm h id, decide_eq_decide.mpr (isMisspelt_perm (nodes_perm h))]

end Reordered

/-- **The names of a document are put together from those of its lines.** They stand in the order
in which they are first mentioned; lines behind others add the names that these do not have; and
in whatever order the lines stand, there are the same nodes and the same references, of which the
same are reported as misspelt. -/
theorem extractNames_linewise (limits : Limits) :
    (∀ lines, FirstMentions (definitionsIn limits lines) (extractNames limits lines).nodes ∧
      FirstMentions (referencesIn limits lines) (extractNames limits lines).references) ∧
    (∀ front back, extractNames limits (front ++ back)
      = (extractNames limits front).followedBy (extractNames limits back)) ∧
    ∀ lines other : List Text, lines.Perm other →
      (extractNames limits lines).nodes.Perm (extractNames limits other).nodes ∧
      (extractNames limits lines).references.Perm (extractNames limits other).references ∧
      (flagged limits lines).Perm (flagged limits other) := by
  refine ⟨fun lines => ?_, extractNames_append limits, fun lines other h =>
    ⟨nodes_perm h, references_perm h, flagged_perm h⟩⟩
  rw [extractNames_eq]
  exact ⟨firstMentions_eraseDups _, firstMentions_eraseDups _⟩

/-- Lines of which two refer to misspelt names, one of them close to two nodes. -/
def shuffledLines : List Text :=
  ["Step-->Stpe".toList, "%% Stpe-->Far".toList, "Stop[x]-->Sept".toList, "Far-->Step".toList]

/-- Read backwards the lines have the same names, and the same two references are reported, one
of them for another node. -/
theorem extractNames_linewise_shuffled :
    shuffledLines.Perm shuffledLines.reverse ∧
      (extractNames {} shuffledLines).nodes.Perm
        (extractNames {} shuffledLines.reverse).nodes ∧
      (flagged {} shuffledLines).Perm (flagged {} shuffledLines.reverse) ∧
      (checkTypos {} shuffledLines (extractNames {} shuffledLines)).map
          (fun issue => (issue.reference?, issue.suggestion))
        = [(some "Stpe".toList, some "Step".toList), (some "Sept".toList, some "Step".toList)] ∧
      (checkTypos {} shuffledLines.reverse (extractNames {} shuffledLines.reverse)).map
          (fun issue => (issue.reference?, issue.suggestion))
        = [(some "Sept".toList, some "Step".toList), (some "Stpe".toList, some "Stop".toList)] := by
  have hperm : shuffledLines.Perm shuffledLines.reverse := (List.reverse_perm _).symm
  obtain ⟨_, _, hreordered⟩ := extractNames_linewise {}
  obtain ⟨hnodes, _, hflagged⟩ := hreordered _ _ hperm
  exact ⟨hperm, hnodes, hflagged, by decide, by decide⟩

end Flowchart
