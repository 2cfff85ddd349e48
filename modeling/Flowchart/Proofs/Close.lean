import Flowchart.Proofs.Distance
import Flowchart.Proofs.LowerCase
import Flowchart.Proofs.Typo

/-!
# Close names

Before the distance of a reference from a node is computed, their lengths are compared.
An edit changes the length of a list by one at most, so the distance is never less than
the difference of the lengths; and in ASCII, of which all names are, the lower case of
a text is as long as the text.  So the lengths rule out nothing that the distance would
allow, unless the limit of their difference is the smaller one.

Main statement: `isProbableTypo_distance`.
-/

namespace Flowchart

/-! ## Distance and length -/

section Length

variable {α : Type} {n : Nat} {a b : List α}

/-- An edit takes one element away at most. -/
theorem Edit.length_le (h : Edit a b) : a.length ≤ b.length + 1 := by
  cases h with
  | insert front x back => simp only [List.length_append, List.length_cons]; omega
  | delete front x back => simp only [List.length_append, List.length_cons]; omega
  | substitute front x y back => simp only [List.length_append, List.length_cons]; omega

/-- Edits take as many elements away as they are, at most. -/
theorem Edits.length_le (h : Edits n a b) : a.length ≤ b.length + n := by
  induction h with
  | nil a => exact Nat.le_refl _
  | cons hedit _ ih =>
      have hstep := hedit.length_le
      omega

variable [DecidableEq α] (a b)

/-- The difference of the lengths is no more than the distance. -/
theorem natAbs_length_le_editDistance :
    ((a.length : Int) - b.length).natAbs ≤ editDistance a b := by
  have hedits := edits_editDistance a b
  have hless := hedits.length_le
  have hmore := hedits.symm.length_le
  omega

/-- Lists are as far from each other in both directions. -/
theorem editDistance_comm : editDistance a b = editDistance b a := by
  have hthere := (edits_editDistance b a).symm.editDistance_le
  have hback := (edits_editDistance a b).symm.editDistance_le
  exact Nat.le_antisymm hthere hback

end Length

/-! ## Names of a document -/

/-- What a line defines are names. -/
theorem isName_of_mem_lineDefinitions {line id : Text} (h : id ∈ lineDefinitions line) :
    IsName id := by
  unfold lineDefinitions at h
  split at h
  · obtain ⟨stretch, _, hid⟩ := List.mem_flatMap.mp h
    obtain ⟨name, hname, rfl⟩ := List.mem_map.mp hid
    rcases List.mem_append.mp hname with hstanding | hshaped
    · exact isName_of_mem_occurrences (List.mem_filter.mp hstanding).1
    · have hfound := (List.mem_filter.mp hshaped).1
      exact isName_of_mem_occurrences (List.mem_filter.mp hfound).1
  · cases h

/-- The nodes and the references of a document are names. -/
theorem isName_of_mem_extractNames {limits : Limits} {lines : List Text} {id : Text}
    (h : id ∈ (extractNames limits lines).nodes ∨ id ∈ (extractNames limits lines).references) :
    IsName id := by
  rcases h with hnode | hreference
  · rw [extractNames_eq] at hnode
    obtain ⟨line, _, hdefined⟩ := List.mem_flatMap.mp (List.mem_eraseDups.mp hnode)
    exact isName_of_mem_lineDefinitions hdefined
  · obtain ⟨line, _, _, hmem⟩ := exists_line_of_mem_references hreference
    exact (of_mem_references hmem).1

/-! ## The comparison of lengths -/

/-- A name may be a misspelling of another as the other of it. -/
theorem isProbableTypo_comm (limits : Limits) (id node : Text) :
    isProbableTypo limits id node = isProbableTypo limits node id := by
  have hlength : ((id.length : Int) - node.length).natAbs
      = ((node.length : Int) - id.length).natAbs := by omega
  rw [isProbableTypo, isProbableTypo, hlength, editDistance_comm]

/-- **The distance alone decides whether names are close.** Where the limit of the distance is
no more than that of the difference of the lengths, two texts of ASCII are close exactly if the
distance of their lower cases is within its limit, whichever is the reference; and all nodes and
references are of ASCII. -/
theorem isProbableTypo_distance (limits : Limits)
    (hlimits : limits.typoMaxDistance ≤ limits.typoMaxLengthDelta) :
    (∀ id node, InAscii id → InAscii node →
      (isProbableTypo limits id node = true
        ↔ (editDistance (lower id) (lower node) : Int) ≤ limits.typoMaxDistance) ∧
      isProbableTypo limits id node = isProbableTypo limits node id) ∧
    ∀ lines id, id ∈ (extractNames limits lines).nodes ∨
      id ∈ (extractNames limits lines).references → InAscii id := by
  refine ⟨fun id node hid hnode => ⟨?_, isProbableTypo_comm limits id node⟩,
    fun lines id hmem => (isName_of_mem_extractNames hmem).inAscii⟩
  have hlength := natAbs_length_le_editDistance (lower id) (lower node)
  rw [hid.length_lower, hnode.length_lower] at hlength
  rw [isProbableTypo_iff]
  constructor
  · intro hclose
    exact hclose.2
  · intro hdistance
    refine ⟨?_, hdistance⟩
    omega

/-- Without a smaller limit of the difference of the lengths a pair would be close. -/
example :
    isProbableTypo { typoMaxLengthDelta := 1 } "Step".toList "St".toList = false ∧
      editDistance (lower "Step".toList) (lower "St".toList) = 2 := by
  decide

/-- With the limits that are set by default, two letters more are close in both directions, and
two letters more and another one are not. -/
theorem isProbableTypo_distance_defaults :
    ({} : Limits).typoMaxDistance ≤ ({} : Limits).typoMaxLengthDelta ∧
      InAscii "STEP:1-a".toList ∧ InAscii "step:1".toList ∧ InAscii "stop:1".toList ∧
      isProbableTypo {} "STEP:1-a".toList "step:1".toList = true ∧
      isProbableTypo {} "step:1".toList "STEP:1-a".toList = true ∧
      isProbableTypo {} "STEP:1-a".toList "stop:1".toList = false := by
  have hlimits : ({} : Limits).typoMaxDistance ≤ ({} : Limits).typoMaxLengthDelta := by decide
  have hlong : InAscii "STEP:1-a".toList := forall_mem_of_all rfl
  have hshort : InAscii "step:1".toList := forall_mem_of_all rfl
  have hother : InAscii "stop:1".toList := forall_mem_of_all rfl
  have hdecided := (isProbableTypo_distance {} hlimits).1
  obtain ⟨hclose, hsame⟩ := hdecided _ _ hlong hshort
  have hnear := hclose.mpr (by decide)
  have hfar := mt (hdecided _ _ hlong hother).1.mp (by decide)
  exact ⟨hlimits, hlong, hshort, hother, hnear, hsame ▸ hnear, eq_false_of_ne_true hfar⟩

end Flowchart
