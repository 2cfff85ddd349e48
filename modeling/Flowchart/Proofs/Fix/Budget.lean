import Flowchart.Check.Direction
import Flowchart.Check.Typo
import Flowchart.Proofs.Balance

/-!
# What there is to fix

The budget of a document counts what fixes can mend: headers without a direction,
blocks that are never closed, and twice each reference that is defined nowhere.
A definition that is added may open a block by its name, and with the factor two
the budget falls all the same.  It only depends on the lines that are looked at,
and on a line only by the names in it, its mark and its direction.
-/

namespace Flowchart

/-- The references that no line defines. -/
def Names.undefined (names : Names) : List Text :=
  names.references.filter fun id => !names.nodes.contains id

/-- What there is to fix in the lines of a document. -/
def budget (limits : Limits) (lines : List Text) : Nat :=
  2 * (extractNames limits lines).undefined.length
    + (checkDirection limits lines).length
    + (imbalanceFrom [] (inspectedLines limits lines)).unclosed.length

/-- Is the line a header that names no direction? -/
def isAstray (line : Text) : Bool :=
  (Header.ofLine? line).any fun header => (Direction.ofName? header.direction).isNone

/-- The names in lines that are looked at. -/
def namesOf (kept : List Text) : Names :=
  ⟨(kept.flatMap lineDefinitions).eraseDups, (kept.flatMap lineReferences).eraseDups⟩

/-- What there is to fix in lines that are looked at. -/
def keptBudget (kept : List Text) : Nat :=
  2 * (namesOf kept).undefined.length + kept.countP isAstray + openBlocks 0 kept

/-- There are as many issues about directions as headers without one. -/
theorem length_filterMap_header (start : Nat) (inspected : Text → Bool) (lines : List Text) :
    (((numberFrom start lines).filter fun line => inspected line.text).filterMap fun line =>
        (Header.ofLine? line.text).bind fun header => header.issue? line.number).length
      = (lines.filter inspected).countP isAstray := by
  induction lines generalizing start with
  | nil => rfl
  | cons line lines ih =>
      rw [numberFrom, List.filter_cons, List.filter_cons]
      split
      · rw [List.filterMap_cons, List.countP_cons, ← ih (start + 1)]
        unfold isAstray
        cases Header.ofLine? line with
        | none => rfl
        | some header =>
            cases hdirection : Direction.ofName? header.direction with
            | none => simp [Header.issue?, hdirection]
            | some direction => simp [Header.issue?, hdirection]
      · exact ih (start + 1)

/-- A document has as many issues about directions as headers without one that are looked at. -/
theorem length_checkDirection (limits : Limits) (lines : List Text) :
    (checkDirection limits lines).length
      = (lines.filter (isInspected limits)).countP isAstray :=
  length_filterMap_header 1 (isInspected limits) lines

/-- The budget is that of the lines that are looked at. -/
theorem budget_eq (limits : Limits) (lines : List Text) :
    budget limits lines = keptBudget (lines.filter (isInspected limits)) := by
  rw [budget, keptBudget, length_checkDirection, length_unclosed_inspected, extractNames_eq,
    namesOf]

/-! ## Exchanging a line -/

/-- The line names nothing and neither opens nor closes a block. -/
structure Idle (line : Text) : Prop where
  /-- It defines no node. -/
  definitions : lineDefinitions line = []
  /-- It refers to no node. -/
  references : lineReferences line = []
  /-- It has no mark. -/
  mark : Mark.ofLine line = .neither

/-- The empty line is idle. -/
theorem idle_nil : Idle [] := ⟨by rfl, by rfl, by rfl⟩

/-- An idle line opens and closes nothing. -/
theorem Idle.openBlocks_cons {line : Text} (h : Idle line) (depth : Nat) (lines : List Text) :
    openBlocks depth (line :: lines) = openBlocks depth lines := by
  rw [Flowchart.openBlocks_cons, h.mark]
  rfl

/-- A line that names nothing does not count for the names. -/
theorem namesOf_insert {line : Text} (hdefinitions : lineDefinitions line = [])
    (hreferences : lineReferences line = []) (front back : List Text) :
    namesOf (front ++ line :: back) = namesOf (front ++ back) := by
  simp [namesOf, List.flatMap_append, hdefinitions, hreferences]

/-- A line that names nothing does not count for the names of a document. -/
theorem extractNames_insert {line : Text} (hdefinitions : lineDefinitions line = [])
    (hreferences : lineReferences line = []) (limits : Limits) (front back : List Text) :
    extractNames limits (front ++ line :: back) = extractNames limits (front ++ back) := by
  rw [extractNames_eq, extractNames_eq, List.filter_append, List.filter_append, List.filter_cons]
  split
  · exact namesOf_insert hdefinitions hreferences _ _
  · rfl

/-- A line that refers to nothing does not count for the references of a document. -/
theorem references_insert {line : Text} (hreferences : lineReferences line = []) (limits : Limits)
    (front back : List Text) :
    (extractNames limits (front ++ line :: back)).references
      = (extractNames limits (front ++ back)).references := by
  rw [extractNames_eq, extractNames_eq, List.filter_append, List.filter_append, List.filter_cons]
  split
  · simp [List.flatMap_append, hreferences]
  · rfl

/-- A definition that was missing makes the list of undefined references shorter. -/
theorem length_undefined_lt {names other : Names} {id : Text}
    (hreferences : other.references = names.references)
    (hnodes : ∀ node ∈ names.nodes, node ∈ other.nodes) (hundefined : id ∈ names.undefined)
    (hdefined : id ∈ other.nodes) : other.undefined.length < names.undefined.length := by
  have hsub : other.undefined
      = names.undefined.filter fun node => !other.nodes.contains node := by
    unfold Names.undefined
    rw [hreferences, List.filter_filter]
    refine List.filter_congr fun node _ => ?_
    by_cases hnode : node ∈ names.nodes
    · simp [hnode, hnodes node hnode]
    · simp [hnode]
  rw [hsub]
  refine List.length_filter_lt_length_iff_exists.mpr ⟨id, hundefined, ?_⟩
  simp [hdefined]

end Flowchart
