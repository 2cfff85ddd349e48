import Flowchart.Check.Typo
import Flowchart.Proofs.Document
import Flowchart.Proofs.Text

/-!
# The place of a name

A name is looked for line by line, comments apart, and is found where it first
stands in the first line that holds it.  So it is found in the front part of a
document if it stands there, whatever follows.

Main statement: `firstPlace_of_locate?`.
-/

namespace Flowchart

/-- A name is looked for in the lines in front first. -/
theorem locateFrom?_append (name : Text) (lines more : List NumberedLine) :
    locateFrom? name (lines ++ more) = (locateFrom? name lines).or (locateFrom? name more) := by
  induction lines with
  | nil => rfl
  | cons line lines ih =>
      simp only [List.cons_append, locateFrom?]
      split
      · exact ih
      · split
        · rfl
        · exact ih

/-- A name is found if it stands in a line that is no comment. -/
theorem locateFrom?_ne_none {name : Text} {lines : List NumberedLine} {line : NumberedLine}
    (hline : line ∈ lines) (hcomment : isComment line.text = false)
    (hwithin : name <:+: line.text) : locateFrom? name lines ≠ none := by
  induction lines with
  | nil => cases hline
  | cons other lines ih =>
      unfold locateFrom?
      rcases List.mem_cons.mp hline with rfl | hmem
      · have hplace := contains_iff_infix.mpr hwithin
        unfold contains at hplace
        obtain ⟨offset, hoffset⟩ := Option.isSome_iff_exists.mp hplace
        simp [hcomment, hoffset]
      · split
        · exact ih hmem
        · split
          · exact nofun
          · exact ih hmem

/-- A name is not found where it stands in no line. -/
theorem locateFrom?_eq_none {name : Text} {lines : List NumberedLine}
    (h : ∀ line ∈ lines, ¬ name <:+: line.text) : locateFrom? name lines = none := by
  induction lines with
  | nil => rfl
  | cons line lines ih =>
      have hnone : indexOf? name line.text = none := by
        have hnot := mt contains_iff_infix.mp (h line List.mem_cons_self)
        simpa [contains] using hnot
      unfold locateFrom?
      rw [hnone]
      have hrest := ih fun other hother => h other (List.mem_cons_of_mem line hother)
      split <;> exact hrest

/-- The name stands at the column of that line, which is no comment; it stands nowhere before
in the line, and in no line before but in comments. -/
def FirstPlace (name : Text) (lines : List Text) (number column : Nat) : Prop :=
  ∃ (before after : List Text) (line : Text) (offset : Nat), lines = before ++ line :: after ∧
    number = before.length + 1 ∧ column = offset + 1 ∧ isComment line = false ∧
    StandsFirst name line offset ∧ ∀ other ∈ before, isComment other = true ∨ ¬ name <:+: other

/-- A name that stands in no line before stands first where it stands behind that. -/
theorem FirstPlace.cons {name line : Text} {lines : List Text} {number column : Nat}
    (h : FirstPlace name lines number column) (hline : isComment line = true ∨ ¬ name <:+: line) :
    FirstPlace name (line :: lines) (number + 1) column := by
  obtain ⟨before, after, found, offset, rfl, rfl, rfl, hcomment, hstands, hbefore⟩ := h
  exact ⟨line :: before, after, found, offset, rfl, rfl, rfl, hcomment, hstands,
    List.forall_mem_cons.mpr ⟨hline, hbefore⟩⟩

/-- A name is found among lines with the number `start` and the following. -/
theorem firstPlace_of_locateFrom? {name : Text} {lines : List Text} {start number column : Nat}
    (h : locateFrom? name (numberFrom (start + 1) lines) = some (number, column)) :
    ∃ place, number = start + place ∧ FirstPlace name lines place column := by
  induction lines generalizing start with
  | nil => cases h
  | cons line lines ih =>
      have hrest : locateFrom? name (numberFrom (start + 1 + 1) lines) = some (number, column) →
          isComment line = true ∨ ¬ name <:+: line →
          ∃ place, number = start + place ∧ FirstPlace name (line :: lines) place column := by
        intro hfound hline
        obtain ⟨place, rfl, hplace⟩ := ih hfound
        exact ⟨place + 1, by omega, hplace.cons hline⟩
      rw [numberFrom, locateFrom?] at h
      split at h
      · rename_i hcomment
        exact hrest h (Or.inl hcomment)
      · rename_i hcomment
        split at h
        · rename_i offset hoffset
          obtain ⟨rfl, rfl⟩ := Prod.mk.inj (Option.some.inj h)
          exact ⟨1, rfl, [], lines, line, offset, rfl, rfl, rfl, by simpa using hcomment,
            indexOf?_eq_some_iff.mp hoffset, List.forall_mem_nil _⟩
        · rename_i hnone
          refine hrest h (Or.inr fun hwithin => ?_)
          have hcontains := contains_iff_infix.mpr hwithin
          rw [contains, hnone] at hcontains
          cases hcontains

/-- **A name is found where it first stands.** -/
theorem firstPlace_of_locate? {name : Text} {lines : List Text} {number column : Nat}
    (h : locate? name lines = some (number, column)) : FirstPlace name lines number column := by
  obtain ⟨place, hnumber, hplace⟩ := @firstPlace_of_locateFrom? name lines 0 number column h
  rwa [hnumber, Nat.zero_add]

/-- A name is found in a document if it stands in a line that is no comment. -/
theorem locate?_ne_none {name line : Text} {lines : List Text} (hline : line ∈ lines)
    (hcomment : isComment line = false) (hwithin : name <:+: line) :
    locate? name lines ≠ none := by
  rw [← numberFrom_map 1 lines] at hline
  obtain ⟨found, hfound, rfl⟩ := List.mem_map.mp hline
  exact locateFrom?_ne_none hfound hcomment hwithin

end Flowchart
