import Flowchart.Proofs.Analysis
import Flowchart.Proofs.Balance
import Flowchart.Proofs.Lines
import Flowchart.Proofs.Reference

/-!
# The issues of a text

A text is not analyzed if it is blank, but then its lines have no issues either:
a blank line is no header, has no mark and refers to nothing.  So the issues of
any text are those of its lines, and the checks can be told apart by the kinds of
what they report.

Main statement: `analyze_eq_analyzeLines`.
-/

namespace Flowchart

/-! ## Blank lines -/

namespace Blanks

variable {line : Text}

/-- Nothing is left of blanks that are trimmed. -/
theorem trimStart_eq (h : Blanks line) : trimStart line = [] := by
  have hrest := h.trimStart_append []
  rwa [List.append_nil] at hrest

/-- A blank line is no header. -/
theorem headerOfLine?_eq (h : Blanks line) : Header.ofLine? line = none := by
  unfold Header.ofLine?
  rw [h.trimStart_eq]
  rfl

/-- A blank line neither opens nor closes a block. -/
theorem mark_eq (h : Blanks line) : Mark.ofLine line = .neither := by
  have hopening : blockOpening? line = none := by
    unfold blockOpening?
    rw [h.trimStart_eq]
    rfl
  have hclosing : isBlockClosing line = false := by
    unfold isBlockClosing
    rw [h.trimStart_eq]
    rfl
  simp [Mark.ofLine, hopening, hclosing]

/-- A blank line refers to nothing. -/
theorem lineReferences_eq (h : Blanks line) : lineReferences line = [] := by
  refine List.eq_nil_iff_forall_not_mem.mpr fun id hid => ?_
  obtain ⟨hname, _, hwithin⟩ := of_mem_references hid
  obtain ⟨c, more, hcons⟩ := List.exists_cons_of_ne_nil hname.ne_nil
  have hc : c ∈ id := by
    rw [hcons]
    exact List.mem_cons_self
  have hprepared := mem_of_mem_dropClassTags (hwithin.subset hc)
  have hline := mem_of_mem_maskFrom hprepared
  rw [h.neutral.unquoted.extractLiterals_line] at hline
  have hblank := h c hline
  rw [hname.isBlank_of_mem hc] at hblank
  cases hblank

end Blanks

/-! ## Blank texts -/

/-- There are no issues where all lines are blank. -/
theorem analyzeLines_of_blanks {limits : Limits} {lines : List Text}
    (h : ∀ line ∈ lines, Blanks line) : analyzeLines limits lines = [] := by
  have hblank : ∀ line ∈ inspectedLines limits lines, Blanks line.text := by
    intro line hline
    obtain ⟨front, back, hlines, _⟩ := exists_of_mem_numberFrom (List.mem_filter.mp hline).1
    exact h line.text (by simp [hlines])
  have hdirection : checkDirection limits lines = [] :=
    List.filterMap_eq_nil_iff.mpr fun line hline => by
      rw [(hblank line hline).headerOfLine?_eq]
      rfl
  have hbalance : checkBalance limits lines = [] := by
    have hnone := imbalanceFrom_append_neither (fun line hline => (hblank line hline).mark_eq) [] []
    rw [List.nil_append] at hnone
    unfold checkBalance
    rw [hnone]
    rfl
  have htypos : checkTypos limits lines (extractNames limits lines) = [] := by
    have hnone : (lines.filter (isInspected limits)).flatMap lineReferences = [] :=
      List.flatMap_eq_nil_iff.mpr fun line hline =>
        (h line (List.mem_filter.mp hline).1).lineReferences_eq
    rw [extractNames_eq, hnone]
    rfl
  rw [analyzeLines, hdirection, hbalance, htypos]
  rfl

/-- **The issues of a text are those of its lines**, also where it is blank. -/
theorem analyze_eq_analyzeLines (limits : Limits) (source : Text) :
    analyze limits source = analyzeLines limits (splitLines source) := by
  unfold analyze
  split
  · rename_i hblank
    refine (analyzeLines_of_blanks fun line hline c hc => ?_).symm
    exact List.all_eq_true.mp hblank c ((infix_of_mem_splitLines hline).subset hc)
  · rfl

/-- The issues of joined lines are those of the lines, also where there are none: the text of no
lines has one empty line, which has no issues. -/
theorem analyze_joinLines (limits : Limits) (newline : Newline) {lines : List Text}
    (h : ∀ line ∈ lines, Unbroken line) :
    analyze limits (joinLines newline.text lines) = analyzeLines limits lines := by
  rw [analyze_eq_analyzeLines]
  cases lines with
  | nil =>
      have hone : analyzeLines limits [[]] = [] :=
        analyzeLines_of_blanks (List.forall_mem_singleton.mpr Blanks.nil)
      exact hone.trans (analyzeLines_of_blanks (List.forall_mem_nil _)).symm
  | cons line lines =>
      rw [(joinable_of_unbroken newline (List.cons_ne_nil line lines) h).splitLines_joinLines]

end Flowchart
