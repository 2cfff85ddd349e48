import Flowchart.Check.Balance
import Flowchart.Proofs.Document

/-!
# Counting open blocks

How many blocks a document leaves open depends on the marks of its lines alone,
and is counted along them: an opening line adds one, and a closing line takes one
away where there is one.  One block more in front is at most one block more in
the end, and a closing line at the end closes the innermost block that is open
there.
-/

namespace Flowchart

/-- The number of open blocks behind a line. -/
def Mark.after : Mark → (depth : Nat) → Nat
  | opening, depth => depth + 1
  | closing, depth => depth - 1
  | neither, depth => depth

/-- The number of open blocks behind some lines. -/
def openBlocks (depth : Nat) (lines : List Text) : Nat :=
  lines.foldl (fun depth line => (Mark.ofLine line).after depth) depth

/-- The blocks are counted on from what the lines in front leave open. -/
theorem openBlocks_append (depth : Nat) (lines more : List Text) :
    openBlocks depth (lines ++ more) = openBlocks (openBlocks depth lines) more :=
  List.foldl_append

/-- The first line is counted first. -/
theorem openBlocks_cons (depth : Nat) (line : Text) (lines : List Text) :
    openBlocks depth (line :: lines) = openBlocks ((Mark.ofLine line).after depth) lines := rfl

/-- As many blocks are never closed as are open behind the last line. -/
theorem length_unclosed (opened : List Frame) (lines : List NumberedLine) :
    (imbalanceFrom opened lines).unclosed.length
      = openBlocks opened.length (lines.map (·.text)) := by
  induction lines generalizing opened with
  | nil => simp [imbalanceFrom, openBlocks]
  | cons line lines ih =>
      rw [List.map_cons, openBlocks_cons]
      cases hmark : Mark.ofLine line.text with
      | opening => simp [imbalanceFrom, hmark, ih, Mark.after]
      | neither => simp [imbalanceFrom, hmark, ih, Mark.after]
      | closing => cases opened <;> simp [imbalanceFrom, hmark, ih, Mark.after]

/-- The blocks that a document never closes are those open behind the lines that are
looked at. -/
theorem length_unclosed_inspected (limits : Limits) (lines : List Text) :
    (imbalanceFrom [] (inspectedLines limits lines)).unclosed.length
      = openBlocks 0 (lines.filter (isInspected limits)) := by
  rw [length_unclosed, inspectedLines, numbered, numberFrom_filter]
  rfl

/-- One block more in front is at most one more in the end. -/
theorem openBlocks_le_succ {depth other : Nat} (h : other ≤ depth + 1) (lines : List Text) :
    openBlocks other lines ≤ openBlocks depth lines + 1 := by
  induction lines generalizing depth other with
  | nil => exact h
  | cons line lines ih =>
      rw [openBlocks_cons, openBlocks_cons]
      refine ih ?_
      cases Mark.ofLine line <;> simp only [Mark.after] <;> omega

/-- One line more opens at most one block more. -/
theorem openBlocks_insert (depth : Nat) (front : List Text) (line : Text) (back : List Text) :
    openBlocks depth (front ++ line :: back) ≤ openBlocks depth (front ++ back) + 1 := by
  rw [openBlocks_append, openBlocks_append, openBlocks_cons]
  refine openBlocks_le_succ ?_ back
  cases Mark.ofLine line <;> simp only [Mark.after] <;> omega

/-! ## Lines without marks -/

/-- Does the line open or close a block? -/
def isMarked (line : NumberedLine) : Bool :=
  Mark.ofLine line.text ≠ .neither

/-- Lines without marks do not count. -/
theorem imbalanceFrom_filter (opened : List Frame) (lines : List NumberedLine) :
    imbalanceFrom opened (lines.filter isMarked) = imbalanceFrom opened lines := by
  induction lines generalizing opened with
  | nil => rfl
  | cons line lines ih =>
      rw [List.filter_cons]
      cases hmark : Mark.ofLine line.text with
      | opening => simp [isMarked, imbalanceFrom, hmark, ih]
      | neither => simp [isMarked, imbalanceFrom, hmark, ih]
      | closing => cases opened <;> simp [isMarked, imbalanceFrom, hmark, ih]

/-- Where lines without marks stand between others, these alone count. -/
theorem imbalanceFrom_append_append {idle : List NumberedLine}
    (hidle : ∀ line ∈ idle, Mark.ofLine line.text = .neither) (opened : List Frame)
    (front back : List NumberedLine) :
    imbalanceFrom opened (front ++ (idle ++ back)) = imbalanceFrom opened (front ++ back) := by
  have hnone : idle.filter isMarked = [] :=
    List.filter_eq_nil_iff.mpr fun line hline => by simp [isMarked, hidle line hline]
  rw [← imbalanceFrom_filter, ← imbalanceFrom_filter opened (front ++ back), List.filter_append,
    List.filter_append, List.filter_append, hnone, List.nil_append]

/-! ## Lines at the end -/

/-- Lines without marks at the end leave the imbalance as it is. -/
theorem imbalanceFrom_append_neither {idle : List NumberedLine}
    (hidle : ∀ line ∈ idle, Mark.ofLine line.text = .neither) (opened : List Frame)
    (lines : List NumberedLine) :
    imbalanceFrom opened (lines ++ idle) = imbalanceFrom opened lines := by
  have hnone := imbalanceFrom_append_append hidle opened lines []
  rwa [List.append_nil, List.append_nil] at hnone

/-- A closing line at the end closes the innermost of the blocks that are open there. -/
theorem imbalanceFrom_append_closing {closing : NumberedLine}
    (hclosing : Mark.ofLine closing.text = .closing) {opened : List Frame}
    {lines : List NumberedLine} (hopen : (imbalanceFrom opened lines).unclosed ≠ []) :
    imbalanceFrom opened (lines ++ [closing])
      = ⟨(imbalanceFrom opened lines).unexpected,
        (imbalanceFrom opened lines).unclosed.dropLast⟩ := by
  induction lines generalizing opened with
  | nil =>
      cases opened with
      | nil => exact absurd rfl hopen
      | cons frame opened => simp [imbalanceFrom, hclosing]
  | cons line lines ih =>
      rw [List.cons_append]
      cases hmark : Mark.ofLine line.text with
      | opening =>
          simp only [imbalanceFrom, hmark] at hopen ⊢
          exact ih hopen
      | neither =>
          simp only [imbalanceFrom, hmark] at hopen ⊢
          exact ih hopen
      | closing =>
          cases opened with
          | nil =>
              simp only [imbalanceFrom, hmark] at hopen ⊢
              rw [ih hopen]
          | cons frame opened =>
              simp only [imbalanceFrom, hmark] at hopen ⊢
              exact ih hopen

end Flowchart
