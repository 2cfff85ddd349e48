import Flowchart.Distance
import Mathlib.Order.Bounds.Defs

/-!
# The least number of edits

An edit inserts one element into a list, deletes one, or exchanges one for another.
The cheapest way to go through two lists from their fronts costs no more than any
sequence of edits that turns one into the other, since a single edit changes that
cost by one at most; and it is itself such a sequence.  The rows of the edit
distance hold this cost for the front parts of the two lists, read from their ends.

Main statement: `editDistance_least`.
-/

namespace Flowchart

variable {α : Type}

/-! ## Edits -/

/-- One element of a list is inserted, deleted, or exchanged for another. -/
inductive Edit : List α → List α → Prop
  /-- An element is inserted. -/
  | insert (front : List α) (x : α) (back : List α) : Edit (front ++ back) (front ++ x :: back)
  /-- An element is deleted. -/
  | delete (front : List α) (x : α) (back : List α) : Edit (front ++ x :: back) (front ++ back)
  /-- An element is exchanged for another. -/
  | substitute (front : List α) (x y : α) (back : List α) :
      Edit (front ++ x :: back) (front ++ y :: back)

/-- As many edits, one after the other, turn the first list into the second. -/
inductive Edits : Nat → List α → List α → Prop
  /-- No edit. -/
  | nil (a : List α) : Edits 0 a a
  /-- One edit, and then the others. -/
  | cons {n : Nat} {a b c : List α} : Edit a b → Edits n b c → Edits (n + 1) a c

/-- An edit can be undone by an edit. -/
theorem Edit.symm {a b : List α} (h : Edit a b) : Edit b a := by
  cases h with
  | insert front x back => exact .delete front x back
  | delete front x back => exact .insert front x back
  | substitute front x y back => exact .substitute front y x back

/-- An edit is one behind another element too. -/
theorem Edit.append_left {a b : List α} (h : Edit a b) (x : α) : Edit (x :: a) (x :: b) := by
  cases h with
  | insert front y back => exact .insert (x :: front) y back
  | delete front y back => exact .delete (x :: front) y back
  | substitute front y z back => exact .substitute (x :: front) y z back

/-- An edit is one of the lists read from their ends. -/
theorem Edit.reverse {a b : List α} (h : Edit a b) : Edit a.reverse b.reverse := by
  cases h with
  | insert front x back =>
      simpa using Edit.insert back.reverse x front.reverse
  | delete front x back =>
      simpa using Edit.delete back.reverse x front.reverse
  | substitute front x y back =>
      simpa using Edit.substitute back.reverse x y front.reverse

namespace Edits

variable {m n : Nat} {a b c : List α}

/-- An edit is a sequence of one. -/
theorem single (h : Edit a b) : Edits 1 a b :=
  .cons h (.nil b)

/-- Two sequences of edits follow each other. -/
theorem trans (h : Edits m a b) (hrest : Edits n b c) : Edits (m + n) a c := by
  induction h with
  | nil a => rwa [Nat.zero_add]
  | cons hedit _ ih =>
      rw [Nat.add_right_comm]
      exact .cons hedit (ih hrest)

/-- A sequence of edits can be undone by as many. -/
theorem symm (h : Edits n a b) : Edits n b a := by
  induction h with
  | nil a => exact .nil a
  | cons hedit _ ih => exact ih.trans (single hedit.symm)

/-- A sequence of edits is one behind another element too. -/
theorem append_left (h : Edits n a b) (x : α) : Edits n (x :: a) (x :: b) := by
  induction h with
  | nil a => exact .nil (x :: a)
  | cons hedit _ ih => exact .cons (hedit.append_left x) ih

/-- A sequence of edits is one of the lists read from their ends. -/
theorem reverse (h : Edits n a b) : Edits n a.reverse b.reverse := by
  induction h with
  | nil a => exact .nil a.reverse
  | cons hedit _ ih => exact .cons hedit.reverse ih

/-- The shorter of two sequences of edits. -/
theorem min (h : Edits m a b) (hother : Edits n a b) : Edits (min m n) a b := by
  rcases Nat.le_total m n with hle | hle
  · rwa [Nat.min_eq_left hle]
  · rwa [Nat.min_eq_right hle]

/-- Without edits nothing changes. -/
theorem eq_of_zero (h : Edits 0 a b) : a = b := by
  cases h
  rfl

end Edits

/-! ## The cost of an alignment -/

variable [DecidableEq α]

/-- The least cost of going through two lists from their fronts: in each step an element of
the first is deleted, one of the second inserted, or the two are set against each other. -/
def alignmentCost : List α → List α → Nat
  | [], b => b.length
  | x :: a, [] => (x :: a).length
  | x :: a, y :: b =>
    min (min (alignmentCost a (y :: b) + 1) (alignmentCost (x :: a) b + 1))
      (alignmentCost a b + if x = y then 0 else 1)
  termination_by a b => a.length + b.length

section Cost

variable (x y : α) (a b : List α)

/-- From the empty list each element is inserted. -/
theorem alignmentCost_nil_left : alignmentCost [] b = b.length := by
  rw [alignmentCost]

/-- To the empty list each element is deleted. -/
theorem alignmentCost_nil_right : alignmentCost a [] = a.length := by
  cases a <;> rw [alignmentCost]

/-- The cheapest of three ways goes on from the first two elements. -/
theorem alignmentCost_cons_cons :
    alignmentCost (x :: a) (y :: b)
      = min (min (alignmentCost a (y :: b) + 1) (alignmentCost (x :: a) b + 1))
          (alignmentCost a b + if x = y then 0 else 1) := by
  rw [alignmentCost]

/-- A list is gone through beside itself at no cost. -/
theorem alignmentCost_self : alignmentCost a a = 0 := by
  induction a with
  | nil => exact alignmentCost_nil_left []
  | cons x a ih =>
      rw [alignmentCost_cons_cons, ih, if_pos rfl]
      exact Nat.min_zero _

/-- One more element of the second list costs one insertion at most. -/
theorem alignmentCost_cons_right_le : alignmentCost a (y :: b) ≤ alignmentCost a b + 1 := by
  cases a with
  | nil => simp [alignmentCost_nil_left]
  | cons x a =>
      rw [alignmentCost_cons_cons]
      omega

/-- One more element of the first list costs one deletion at most. -/
theorem alignmentCost_cons_left_le : alignmentCost (x :: a) b ≤ alignmentCost a b + 1 := by
  cases b with
  | nil => simp [alignmentCost_nil_right]
  | cons y b =>
      rw [alignmentCost_cons_cons]
      omega

/-- One element less of the first list costs one insertion at most. -/
theorem alignmentCost_le_cons_left : alignmentCost a b ≤ alignmentCost (x :: a) b + 1 := by
  induction b with
  | nil =>
      rw [alignmentCost_nil_right, alignmentCost_nil_right, List.length_cons]
      omega
  | cons y b ih =>
      have hinsert := alignmentCost_cons_right_le y a b
      rw [alignmentCost_cons_cons]
      omega

/-- Another first element costs one substitution at most. -/
theorem alignmentCost_substitute_le :
    alignmentCost (x :: a) b ≤ alignmentCost (y :: a) b + 1 := by
  induction b with
  | nil => simp [alignmentCost_nil_right]
  | cons z b ih =>
      have hcost : (if x = z then 0 else 1) ≤ 1 := by split <;> omega
      rw [alignmentCost_cons_cons, alignmentCost_cons_cons]
      omega

end Cost

/-- A bound on what a change of a list costs also holds behind one more element.  The induction is
on the list that stays the same; steps along the others are left to the bound. -/
theorem alignmentCost_cons_le {a b : List α} (h : ∀ c, alignmentCost a c ≤ alignmentCost b c + 1)
    (x : α) (c : List α) : alignmentCost (x :: a) c ≤ alignmentCost (x :: b) c + 1 := by
  induction c with
  | nil =>
      have hlength := h []
      rw [alignmentCost_nil_right, alignmentCost_nil_right] at hlength ⊢
      rw [List.length_cons, List.length_cons]
      omega
  | cons y c ih =>
      have hdelete := h (y :: c)
      have hrest := h c
      rw [alignmentCost_cons_cons, alignmentCost_cons_cons]
      omega

/-- What makes a difference of one at most makes no more behind the same front. -/
theorem alignmentCost_append_le {a b : List α}
    (h : ∀ c, alignmentCost a c ≤ alignmentCost b c + 1) (front c : List α) :
    alignmentCost (front ++ a) c ≤ alignmentCost (front ++ b) c + 1 := by
  induction front generalizing c with
  | nil => exact h c
  | cons x front ih => exact alignmentCost_cons_le ih x c

/-- An edit saves at most one. -/
theorem Edit.alignmentCost_le {a b : List α} (h : Edit a b) (c : List α) :
    alignmentCost a c ≤ alignmentCost b c + 1 := by
  cases h with
  | insert front x back =>
      exact alignmentCost_append_le (alignmentCost_le_cons_left x back) front c
  | delete front x back =>
      exact alignmentCost_append_le (alignmentCost_cons_left_le x back) front c
  | substitute front x y back =>
      exact alignmentCost_append_le (alignmentCost_substitute_le x y back) front c

/-- No sequence of edits is shorter than the cost. -/
theorem Edits.alignmentCost_le {n : Nat} {a b : List α} (h : Edits n a b) :
    alignmentCost a b ≤ n := by
  induction h with
  | nil a => exact Nat.le_of_eq (alignmentCost_self a)
  | @cons n a b c hedit _ ih =>
      have hstep := hedit.alignmentCost_le c
      omega

/-- There is a sequence of as many edits as the cost. -/
theorem edits_alignmentCost (a b : List α) : Edits (alignmentCost a b) a b := by
  fun_induction alignmentCost a b with
  | case1 b =>
      induction b with
      | nil => exact .nil []
      | cons y b ih => exact ih.trans (.single (.insert [] y b))
  | case2 x a =>
      induction a generalizing x with
      | nil => exact .single (.delete [] x [])
      | cons y a ih => exact .cons (.delete [] x (y :: a)) (ih y)
  | case3 x a y b ihDelete ihInsert ihBoth =>
      have hdelete := Edits.cons (.delete [] x a) ihDelete
      have hinsert := ihInsert.trans (.single (.insert [] y b))
      have hboth : Edits (alignmentCost a b + if x = y then 0 else 1) (x :: a) (y :: b) := by
        split
        · rename_i hsame
          rw [hsame]
          exact ihBoth.append_left y
        · exact (ihBoth.append_left x).trans (.single (.substitute [] x y b))
      exact (hdelete.min hinsert).min hboth

/-! ## The rows of the distance -/

/-- The costs behind the entry of the front part `read`, as a row goes on with them: the front
parts get longer by one column each, and are read from their ends. -/
def costsBehind (a : List α) : (read : List α) → (columns : List α) → List Nat
  | _, [] => []
  | read, y :: columns => alignmentCost a (y :: read) :: costsBehind a (y :: read) columns

/-- The row of a front part of the first list, read from its end. -/
def costRow (a columns : List α) : List Nat :=
  alignmentCost a [] :: costsBehind a [] columns

/-- From the row of a front part comes that of the front part with one element more. -/
theorem distanceRow_eq (x : α) (a read columns : List α) :
    distanceRow x (alignmentCost (x :: a) read) (alignmentCost a read)
        (costsBehind a read columns) columns
      = costsBehind (x :: a) read columns := by
  induction columns generalizing read with
  | nil => rfl
  | cons y columns ih =>
      rw [costsBehind, costsBehind, distanceRow, ← alignmentCost_cons_cons, ih]

/-- One more element of the first list takes a row to the next. -/
theorem nextDistances_costRow (x : α) (a columns : List α) :
    nextDistances columns (costRow a columns) x = costRow (x :: a) columns := by
  have hfirst : alignmentCost a [] + 1 = alignmentCost (x :: a) [] := by
    rw [alignmentCost_nil_right, alignmentCost_nil_right, List.length_cons]
  rw [costRow, nextDistances, hfirst, distanceRow_eq, costRow]

/-- The rows follow each other along the first list. -/
theorem foldl_nextDistances (a read columns : List α) :
    a.foldl (nextDistances columns) (costRow read columns)
      = costRow (a.reverse ++ read) columns := by
  induction a generalizing read with
  | nil => rfl
  | cons x a ih =>
      rw [List.foldl_cons, nextDistances_costRow, ih, List.reverse_cons, List.append_assoc,
        List.singleton_append]

/-- The row of the empty front part counts the columns. -/
theorem costsBehind_nil (read columns : List α) :
    costsBehind [] read columns = List.range' (read.length + 1) columns.length := by
  induction columns generalizing read with
  | nil => rfl
  | cons y columns ih =>
      rw [costsBehind, ih, alignmentCost_nil_left, List.length_cons, List.length_cons,
        List.range'_succ]

/-- The first row counts the columns. -/
theorem costRow_nil (columns : List α) :
    costRow [] columns = List.range (columns.length + 1) := by
  rw [costRow, costsBehind_nil, alignmentCost_nil_left, List.range_eq_range', List.range'_succ]
  rfl

/-- The last entry of a row is the cost of all columns. -/
theorem getLastD_costsBehind (a read columns : List α) (default : Nat) :
    (alignmentCost a read :: costsBehind a read columns).getLastD default
      = alignmentCost a (columns.reverse ++ read) := by
  induction columns generalizing read with
  | nil => rfl
  | cons y columns ih =>
      rw [costsBehind, List.reverse_cons, List.append_assoc, List.singleton_append, ← ih]
      rfl

/-- The edit distance is the cost of the two lists, read from their ends; that of equal lists and of
empty ones is answered before any row is made. -/
theorem editDistance_eq (a b : List α) :
    editDistance a b = alignmentCost a.reverse b.reverse := by
  unfold editDistance
  split
  · rename_i hsame
    rw [hsame, alignmentCost_self]
  · split
    · rename_i hempty
      rw [hempty, List.reverse_nil, alignmentCost_nil_left, List.length_reverse]
    · split
      · rename_i hempty
        rw [hempty, List.reverse_nil, alignmentCost_nil_right, List.length_reverse]
      · rw [← costRow_nil, foldl_nextDistances, List.append_nil, costRow, getLastD_costsBehind,
          List.append_nil]

/-! ## The edit distance -/

/-- As many edits as the distance turn one list into the other. -/
theorem edits_editDistance (a b : List α) : Edits (editDistance a b) a b := by
  have hreversed := (edits_alignmentCost a.reverse b.reverse).reverse
  rwa [List.reverse_reverse, List.reverse_reverse, ← editDistance_eq] at hreversed

/-- Fewer edits do not. -/
theorem Edits.editDistance_le {n : Nat} {a b : List α} (h : Edits n a b) :
    editDistance a b ≤ n := by
  rw [editDistance_eq]
  exact h.reverse.alignmentCost_le

/-- **The edit distance of two lists is the least number of edits that turn one into the
other.** So it is zero for equal lists only, it is the same in both directions, and no way
round through a third list is shorter. -/
theorem editDistance_least (a b : List α) :
    IsLeast {n | Edits n a b} (editDistance a b) ∧
      (editDistance a b = 0 ↔ a = b) ∧
      editDistance b a = editDistance a b ∧
      ∀ c, editDistance a c ≤ editDistance a b + editDistance b c := by
  refine ⟨⟨edits_editDistance a b, fun n hedits => hedits.editDistance_le⟩, ?_, ?_, ?_⟩
  · constructor
    · intro hzero
      have hedits := edits_editDistance a b
      rw [hzero] at hedits
      exact hedits.eq_of_zero
    · rintro rfl
      exact Nat.le_zero.mp (Edits.nil a).editDistance_le
  · exact Nat.le_antisymm (edits_editDistance a b).symm.editDistance_le
      (edits_editDistance b a).symm.editDistance_le
  · intro c
    exact ((edits_editDistance a b).trans (edits_editDistance b c)).editDistance_le

/-- Two letters that change places are two edits. -/
example : editDistance "Stpe".toList "Step".toList = 2 := by decide

end Flowchart
