/-!
# Edit distance

The distance of two lists is the least number of insertions, deletions and
substitutions of single elements that turn one into the other.  It is computed
row by row: a row holds the distances from one front part of the first list to
all front parts of the second, and only the row before is needed for the next.
-/

namespace Flowchart

variable {α : Type} [DecidableEq α]

/-- Go on with a row behind its entry `left`.  The row before it goes on behind
its entry `diagonal`, with the entries `above`; `a` is the element of this row
and the rest of the second list are the elements of the columns. -/
def distanceRow (a : α) : (left diagonal : Nat) → (above : List Nat) → List α → List Nat
  | left, diagonal, up :: above, b :: columns =>
    let entry := min (min (up + 1) (left + 1)) (diagonal + if a = b then 0 else 1)
    entry :: distanceRow a entry up above columns
  | _, _, _, _ => []

/-- The row that follows a row. -/
def nextDistances (columns : List α) (row : List Nat) (a : α) : List Nat :=
  match row with
  | [] => []
  | first :: above => (first + 1) :: distanceRow a (first + 1) first above columns

/-- The edit distance of two lists. -/
def editDistance (a b : List α) : Nat :=
  if a = b then 0
  else if a = [] then b.length
  else if b = [] then a.length
  else (a.foldl (nextDistances b) (List.range (b.length + 1))).getLastD 0

end Flowchart
