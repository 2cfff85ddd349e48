import Flowchart.Document

/-!
# The names of a document

The numbers of the lines do not matter for the names: these come from the texts
of the lines that are looked at, one after the other.  A name that follows itself
is only counted once, and what a front part of the document adds does not depend
on how often the names behind it are repeated.
-/

namespace Flowchart

/-- Without their numbers the lines are those that were numbered. -/
theorem numberFrom_map (number : Nat) (lines : List Text) :
    (numberFrom number lines).map (·.text) = lines := by
  induction lines generalizing number with
  | nil => rfl
  | cons line lines ih => rw [numberFrom, List.map_cons, ih]

/-- The numbers go on behind the lines in front. -/
theorem numberFrom_append (number : Nat) (lines more : List Text) :
    numberFrom number (lines ++ more)
      = numberFrom number lines ++ numberFrom (number + lines.length) more := by
  induction lines generalizing number with
  | nil => rfl
  | cons line lines ih =>
      have hnumber : number + 1 + lines.length = number + (lines.length + 1) := by omega
      rw [List.cons_append, numberFrom, ih, hnumber]
      rfl

/-- To drop lines by their texts it makes no difference whether they are numbered. -/
theorem numberFrom_filter (inspected : Text → Bool) (number : Nat) (lines : List Text) :
    ((numberFrom number lines).filter fun line => inspected line.text).map (·.text)
      = lines.filter inspected := by
  induction lines generalizing number with
  | nil => rfl
  | cons line lines ih =>
      rw [numberFrom, List.filter_cons, List.filter_cons]
      split
      · rw [List.map_cons, ih]
      · exact ih (number + 1)

/-- A numbered line stands in the document, behind as many lines as its number says. -/
theorem exists_of_mem_numberFrom {number : Nat} {lines : List Text} {line : NumberedLine}
    (h : line ∈ numberFrom number lines) :
    ∃ front back, lines = front ++ line.text :: back ∧ line.number = number + front.length := by
  induction lines generalizing number with
  | nil => cases h
  | cons text lines ih =>
      rcases List.mem_cons.mp h with rfl | hmem
      · exact ⟨[], lines, rfl, rfl⟩
      · obtain ⟨front, back, hlines, hnumber⟩ := ih hmem
        refine ⟨text :: front, back, by rw [hlines]; rfl, ?_⟩
        rw [List.length_cons]
        omega

/-- A line that is looked at stands in the document behind as many lines as its number says. -/
theorem exists_of_mem_inspected {limits : Limits} {lines : List Text} {line : NumberedLine}
    (h : line ∈ inspectedLines limits lines) :
    isInspected limits line.text = true ∧
      ∃ front back, lines = front ++ line.text :: back ∧ line.number = 1 + front.length := by
  obtain ⟨hmem, hkept⟩ := List.mem_filter.mp h
  exact ⟨hkept, exists_of_mem_numberFrom hmem⟩

/-- The lines that are looked at, when the first of all has the number. -/
def inspectedFrom (limits : Limits) (number : Nat) (lines : List Text) : List NumberedLine :=
  (numberFrom number lines).filter fun line => isInspected limits line.text

/-- The lines behind others are looked at with their own numbers. -/
theorem inspectedLines_append (limits : Limits) (front back : List Text) :
    inspectedLines limits (front ++ back)
      = inspectedLines limits front ++ inspectedFrom limits (1 + front.length) back := by
  rw [inspectedLines, numbered, numberFrom_append, List.filter_append]
  rfl

/-- The first line is looked at by itself. -/
theorem inspectedFrom_cons (limits : Limits) (number : Nat) (line : Text) (lines : List Text) :
    inspectedFrom limits number (line :: lines)
      = inspectedFrom limits number [line] ++ inspectedFrom limits (number + 1) lines := by
  rw [inspectedFrom, numberFrom, List.filter_cons, inspectedFrom, numberFrom, List.filter_cons]
  split <;> rfl

/-- Lines that begin one number further on have numbers one higher. -/
theorem numberFrom_succ (number : Nat) (lines : List Text) :
    numberFrom (number + 1) lines
      = (numberFrom number lines).map fun line => ⟨line.number + 1, line.text⟩ := by
  induction lines generalizing number with
  | nil => rfl
  | cons line lines ih => rw [numberFrom, ih, numberFrom, List.map_cons]

/-- With a number more for the first line all have one more. -/
theorem inspectedFrom_succ (limits : Limits) (number : Nat) (lines : List Text) :
    inspectedFrom limits (number + 1) lines
      = (inspectedFrom limits number lines).map fun line => ⟨line.number + 1, line.text⟩ := by
  rw [inspectedFrom, numberFrom_succ, List.filter_map]
  rfl

/-- A single line that is looked at is left with its number. -/
theorem inspectedFrom_of_inspected {limits : Limits} {line : Text}
    (h : isInspected limits line = true) (number : Nat) :
    inspectedFrom limits number [line] = [⟨number, line⟩] := by
  simp [inspectedFrom, numberFrom, h]

/-- A line that is looked at has the number of its place. -/
theorem number_of_mem_inspectedFrom {limits : Limits} {number : Nat} {lines : List Text}
    {found : NumberedLine} (h : found ∈ inspectedFrom limits number lines) :
    number ≤ found.number ∧ found.number < number + lines.length := by
  obtain ⟨front, back, rfl, hnumber⟩ := exists_of_mem_numberFrom (List.mem_filter.mp h).1
  rw [List.length_append, List.length_cons]
  omega

/-- The lines that are looked at are among the lines. -/
theorem text_mem_of_mem_inspectedFrom {limits : Limits} {number : Nat} {lines : List Text}
    {found : NumberedLine} (h : found ∈ inspectedFrom limits number lines) :
    found.text ∈ lines := by
  obtain ⟨front, back, rfl, _⟩ := exists_of_mem_numberFrom (List.mem_filter.mp h).1
  exact List.mem_append_right front List.mem_cons_self

/-- Of a single line none but itself is looked at. -/
theorem text_of_mem_inspectedFrom {limits : Limits} {number : Nat} {line : Text}
    {found : NumberedLine} (h : found ∈ inspectedFrom limits number [line]) :
    found.text = line :=
  List.mem_singleton.mp (text_mem_of_mem_inspectedFrom h)

/-- The names come from the texts of the lines that are looked at. -/
theorem extractNames_eq (limits : Limits) (lines : List Text) :
    extractNames limits lines
      = ⟨((lines.filter (isInspected limits)).flatMap lineDefinitions).eraseDups,
         ((lines.filter (isInspected limits)).flatMap lineReferences).eraseDups⟩ := by
  unfold extractNames inspectedLines numbered
  rw [numberFrom_filter]

/-- Lines that are looked at, are made of names and are prepared alike have the same names. -/
theorem extractNames_of_prepareLine_eq {limits : Limits} {line other : Text}
    (hinspected : isInspected limits line = true) (hother : isInspected limits other = true)
    (hnodes : namesNodes line = true) (hotherNodes : namesNodes other = true)
    (h : prepareLine line = prepareLine other) :
    extractNames limits [line] = extractNames limits [other] := by
  simp [extractNames_eq, lineDefinitions, lineReferences, hinspected, hother, hnodes, hotherNodes,
    h]

/-! ## Repeated names -/

section Repeated

variable {α : Type} [BEq α] [LawfulBEq α]

/-- Repetitions are dropped from the kept elements as from all. -/
theorem eraseDups_filter (p : α → Bool) (list : List α) :
    (list.filter p).eraseDups = list.eraseDups.filter p := by
  induction hlength : list.length using Nat.strongRecOn generalizing list with
  | ind length ih =>
      cases list with
      | nil => rfl
      | cons a list =>
          have hshort : (list.filter fun b => !b == a).length < length := by
            have hle := List.length_filter_le (fun b => !b == a) list
            rw [List.length_cons] at hlength
            omega
          have hrest := ih _ hshort _ rfl
          rw [List.eraseDups_cons, List.filter_cons, List.filter_cons]
          by_cases hkept : p a = true
          · rw [if_pos hkept, if_pos hkept, List.eraseDups_cons, ← hrest, List.filter_filter,
              List.filter_filter]
            simp only [Bool.and_comm]
          · rw [if_neg hkept, if_neg hkept, ← hrest, List.filter_filter]
            congr 1
            refine List.filter_congr fun b _ => ?_
            by_cases hb : b = a
            · simp [hb, hkept]
            · simp [hb]

/-- No repetition is left. -/
theorem nodup_eraseDups (list : List α) : list.eraseDups.Nodup := by
  induction hlength : list.length using Nat.strongRecOn generalizing list with
  | ind length ih =>
      cases list with
      | nil => exact List.nodup_nil
      | cons a list =>
          have hshort : (list.filter fun b => !b == a).length < length := by
            have hle := List.length_filter_le (fun b => !b == a) list
            rw [List.length_cons] at hlength
            omega
          rw [List.eraseDups_cons, List.nodup_cons]
          exact ⟨by simp [List.mem_eraseDups], ih _ hshort _ rfl⟩

/-- A new element comes in among the others, and these stay in their order. -/
theorem exists_eraseDups_insert {a : α} {front back : List α} (h : a ∉ front ++ back) :
    ∃ before behind, (front ++ back).eraseDups = before ++ behind ∧
      (front ++ a :: back).eraseDups = before ++ a :: behind := by
  obtain ⟨hfront, hback⟩ := not_or.mp (mt List.mem_append.mpr h)
  refine ⟨front.eraseDups, (back.removeAll front).eraseDups, List.eraseDups_append, ?_⟩
  have hkept : ((back.removeAll front).filter fun b => !b == a) = back.removeAll front := by
    refine List.filter_eq_self.mpr fun b hb => ?_
    have hne : b ≠ a := by
      rintro rfl
      exact hback (List.mem_filter.mp hb).1
    simpa using hne
  have hcons : (a :: back).removeAll front = a :: back.removeAll front := by
    simp [List.removeAll, hfront]
  rw [List.eraseDups_append, hcons, List.eraseDups_cons, hkept]

/-- A front part adds the same in front of lists with the same elements. -/
theorem eraseDups_append_congr (front : List α) {list other : List α}
    (h : list.eraseDups = other.eraseDups) :
    (front ++ list).eraseDups = (front ++ other).eraseDups := by
  rw [List.eraseDups_append, List.eraseDups_append, List.removeAll, List.removeAll,
    eraseDups_filter, eraseDups_filter, h]

/-- An element that follows itself counts once. -/
theorem eraseDups_cons_cons (a : α) (list : List α) :
    (a :: a :: list).eraseDups = (a :: list).eraseDups := by
  simp [List.eraseDups_cons]

end Repeated

end Flowchart
