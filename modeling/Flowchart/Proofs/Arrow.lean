import Flowchart.Edge.Stretch
import Flowchart.Proofs.Identifier
import Mathlib.Data.List.TakeDrop

/-!
# Where arrows begin

An arrow is a part of the text in which it is found.  It begins with its head or
its stroke, and not with a hyphen behind which neither a hyphen nor a dot stands,
so none begins inside a name.
-/

namespace Flowchart

/-- What stands before an arrow does not matter to it. -/
theorem arrow_blind : arrow.Blind := by
  intro before text
  unfold arrow
  split
  · rfl
  · rfl

/-- No arrow begins with another character than an angle, a hyphen or an equals sign. -/
theorem arrow_eq_none {before : Option Char} {c : Char} {rest : Text}
    (h : c ∉ ['<', '-', '=']) : arrow before (c :: rest) = none := by
  simp only [List.mem_cons, List.not_mem_nil, or_false, not_or] at h
  obtain ⟨htail, hhyphen, hequals⟩ := h
  have hsolid : ∀ ink, c ≠ ink → solidLine? ink (c :: rest) = none := by
    intro ink hink
    simp [solidLine?, List.span_eq_takeWhile_dropWhile, hink]
  simp [arrow, htail, unheadedArrow?, arrowLine?, hsolid '-' hhyphen, hsolid '=' hequals,
    dottedLine?, hhyphen]

/-- No arrow begins with a hyphen that belongs to a name. -/
theorem arrow_hyphen {before : Option Char} {rest : Text} (h : continuesArrow rest = false) :
    arrow before ('-' :: rest) = none := by
  have hequals : solidLine? '=' ('-' :: rest) = none := by
    simp [solidLine?, List.span_eq_takeWhile_dropWhile]
  cases rest with
  | nil => rfl
  | cons c rest =>
      simp only [continuesArrow, Bool.or_eq_false_iff, decide_eq_false_iff_not] at h
      obtain ⟨⟨⟨hhyphen, hdot⟩, _⟩, _⟩ := h
      have hsolid : solidLine? '-' ('-' :: c :: rest) = none := by
        simp [solidLine?, List.span_eq_takeWhile_dropWhile, hhyphen]
      simp [arrow, unheadedArrow?, arrowLine?, hequals, hsolid, dottedLine?, hdot]

/-! ## Found arrows -/

/-- A solid stroke is a front part of the text. -/
theorem prefix_of_solidLine? {ink : Char} {text line : Text} (h : solidLine? ink text = some line) :
    line <+: text := by
  have htext := @List.takeWhile_append_dropWhile _ (fun c => decide (c = ink)) text
  simp only [solidLine?, List.span_eq_takeWhile_dropWhile] at h
  split at h
  · rename_i hheaded
    obtain rfl := Option.some.inj h
    simp only [Bool.and_eq_true, beq_iff_eq] at hheaded
    cases hrest : text.dropWhile fun c => decide (c = ink) with
    | nil =>
        rw [hrest] at hheaded
        cases hheaded.2
    | cons c rest =>
        rw [hrest] at hheaded htext
        obtain rfl := Option.some.inj hheaded.2
        refine ⟨rest, ?_⟩
        rw [List.append_assoc]
        exact htext
  · split at h
    · obtain rfl := Option.some.inj h
      exact List.takeWhile_prefix _
    · cases h

/-- A dotted stroke is a front part of the text. -/
theorem prefix_of_dottedLine? {text line : Text} (h : dottedLine? text = some line) :
    line <+: text := by
  unfold dottedLine? at h
  split at h
  · rename_i rest
    have htext := @List.takeWhile_append_dropWhile _ (fun c => decide (c = '.')) rest
    simp only [List.span_eq_takeWhile_dropWhile] at h
    split at h
    · rename_i more hmore
      obtain rfl := Option.some.inj h
      rw [hmore] at htext
      exact ⟨more, by simp [htext]⟩
    · rename_i more _ hmore
      obtain rfl := Option.some.inj h
      rw [hmore] at htext
      exact ⟨more, by simp [htext]⟩
    · cases h
  · cases h

/-- The label of an arrow is a front part of the text, perhaps an empty one. -/
theorem prefix_edgeLabel (text : Text) : edgeLabel text <+: text := by
  unfold edgeLabel
  split
  · rename_i rest hrest
    have htext := indentOf_append_trimStart text
    have hlabel := @List.takeWhile_append_dropWhile _ (fun c => decide (c ≠ '|')) rest
    simp only [List.span_eq_takeWhile_dropWhile]
    split
    · exact List.nil_prefix
    · rename_i hclosed
      cases hbehind : rest.dropWhile fun c => decide (c ≠ '|') with
      | nil => exact absurd (by rw [hbehind]; rfl) hclosed
      | cons c behind =>
          have hc := List.head?_dropWhile_not (fun c => decide (c ≠ '|')) rest
          rw [hbehind] at hc hlabel
          have hbar : c = '|' := by simpa using hc
          subst hbar
          generalize rest.takeWhile (fun c => decide (c ≠ '|')) = label at hlabel ⊢
          rw [hrest, ← hlabel] at htext
          refine ⟨behind, ?_⟩
          rw [List.append_assoc, List.append_assoc]
          exact htext
  · exact List.nil_prefix

/-- An arrow without a head at its start is a front part of the text. -/
theorem prefix_of_unheadedArrow? {text found : Text} (h : unheadedArrow? text = some found) :
    found <+: text := by
  obtain ⟨line, hline, rfl⟩ := Option.map_eq_some_iff.mp h
  have hstart : line <+: text := by
    unfold arrowLine? at hline
    cases hsolid : solidLine? '-' text with
    | some solid =>
        rw [hsolid] at hline
        obtain rfl := Option.some.inj hline
        exact prefix_of_solidLine? hsolid
    | none =>
        rw [hsolid] at hline
        cases hdotted : dottedLine? text with
        | some dotted =>
            rw [hdotted] at hline
            obtain rfl := Option.some.inj hline
            exact prefix_of_dottedLine? hdotted
        | none =>
            rw [hdotted] at hline
            exact prefix_of_solidLine? hline
  obtain ⟨rest, rfl⟩ := hstart
  rw [List.drop_left]
  exact List.prefix_append_right_inj line |>.mpr (prefix_edgeLabel rest)

/-- An arrow is a front part of the text in which it is found. -/
theorem arrow_sound : arrow.Sound := by
  intro before text found h
  unfold arrow at h
  split at h
  · obtain ⟨rest, hrest, rfl⟩ := Option.map_eq_some_iff.mp h
    exact List.cons_prefix_cons.mpr ⟨rfl, prefix_of_unheadedArrow? hrest⟩
  · exact prefix_of_unheadedArrow? h

/-! ## The ends of an arrow -/

/-- The line begins with an equals sign, or with a hyphen that goes on no name, and ends with
its head or in its stroke. -/
structure IsArrowLine (line : Text) : Prop where
  /-- How it begins. -/
  front : ∃ c d more, line = c :: d :: more ∧ (c = '=' ∨ c = '-' ∧ (d = '-' ∨ d = '.'))
  /-- How it ends. -/
  last : ∃ c ∈ ['>', '-', '='], line.getLast? = some c

/-- As long as a text goes on with one character, it is that character repeated. -/
theorem exists_takeWhile_eq_replicate (ink : Char) (text : Text) :
    ∃ count, text.takeWhile (fun c => decide (c = ink)) = List.replicate count ink := by
  refine ⟨_, List.eq_replicate_of_mem fun c hc => ?_⟩
  simpa using List.all_eq_true.mp List.all_takeWhile c hc

/-- A solid stroke begins and ends as the line of an arrow does. -/
theorem isArrowLine_of_solidLine? {ink : Char} {text line : Text} (hink : ink = '-' ∨ ink = '=')
    (h : solidLine? ink text = some line) : IsArrowLine line := by
  have hink' : ink = '=' ∨ ink = '-' ∧ (ink = '-' ∨ ink = '.') := by
    rcases hink with rfl | rfl <;> simp
  obtain ⟨count, hcount⟩ := exists_takeWhile_eq_replicate ink text
  simp only [solidLine?, List.span_eq_takeWhile_dropWhile, hcount, List.length_replicate] at h
  split at h
  · rename_i hheaded
    simp only [Bool.and_eq_true, decide_eq_true_eq] at hheaded
    obtain ⟨fewer, rfl⟩ := Nat.exists_eq_add_of_le' hheaded.1
    obtain rfl := Option.some.inj h
    exact ⟨⟨ink, ink, _, rfl, hink'⟩, '>', by simp, List.getLast?_concat⟩
  · split at h
    · rename_i hlong
      obtain ⟨fewer, rfl⟩ := Nat.exists_eq_add_of_le' hlong
      obtain rfl := Option.some.inj h
      refine ⟨⟨ink, ink, _, rfl, hink'⟩, ink, ?_, ?_⟩
      · rcases hink with rfl | rfl <;> simp
      · rw [List.getLast?_replicate, if_neg (Nat.succ_ne_zero _)]
    · cases h

/-- A dotted stroke begins and ends as the line of an arrow does. -/
theorem isArrowLine_of_dottedLine? {text line : Text} (h : dottedLine? text = some line) :
    IsArrowLine line := by
  have hfront : ∀ more : Text, ∃ c d rest, '-' :: '.' :: more = c :: d :: rest ∧
      (c = '=' ∨ c = '-' ∧ (d = '-' ∨ d = '.')) :=
    fun more => ⟨'-', '.', more, rfl, Or.inr ⟨rfl, Or.inr rfl⟩⟩
  unfold dottedLine? at h
  split at h
  · simp only [List.span_eq_takeWhile_dropWhile] at h
    split at h
    · obtain rfl := Option.some.inj h
      exact ⟨hfront _, '>', by simp, by rw [List.getLast?_append]; rfl⟩
    · obtain rfl := Option.some.inj h
      exact ⟨hfront _, '-', by simp, List.getLast?_concat⟩
    · cases h
  · cases h

/-- What is found as the line of an arrow begins and ends as one does. -/
theorem isArrowLine_of_arrowLine? {text line : Text} (h : arrowLine? text = some line) :
    IsArrowLine line := by
  unfold arrowLine? at h
  cases hsolid : solidLine? '-' text with
  | some solid =>
      rw [hsolid] at h
      obtain rfl := Option.some.inj h
      exact isArrowLine_of_solidLine? (Or.inl rfl) hsolid
  | none =>
      rw [hsolid] at h
      cases hdotted : dottedLine? text with
      | some dotted =>
          rw [hdotted] at h
          obtain rfl := Option.some.inj h
          exact isArrowLine_of_dottedLine? hdotted
      | none =>
          rw [hdotted] at h
          exact isArrowLine_of_solidLine? (Or.inr rfl) h

/-- A label ends with its second bar. -/
theorem getLast?_edgeLabel (text : Text) :
    edgeLabel text = [] ∨ (edgeLabel text).getLast? = some '|' := by
  unfold edgeLabel
  split
  · simp only [List.span_eq_takeWhile_dropWhile]
    split
    · exact Or.inl rfl
    · exact Or.inr List.getLast?_concat
  · exact Or.inl rfl

/-- An arrow begins with no character of a name, goes on none, and ends with none. -/
structure IsArrow (found : Text) : Prop where
  /-- It begins with its head or its stroke. -/
  front : ∃ c more, found = c :: more ∧ c ∈ ['<', '-', '=']
  /-- No name goes on into it. -/
  apart : ∀ rest, nameRun (found ++ rest) = []
  /-- It ends with its head, in its stroke or with a bar. -/
  last : found.getLast?.any isNameChar = false

/-- The line of an arrow is an arrow with the label that is found behind it. -/
theorem IsArrowLine.isArrow_append {line : Text} (h : IsArrowLine line) (text : Text) :
    IsArrow (line ++ edgeLabel text) := by
  obtain ⟨⟨c, d, more, rfl, hstroke⟩, e, hend, hlast⟩ := h
  have hplain : ∀ c ∈ ['>', '-', '=', '|'], isNameChar c = false := forall_mem_of_all rfl
  refine ⟨⟨c, _, rfl, ?_⟩, fun rest => nameRun_of_not_goesOn ?_, ?_⟩
  · rcases hstroke with rfl | ⟨rfl, _⟩ <;> simp
  · rcases hstroke with rfl | ⟨rfl, rfl | rfl⟩ <;> simp [GoesOn, isNameChar, continuesArrow]
  · rcases getLast?_edgeLabel text with hnone | hbar
    · rw [hnone, List.append_nil, hlast]
      exact hplain e (by simp only [List.mem_cons] at hend ⊢; grind)
    · rw [List.getLast?_append, hbar]
      exact hplain '|' (by simp)

/-- What is found as an arrow is one. -/
theorem isArrow_of_arrow {before : Option Char} {text found : Text}
    (h : arrow before text = some found) : IsArrow found := by
  have hunheaded : ∀ {text found : Text}, unheadedArrow? text = some found → IsArrow found := by
    intro text found h
    obtain ⟨line, hline, rfl⟩ := Option.map_eq_some_iff.mp h
    exact (isArrowLine_of_arrowLine? hline).isArrow_append _
  unfold arrow at h
  split at h
  · obtain ⟨tail, htail, rfl⟩ := Option.map_eq_some_iff.mp h
    have harrow := hunheaded htail
    obtain ⟨c, more, rfl, _⟩ := harrow.front
    refine ⟨⟨'<', _, rfl, by simp⟩, fun rest => nameRun_of_not_goesOn ?_, ?_⟩
    · simp [GoesOn, isNameChar]
    · rw [List.getLast?_cons_cons]
      exact harrow.last
  · exact hunheaded h

/-- An arrow is not empty. -/
theorem IsArrow.ne_nil {found : Text} (h : IsArrow found) : found ≠ [] := by
  obtain ⟨c, more, rfl, _⟩ := h.front
  exact List.cons_ne_nil c more

/-! ## Cutting at the arrows -/

/-- Plain characters in front belong to the first stretch. -/
theorem stretchesFrom_plain {entered : Bool} {rest : List Piece} {first : Stretch}
    {more : List Stretch} (h : stretchesFrom entered rest = first :: more) (part : Text) :
    stretchesFrom entered (part.map .plain ++ rest)
      = { first with text := part ++ first.text } :: more := by
  induction part with
  | nil => exact h
  | cons c part ih =>
      rw [List.map_cons, List.cons_append, stretchesFrom, ih]
      rfl

/-- No arrow is found in blanks. -/
theorem Blanks.pieces_arrow {blanks : Text} (h : Blanks blanks) (rest : Text) :
    pieces arrow (blanks ++ rest) = blanks.map .plain ++ pieces arrow rest := by
  have hall : ∀ c ∈ ['<', '-', '='], isBlank c = false := forall_mem_of_all rfl
  refine arrow_blind.pieces_append fun front c back hpart => ?_
  refine arrow_eq_none fun hmem => ?_
  have hblank := h c (by simp [hpart])
  rw [hall c hmem] at hblank
  cases hblank

end Flowchart
