import Flowchart.Text.Blank
import Flowchart.Token.Identifier

/-!
# Blanks around other characters

Trimming is known as soon as the first character that is not blank is known.
The characters of names, brackets and arrows are not blank.
-/

namespace Flowchart

/-- What is checked of each element of a list holds of all. -/
theorem forall_mem_of_all {α : Type} {p : α → Prop} [DecidablePred p] {list : List α}
    (h : (list.all fun a => decide (p a)) = true) : ∀ a ∈ list, p a := by
  simpa using h

/-- A text of blanks only, perhaps empty. -/
def Blanks (text : Text) : Prop :=
  ∀ c ∈ text, isBlank c = true

/-- The text does not begin with a blank. -/
def Solid (text : Text) : Prop :=
  ∀ c, text.head? = some c → isBlank c = false

/-- The empty text is blank. -/
theorem Blanks.nil : Blanks [] := nofun

/-- A space is blank. -/
theorem Blanks.space : Blanks [' '] := forall_mem_of_all rfl

/-- Blanks pass the test of each character. -/
theorem Blanks.all {text : Text} (h : Blanks text) : text.all isBlank = true :=
  List.all_eq_true.mpr h

/-- A text that begins with a character that is not blank does not begin with a blank. -/
theorem Solid.cons {c : Char} (h : isBlank c = false) (rest : Text) : Solid (c :: rest) := by
  intro d hd
  obtain rfl := Option.some.inj hd
  exact h

/-- The blanks at the front and the rest are the text. -/
theorem indentOf_append_trimStart (text : Text) : indentOf text ++ trimStart text = text :=
  List.takeWhile_append_dropWhile

/-- An indent is blank. -/
theorem indentOf_blanks (text : Text) : Blanks (indentOf text) := by
  intro c hc
  exact List.all_eq_true.mp List.all_takeWhile c hc

/-- Trimming leaves a text that does not begin with a blank. -/
theorem Solid.trimStart_eq {text : Text} (h : Solid text) : trimStart text = text := by
  cases text with
  | nil => rfl
  | cons c rest => simp [trimStart, h c rfl]

/-- A text that does not begin with a blank has no indent. -/
theorem Solid.indentOf_eq {text : Text} (h : Solid text) : indentOf text = [] := by
  cases text with
  | nil => rfl
  | cons c rest => simp [indentOf, h c rfl]

/-- Blanks in front are trimmed. -/
theorem Blanks.trimStart_append {blanks : Text} (h : Blanks blanks) (text : Text) :
    trimStart (blanks ++ text) = trimStart text :=
  List.dropWhile_append_of_pos h

/-- Blanks in front belong to the indent. -/
theorem Blanks.indentOf_front {blanks : Text} (h : Blanks blanks) (text : Text) :
    indentOf (blanks ++ text) = blanks ++ indentOf text :=
  List.takeWhile_append_of_pos h

/-- Blanks in front are the indent. -/
theorem Blanks.indentOf_append {blanks : Text} (h : Blanks blanks) {text : Text}
    (hsolid : Solid text) : indentOf (blanks ++ text) = blanks := by
  rw [h.indentOf_front, hsolid.indentOf_eq, List.append_nil]

/-- Blanks at the end are trimmed. -/
theorem Blanks.trimEnd_append {blanks : Text} (h : Blanks blanks) (text : Text) :
    trimEnd (text ++ blanks) = trimEnd text := by
  have hreverse : ∀ c ∈ blanks.reverse, isBlank c = true :=
    fun c hc => h c (List.mem_reverse.mp hc)
  rw [trimEnd, List.reverse_append, List.dropWhile_append_of_pos hreverse, trimEnd]

/-- A text that ends in another character is not trimmed at its end. -/
theorem trimEnd_concat {c : Char} (h : isBlank c = false) (text : Text) :
    trimEnd (text ++ [c]) = text ++ [c] := by
  simp [trimEnd, h]

/-! ## Characters that are not blank -/

/-- The letters stand at two ranges of code points. -/
theorem isAlpha_iff {c : Char} :
    c.isAlpha = true ↔
      (65 ≤ c.toNat ∧ c.toNat ≤ 90) ∨ (97 ≤ c.toNat ∧ c.toNat ≤ 122) := by
  have hupper : c.isUpper = true ↔ 65 ≤ c.toNat ∧ c.toNat ≤ 90 := decide_eq_true_iff
  have hlower : c.isLower = true ↔ 97 ≤ c.toNat ∧ c.toNat ≤ 122 :=
    Bool.and_eq_true_iff.trans (and_congr decide_eq_true_iff decide_eq_true_iff)
  exact Bool.or_eq_true_iff.trans (or_congr hupper hlower)

/-- The digits stand at one range of code points. -/
theorem isDigit_iff {c : Char} : c.isDigit = true ↔ 48 ≤ c.toNat ∧ c.toNat ≤ 57 :=
  Bool.and_eq_true_iff.trans (and_congr decide_eq_true_iff decide_eq_true_iff)

/-- A natural number is written with digits alone. -/
theorem isDigit_of_mem_natText {n : Nat} {c : Char} (h : c ∈ natText n) : c.isDigit = true :=
  Nat.isDigit_of_mem_toDigits (by decide) (Nat.le_refl 10) h

/-- Letters and digits stand between the digit zero and the small letter z. -/
theorem toNat_of_isAlphanum {c : Char} (h : c.isAlphanum = true) :
    48 ≤ c.toNat ∧ c.toNat ≤ 122 := by
  rw [Char.isAlphanum, Bool.or_eq_true, isAlpha_iff, isDigit_iff] at h
  omega

/-- No letter is a digit. -/
theorem isDigit_of_isAlpha {c : Char} (h : c.isAlpha = true) : c.isDigit = false := by
  rw [isAlpha_iff] at h
  rw [← Bool.not_eq_true, isDigit_iff]
  omega

/-- No letter and no digit is blank. -/
theorem isBlank_of_isAlphanum {c : Char} (h : c.isAlphanum = true) : isBlank c = false := by
  have hrange := toNat_of_isAlphanum h
  simp only [isBlank, inRanges, blankRanges, List.any_cons, List.any_nil, Bool.or_false,
    Bool.or_eq_false_iff, Bool.and_eq_false_iff, decide_eq_false_iff_not]
  omega

/-- No letter is blank. -/
theorem isBlank_of_isAlpha {c : Char} (h : c.isAlpha = true) : isBlank c = false :=
  isBlank_of_isAlphanum (by simp [Char.isAlphanum, h])

/-- No blank is a letter. -/
theorem isAlpha_of_isBlank {c : Char} (h : isBlank c = true) : c.isAlpha = false := by
  cases halpha : c.isAlpha with
  | false => rfl
  | true =>
      rw [isBlank_of_isAlpha halpha] at h
      cases h

/-- No character of a name is blank. -/
theorem isBlank_of_isNameChar {c : Char} (h : isNameChar c = true) : isBlank c = false := by
  simp only [isNameChar, Bool.or_eq_true, decide_eq_true_eq] at h
  rcases h with (halphanum | rfl) | rfl
  · exact isBlank_of_isAlphanum halphanum
  · decide
  · decide

/-- No blank belongs to a name. -/
theorem isNameChar_of_isBlank {c : Char} (h : isBlank c = true) : isNameChar c = false := by
  cases hname : isNameChar c with
  | false => rfl
  | true =>
      rw [isBlank_of_isNameChar hname] at h
      cases h

end Flowchart
