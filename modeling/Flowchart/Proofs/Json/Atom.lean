import Flowchart.Json.Printer
import Flowchart.Json.Reader
import Flowchart.Proofs.Blank
import Mathlib.Data.List.TakeDrop

/-!
# Reading strings and integers that are written

A character is read back from what stands for it in a string: the one above U+FFFF from a
pair of escapes, any other that is escaped from one.  An integer is read back from its
digits, of which the first is no zero but for zero itself, as long as nothing behind them
goes on with a number.

Main statements: `readString?_flatMap`, `readAtom_intText`.
-/

namespace Flowchart.Json

/-! ## Strings -/

/-- A hexadecimal digit is read as the number that it was written of. -/
theorem hexValue?_digitChar : ∀ digit < 16, hexValue? (Nat.digitChar digit) = some digit := by
  decide

/-- A 16-bit unit is read back from its digits. -/
theorem readUnit?_hexText {unit : Nat} (h : unit < 0x10000) (rest : Text) :
    readUnit? (hexText 4 unit ++ rest) = some (unit, rest) := by
  have hdigits : hexText 4 unit
      = [Nat.digitChar (unit / 4096 % 16), Nat.digitChar (unit / 256 % 16),
        Nat.digitChar (unit / 16 % 16), Nat.digitChar (unit % 16)] := by
    simp [hexText, List.range_succ]
  have hvalue : ∀ n, hexValue? (Nat.digitChar (n % 16)) = some (n % 16) := fun n =>
    hexValue?_digitChar _ (Nat.mod_lt _ (by decide))
  have hsum : ((unit / 4096 % 16 * 16 + unit / 256 % 16) * 16 + unit / 16 % 16) * 16 + unit % 16
      = unit := by omega
  rw [hdigits]
  simp only [List.cons_append, List.nil_append, readUnit?, hvalue]
  simp [hsum]

/-- The number of a character is no surrogate. -/
theorem not_surrogate_toNat (c : Char) :
    isHighSurrogate c.toNat = false ∧ isLowSurrogate c.toNat = false := by
  have hvalid : c.toNat < 0xD800 ∨ 0xDFFF < c.toNat ∧ c.toNat < 0x110000 := c.valid
  simp only [isHighSurrogate, isLowSurrogate, Bool.and_eq_false_iff, decide_eq_false_iff_not]
  omega

/-- A character is read from its code point. -/
theorem singleChar_toNat (c : Char) : singleChar c.toNat = c := by
  obtain ⟨hhigh, hlow⟩ := not_surrogate_toNat c
  rw [singleChar, hhigh, hlow]
  exact Char.ofNat_toNat c

/-- A character of one unit is read back from its escape. -/
theorem readChar?_unitEscape {c : Char} (h : c.toNat < 0x10000) (rest : Text) :
    readChar? (unitEscape c.toNat ++ rest) = some (c, rest) := by
  rw [unitEscape, List.cons_append, List.cons_append, readChar?, readEscaped?,
    readUnit?_hexText h]
  simp [(not_surrogate_toNat c).1, singleChar_toNat]

/-- A pair of surrogates is read back from their escapes as one character. -/
theorem readChar?_unitEscape_pair {high low : Nat} (hhigh : isHighSurrogate high = true)
    (hlow : isLowSurrogate low = true) (rest : Text) :
    readChar? (unitEscape high ++ unitEscape low ++ rest) = some (pairedChar high low, rest) := by
  have hhighUnit : high < 0x10000 := by
    simp only [isHighSurrogate, Bool.and_eq_true, decide_eq_true_eq] at hhigh
    omega
  have hlowUnit : low < 0x10000 := by
    simp only [isLowSurrogate, Bool.and_eq_true, decide_eq_true_eq] at hlow
    omega
  rw [unitEscape, unitEscape, List.append_assoc, List.cons_append, List.cons_append, readChar?,
    readEscaped?, readUnit?_hexText hhighUnit]
  simp [hhigh, hlow, readUnit?_hexText hlowUnit]

/-- A character above U+FFFF is that of the pair of surrogates it is written as. -/
theorem paired_of_le {c : Char} (h : 0x10000 ≤ c.toNat) :
    isHighSurrogate (0xD800 + (c.toNat - 0x10000) / 0x400) = true ∧
      isLowSurrogate (0xDC00 + (c.toNat - 0x10000) % 0x400) = true ∧
      pairedChar (0xD800 + (c.toNat - 0x10000) / 0x400) (0xDC00 + (c.toNat - 0x10000) % 0x400)
        = c := by
  have hlt : c.toNat < 0x110000 := by
    have hvalid : c.toNat < 0xD800 ∨ 0xDFFF < c.toNat ∧ c.toNat < 0x110000 := c.valid
    omega
  have hsum : 0x10000 + (c.toNat - 0x10000) / 0x400 * 0x400 + (c.toNat - 0x10000) % 0x400
      = c.toNat := by omega
  refine ⟨?_, ?_, ?_⟩
  · simp only [isHighSurrogate, Bool.and_eq_true, decide_eq_true_eq]
    omega
  · simp only [isLowSurrogate, Bool.and_eq_true, decide_eq_true_eq]
    omega
  · rw [pairedChar, Nat.add_sub_cancel_left, Nat.add_sub_cancel_left, hsum]
    exact Char.ofNat_toNat c

/-- A character of a string is read back from its text. -/
theorem readChar?_stringChar (c : Char) (rest : Text) :
    readChar? (stringChar c ++ rest) = some (c, rest) := by
  unfold stringChar
  split
  · next h =>
      obtain rfl | rfl : c = '"' ∨ c = '\\' := by simpa using h
      · rfl
      · rfl
  split
  · next h => subst h; rfl
  split
  · next h => subst h; rfl
  split
  · next h => subst h; rfl
  split
  · next h => subst h; rfl
  split
  · next h => subst h; rfl
  split
  · next hmark _ _ _ _ _ hplain =>
      have hslash : c ≠ '\\' := by
        rintro rfl
        exact hmark rfl
      have hlarge : ¬ c.toNat < 0x20 := by omega
      rw [List.singleton_append, readChar?, if_neg hlarge]
      all_goals simp [hslash]
  split
  · next hsmall => exact readChar?_unitEscape hsmall rest
  · next hgreat =>
      obtain ⟨hhigh, hlow, hpaired⟩ := paired_of_le (show 0x10000 ≤ c.toNat by omega)
      rw [readChar?_unitEscape_pair hhigh hlow, hpaired]

/-- Something stands for each character in a string. -/
theorem stringChar_ne_nil (c : Char) : stringChar c ≠ [] := by
  unfold stringChar
  repeat' split
  all_goals simp [unitEscape]

/-- What a character of a string is written as does not begin with a quote. -/
theorem head?_stringChar (c : Char) : (stringChar c).head? ≠ some '"' := by
  unfold stringChar
  repeat' split
  all_goals simp_all [unitEscape]

/-- A string is read back up to its closing quote. -/
theorem readString?_flatMap (text : Text) {fuel : Nat} (hfuel : text.length ≤ fuel)
    (rest : Text) :
    readString? fuel (text.flatMap stringChar ++ '"' :: rest) = some (text, rest) := by
  induction text generalizing fuel with
  | nil => cases fuel <;> rfl
  | cons c text ih =>
      obtain ⟨fuel, rfl⟩ : ∃ less, fuel = less + 1 := ⟨fuel - 1, by simp at hfuel; omega⟩
      have hread := readChar?_stringChar c (text.flatMap stringChar ++ '"' :: rest)
      have hmore := ih (Nat.le_of_succ_le_succ hfuel)
      rw [List.flatMap_cons, List.append_assoc]
      obtain ⟨first, more, hfirst⟩ := List.exists_cons_of_ne_nil (stringChar_ne_nil c)
      have hquote := head?_stringChar c
      rw [hfirst] at hread hquote ⊢
      rw [List.cons_append] at hread ⊢
      rw [readString?]
      · simp [hread, hmore]
      · simpa using hquote

/-- A text is no longer than what stands for it in a string. -/
theorem length_le_flatMap_stringChar (text : Text) :
    text.length ≤ (text.flatMap stringChar).length := by
  induction text with
  | nil => exact Nat.le_refl 0
  | cons c text ih =>
      have hpos := List.length_pos_iff.mpr (stringChar_ne_nil c)
      simp only [List.flatMap_cons, List.length_append, List.length_cons]
      omega

/-! ## Integers -/

/-- The text does not go on with a number in front of it. -/
def EndsNumber (rest : Text) : Prop :=
  ∀ c ∈ rest.head?, c.isDigit = false ∧ c ≠ '.' ∧ c ≠ 'e' ∧ c ≠ 'E'

/-- A number ends before any character that does not go on with it. -/
theorem endsNumber_cons {c : Char} {rest : Text}
    (h : c.isDigit = false ∧ c ≠ '.' ∧ c ≠ 'e' ∧ c ≠ 'E') : EndsNumber (c :: rest) := by
  rintro d hd
  obtain rfl : c = d := by simpa using hd
  exact h

/-- The digits of a number have its value. -/
theorem decimalValue_natText (n : Nat) : decimalValue (natText n) = n := by
  have h := Nat.ofDigitChars_ten_toDigits (n := n)
  rwa [Nat.ofDigitChars_eq_foldl] at h

/-- The first digit is zero for zero alone. -/
theorem natText_eq_cons (n : Nat) :
    ∃ c more, natText n = c :: more ∧ c.isDigit = true ∧ (c = '0' → n = 0) := by
  induction n using Nat.strongRecOn with
  | ind n ih =>
      by_cases hsmall : n < 10
      · refine ⟨Nat.digitChar n, [], Nat.toDigits_of_lt_base hsmall, ?_⟩
        clear ih
        revert n
        decide
      · obtain ⟨c, more, hmore, hdigit, hzero⟩ := ih (n / 10) (by omega)
        refine ⟨c, more ++ [Nat.digitChar (n % 10)], ?_, hdigit, fun hc => ?_⟩
        · rw [natText, Nat.toDigits_of_base_le (by decide) (by omega)]
          exact congrArg (· ++ [Nat.digitChar (n % 10)]) hmore
        · have htenth := hzero hc
          omega

/-- The digits of a number are taken as far as they go. -/
theorem span_natText (n : Nat) {rest : Text} (hrest : EndsNumber rest) :
    (natText n ++ rest).span Char.isDigit = (natText n, rest) := by
  have hdigits : ∀ c ∈ natText n, c.isDigit = true := fun c => isDigit_of_mem_natText
  rw [List.span_eq_takeWhile_dropWhile, List.takeWhile_append_of_pos hdigits,
    List.dropWhile_append_of_pos hdigits]
  cases rest with
  | nil => simp
  | cons c rest => simp [(hrest c rfl).1]

/-- The whole part of a number is read from its digits. -/
theorem readWhole?_natText (n : Nat) {rest : Text} (hrest : EndsNumber rest) :
    readWhole? (natText n ++ rest) = some (natText n, rest) := by
  by_cases hn : n = 0
  · subst hn
    rfl
  · have hspan := span_natText n hrest
    obtain ⟨c, more, hmore, _, hzero⟩ := natText_eq_cons n
    rw [hmore] at hspan ⊢
    rw [List.cons_append] at hspan ⊢
    rw [readWhole?, hspan]
    · rfl
    · simpa using mt hzero hn

/-- A whole number is read back, with its sign. -/
theorem readUnsigned_natText (negative : Bool) (n : Nat) {rest : Text}
    (hrest : EndsNumber rest) :
    readUnsigned {} negative (natText n ++ rest)
      = .ok (int (if negative then -(n : Int) else n), rest) := by
  have hfraction : readFraction rest = ([], rest) := by
    cases rest with
    | nil => rfl
    | cons c rest => rw [readFraction]; simpa using (hrest c rfl).2.1
  have hexponent : readExponent rest = (none, rest) := by
    cases rest with
    | nil => rfl
    | cons c rest => simp [readExponent, (hrest c rfl).2.2]
  rw [readUnsigned, readWhole?_natText n hrest]
  simp [found, bind, Except.bind, hfraction, hexponent, exceeds, decimalValue_natText]

/-- What begins neither a string nor a word is read as a number. -/
theorem readAtom_number {c : Char} (h : ∀ first ∈ ['"', 'n', 't', 'f'], first ≠ c) (fuel : Nat)
    (rest : Text) : readAtom {} fuel (c :: rest) = readNumber {} (c :: rest) := by
  have hquote : c ≠ '"' := (h '"' (by decide)).symm
  simp [readAtom, afterWord?, hquote, h 'n', h 't', h 'f']

/-- No word begins with a digit, and no bracket or gap is one. -/
theorem ne_of_isDigit {c : Char} (hc : c.isDigit = true) :
    ∀ first ∈ ['"', '-', 'n', 't', 'f', 'I', 'N', ']', '[', '\x7b', ' ', '\t', '\n', '\r'],
      first ≠ c := by
  rintro first hfirst rfl
  exact (forall_mem_of_all (by rfl) : ∀ mark ∈ _, ¬ mark.isDigit = true) first hfirst hc

/-- An integer is read back. -/
theorem readAtom_intText (value : Int) (fuel : Nat) {rest : Text} (hrest : EndsNumber rest) :
    readAtom {} fuel (intText value ++ rest) = .ok (int value, rest) := by
  cases value with
  | ofNat n =>
      obtain ⟨c, more, hmore, hc, _⟩ := natText_eq_cons n
      have hne := ne_of_isDigit hc
      have hread := readUnsigned_natText false n hrest
      rw [intText]
      rw [hmore] at hread ⊢
      rw [List.cons_append] at hread ⊢
      rw [readAtom_number (by simp [hne])]
      simp only [Bool.false_eq_true, if_false] at hread
      simpa [readNumber, afterWord?, hne, (hne '-' (by decide)).symm] using hread
  | negSucc n =>
      obtain ⟨c, more, hmore, hc, _⟩ := natText_eq_cons (n + 1)
      have hne := ne_of_isDigit hc
      have hread := readUnsigned_natText true (n + 1) hrest
      rw [intText, List.cons_append, readAtom_number (forall_mem_of_all rfl)]
      rw [hmore] at hread ⊢
      rw [List.cons_append] at hread ⊢
      simpa [readNumber, afterWord?, hne, Int.negSucc_eq] using hread

/-- An integer begins with no gap and no bracket. -/
theorem intText_eq_cons (value : Int) :
    ∃ c more, intText value = c :: more ∧ isGap c = false ∧ c ≠ ']' ∧ c ≠ '[' ∧ c ≠ '\x7b' := by
  cases value with
  | ofNat n =>
      obtain ⟨c, more, hmore, hc, _⟩ := natText_eq_cons n
      have hne := ne_of_isDigit hc
      exact ⟨c, more, hmore, by simp [isGap, (hne _ _).symm], (hne ']' (by decide)).symm,
        (hne '[' (by decide)).symm, (hne '\x7b' (by decide)).symm⟩
  | negSucc n => exact ⟨_, _, rfl, rfl, by decide, by decide, by decide⟩

end Flowchart.Json
