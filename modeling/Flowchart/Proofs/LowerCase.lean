import Flowchart.Proofs.Identifier
import Flowchart.Text.LowerCase

/-!
# Words in either case

Characters of ASCII have their small letters whatever stands around them, so a
word that is read without regard to case has the lower case that was asked for,
unless one of its letters is among those for which other characters may stand.
-/

namespace Flowchart

/-! ## Small letters -/

/-- What is no letter of ASCII is its own small letter. -/
theorem toLower_of_not_alpha {c : Char} (h : c.isAlpha = false) : c.toLower = c := by
  unfold Char.toLower
  split
  · rename_i hupper
    rw [isAlpha_iff.mpr (Or.inl hupper)] at h
    cases h
  · rfl

/-- Only letters become letters. -/
theorem isAlpha_of_toLower {c : Char} (h : c.toLower.isAlpha = true) : c.isAlpha = true := by
  cases halpha : c.isAlpha with
  | true => rfl
  | false => rwa [toLower_of_not_alpha halpha, halpha] at h

/-- Letters stay letters. -/
theorem isAlpha_toLower {c : Char} (h : c.isAlpha = true) : c.toLower.isAlpha = true := by
  unfold Char.toLower
  split
  · rename_i hupper
    obtain ⟨hlow, hhigh⟩ := hupper
    have hA : 'A'.val.toNat = 65 := rfl
    have hZ : 'Z'.val.toNat = 90 := rfl
    rw [ge_iff_le, UInt32.le_iff_toNat_le, hA] at hlow
    rw [UInt32.le_iff_toNat_le, hZ] at hhigh
    have hstep : ('a'.val - 'A'.val).toNat = 32 := rfl
    have hsmall : (c.val + ('a'.val - 'A'.val)).toNat = c.val.toNat + 32 := by
      rw [UInt32.toNat_add, hstep]
      exact Nat.mod_eq_of_lt (by omega)
    refine isAlpha_iff.mpr (Or.inr ?_)
    change 97 ≤ (c.val + ('a'.val - 'A'.val)).toNat ∧ (c.val + ('a'.val - 'A'.val)).toNat ≤ 122
    omega
  · exact h

/-- Of a character that is no letter, nothing else is the capital. -/
theorem eq_of_toLower {c d : Char} (hd : d.isAlpha = false) (h : c.toLower = d) : c = d := by
  cases hc : c.isAlpha with
  | false => rw [← h, toLower_of_not_alpha hc]
  | true =>
      rw [← h, isAlpha_toLower hc] at hd
      cases hd

/-- Letters and digits are of ASCII. -/
theorem isAscii_of_isAlphanum {c : Char} (h : c.isAlphanum = true) : isAscii c = true := by
  have hrange := toNat_of_isAlphanum h
  simp only [isAscii, decide_eq_true_eq]
  omega

/-- The capital sigma is not of ASCII. -/
theorem isAscii_ne_sigma {c : Char} (h : isAscii c = true) : c ≠ 'Σ' := by
  rintro rfl
  exact absurd h (by decide)

/-- A text of ASCII is lowered character by character. -/
theorem lowerFrom_ascii (inWord : Bool) {text : Text} (h : ∀ c ∈ text, isAscii c = true) :
    lowerFrom inWord text = text.map Char.toLower := by
  induction text generalizing inWord with
  | nil => rfl
  | cons c text ih =>
      have hc := h c List.mem_cons_self
      rw [lowerFrom, if_neg (isAscii_ne_sigma hc),
        ih _ fun d hd => h d (List.mem_cons_of_mem c hd)]
      simp [lowerChar, hc]

/-- The lower case of a text of ASCII is that of its characters. -/
theorem lower_ascii {text : Text} (h : ∀ c ∈ text, isAscii c = true) :
    lower text = text.map Char.toLower :=
  lowerFrom_ascii false h

/-- A character of ASCII has its small letter in the lowered text. -/
theorem mem_lowerFrom (inWord : Bool) {text : Text} {c : Char} (h : c ∈ text)
    (hascii : isAscii c = true) : c.toLower ∈ lowerFrom inWord text := by
  induction text generalizing inWord with
  | nil => cases h
  | cons d text ih =>
      rw [lowerFrom]
      refine List.mem_append.mpr ?_
      rcases List.mem_cons.mp h with rfl | hmem
      · left
        rw [if_neg (isAscii_ne_sigma hascii)]
        simp [lowerChar, hascii]
      · exact Or.inr (ih _ hmem)

/-- A character of ASCII leaves its small letter in the lower case of a text. -/
theorem mem_lower {text : Text} {c : Char} (h : c ∈ text) (hascii : isAscii c = true) :
    c.toLower ∈ lower text :=
  mem_lowerFrom false h hascii

/-- A text with a mark of ASCII in it is none of some words of letters, in either case. -/
theorem contains_lower_of_mem {words : List Text}
    (hwords : ∀ word ∈ words, word.all Char.isAlpha = true) {text : Text} {c : Char}
    (h : c ∈ text) (hascii : isAscii c = true) (hmark : c.isAlpha = false) :
    words.contains (lower text) = false := by
  have hlower := mem_lower h hascii
  rw [toLower_of_not_alpha hmark] at hlower
  cases hfound : words.contains (lower text) with
  | false => rfl
  | true =>
      have hword := hwords _ (List.contains_iff_mem.mp hfound)
      rw [List.all_eq_true.mp hword c hlower] at hmark
      cases hmark

/-! ## Texts of ASCII -/

/-- All characters of the text are of ASCII. -/
def InAscii (text : Text) : Prop :=
  ∀ c ∈ text, isAscii c = true

/-- In ASCII the lower case is as long as the text. -/
theorem InAscii.length_lower {text : Text} (h : InAscii text) :
    (lower text).length = text.length := by
  rw [lower_ascii h, List.length_map]

/-- Names are of ASCII. -/
theorem IsName.inAscii {id : Text} (h : IsName id) : InAscii id := by
  intro c hc
  rcases h.of_mem hc with hname | rfl
  · simp only [isNameChar, Bool.or_eq_true, decide_eq_true_eq] at hname
    rcases hname with (halphanum | rfl) | rfl
    · exact isAscii_of_isAlphanum halphanum
    · decide
    · decide
  · decide

/-! ## Words read without regard to case -/

/-- The text is the word, when case is ignored. -/
def FoldsTo : (word text : Text) → Prop
  | [], [] => True
  | letter :: word, c :: text => folds letter c = true ∧ FoldsTo word text
  | _, _ => False

/-- Splitting behind a word leaves what is not the word. -/
theorem splitFolded?_eq_some_iff {word text taken rest : Text} :
    splitFolded? word text = some (taken, rest) ↔
      text = taken ++ rest ∧ FoldsTo word taken := by
  induction word generalizing text taken with
  | nil =>
      cases taken with
      | nil => simp [splitFolded?, FoldsTo]
      | cons c taken => simp [splitFolded?, FoldsTo]
  | cons letter word ih =>
      cases text with
      | nil => cases taken <;> simp [splitFolded?, FoldsTo]
      | cons c text =>
          by_cases hfolds : folds letter c = true
          · cases taken with
            | nil => simp [splitFolded?, FoldsTo, hfolds]
            | cons d taken =>
                have htail := @ih text taken
                simp only [splitFolded?, hfolds, if_true, FoldsTo, Option.map_eq_some_iff,
                  Prod.mk.injEq, List.cons.injEq, List.cons_append, Prod.exists]
                grind
          · cases taken <;> simp [splitFolded?, FoldsTo, hfolds]
            grind

/-- No other character stands for the letter. -/
def IsPlainLetter (letter : Char) : Prop :=
  letter.isAlpha = true ∧ letter ∉ ['s', 'i', 'k']
  deriving Decidable

/-- What stands for a plain letter is that letter in either case. -/
theorem toLower_of_folds {letter c : Char} (hplain : IsPlainLetter letter)
    (h : folds letter c = true) : c.toLower = letter := by
  have hnot := hplain.2
  simp only [List.mem_cons, List.not_mem_nil, or_false, not_or] at hnot
  simpa [folds, hnot] using h

/-- A character of ASCII is read as its small letter alone. -/
theorem toLower_of_folds_ascii {letter c : Char} (hascii : isAscii c = true)
    (h : folds letter c = true) : c.toLower = letter := by
  have hother : ∀ d, isAscii d = false → c ≠ d := by
    rintro d hd rfl
    rw [hascii] at hd
    cases hd
  have hnot : c ≠ 'ſ' ∧ c ≠ 'İ' ∧ c ≠ 'ı' ∧ c ≠ '\u212A' :=
    ⟨hother _ (by decide), hother _ (by decide), hother _ (by decide), hother _ (by decide)⟩
  simpa [folds, hnot] using h

/-- A word of plain letters is read as letters with its own lower case. -/
theorem FoldsTo.plain {word text : Text} (h : FoldsTo word text)
    (hplain : ∀ letter ∈ word, IsPlainLetter letter) :
    (∀ c ∈ text, c.isAlpha = true) ∧ text.map Char.toLower = word := by
  induction word generalizing text with
  | nil =>
      cases text with
      | nil => exact ⟨nofun, rfl⟩
      | cons c text => cases h
  | cons letter word ih =>
      cases text with
      | nil => cases h
      | cons c text =>
          obtain ⟨hfolds, hrest⟩ := h
          have hletter := hplain letter List.mem_cons_self
          have hlower := toLower_of_folds hletter hfolds
          obtain ⟨halpha, hmap⟩ := ih hrest fun d hd => hplain d (List.mem_cons_of_mem _ hd)
          refine ⟨?_, by rw [List.map_cons, hlower, hmap]⟩
          intro d hd
          rcases List.mem_cons.mp hd with rfl | hmem
          · exact isAlpha_of_toLower (hlower ▸ hletter.1)
          · exact halpha d hmem

/-- A word of plain letters is read as the word. -/
theorem FoldsTo.lower_eq {word text : Text} (h : FoldsTo word text)
    (hplain : ∀ letter ∈ word, IsPlainLetter letter) : lower text = word := by
  obtain ⟨halpha, hmap⟩ := h.plain hplain
  rw [lower_ascii, hmap]
  intro c hc
  exact isAscii_of_isAlphanum (by simp [Char.isAlphanum, halpha c hc])

/-- The first letter of the word need not be plain if a character of ASCII stands for it. -/
theorem FoldsTo.ascii_plain {letter c : Char} {word text : Text}
    (h : FoldsTo (letter :: word) (c :: text)) (hc : isAscii c = true)
    (hplain : ∀ d ∈ word, IsPlainLetter d) :
    (∀ d ∈ text, d.isAlpha = true) ∧ (c :: text).map Char.toLower = letter :: word := by
  obtain ⟨hfirst, hrest⟩ := h
  obtain ⟨halpha, hmap⟩ := hrest.plain hplain
  exact ⟨halpha, by rw [List.map_cons, toLower_of_folds_ascii hc hfirst, hmap]⟩

/-- A text is read as its lower case. -/
theorem foldsTo_map_toLower (text : Text) : FoldsTo (text.map Char.toLower) text := by
  induction text with
  | nil => trivial
  | cons c text ih => exact ⟨by simp [folds], ih⟩

end Flowchart
