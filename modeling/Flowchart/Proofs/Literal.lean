import Flowchart.Proofs.Prepared
import Mathlib.Data.List.Basic
import Mathlib.Data.List.TakeDrop

/-!
# Literals and their placeholders

A line is cut at its literals from left to right, and each literal is exchanged for its
number.  No mark of a placeholder stands in the line, so the placeholders that are found
are those that were put in, in their order, and each gives its literal back.

A quote that stays in the line is closed nowhere behind it.  Walk on from there to a
literal: whether its first quote is escaped on the way or not, the walk is inside the
literal behind that, as the literal's own walk is, and both leave it together.  So what is
not closed in the line is not closed in the line with placeholders either, and nothing is
found there a second time.

Main statement: `extractLiterals_lossless`.
-/

namespace Flowchart

/-! ## Cutting at literals -/

/-- A literal is not empty. -/
theorem literal_ne_nil {before : Option Char} {text found : Text}
    (h : literal before text = some found) : found ≠ [] := by
  rintro rfl
  cases text with
  | nil => cases h
  | cons c rest =>
      simp only [literal] at h
      split at h
      · simp at h
      · cases h

/-- A text is taken apart into plain characters and literals. -/
theorem literal_induction {motive : Text → Prop} (nil : motive [])
    (plain : ∀ c rest, literal none (c :: rest) = none → motive rest → motive (c :: rest))
    (quoted : ∀ found rest, literal none (found ++ rest) = some found → motive rest →
      motive (found ++ rest))
    (text : Text) : motive text :=
  literal_sound.induction (fun _ _ => literal_ne_nil) nil plain quoted text

/-- A literal is a quote and what closes it. -/
theorem exists_of_literal {found rest : Text} (h : literal none (found ++ rest) = some found) :
    ∃ quote body, found = quote :: body ∧ (quote = '"' ∨ quote = '\'') ∧
      closeLiteral? quote (body ++ rest) = some body := by
  obtain ⟨quote, body, rfl⟩ := List.exists_cons_of_ne_nil (literal_ne_nil h)
  simp only [List.cons_append, literal, Bool.or_eq_true, decide_eq_true_eq] at h
  split at h
  · next hquote =>
      obtain ⟨closed, hclosed, hbody⟩ := Option.map_eq_some_iff.mp h
      obtain rfl := (List.cons.inj hbody).2
      exact ⟨quote, closed, rfl, hquote, hclosed⟩
  · cases h

/-- The characters of the lexeme, if the piece is one. -/
def Piece.lexeme? : Piece → Option Text
  | plain _ => none
  | lexeme text _ => some text

/-- The texts of the occurrences are the lexemes. -/
theorem map_text_occurrencesFrom (start : Nat) (cut : List Piece) :
    (occurrencesFrom start cut).map (·.text) = cut.filterMap Piece.lexeme? := by
  induction cut generalizing start with
  | nil => rfl
  | cons piece cut ih =>
      cases piece with
      | plain c => exact ih (start + 1)
      | lexeme text rest => exact congrArg (text :: ·) (ih (start + text.length))

/-! ## Digits of placeholders -/

/-- A digit of ASCII has its value. -/
theorem digitValue?_of_isDigit {c : Char} (h : c.isDigit = true) :
    digitValue? c = some (c.toNat - '0'.toNat) := by
  obtain ⟨hlow, hhigh⟩ := isDigit_iff.mp h
  have hzero : (0x30 ≤ c.toNat && c.toNat < 0x30 + 10) = true := by
    simp only [Bool.and_eq_true, decide_eq_true_eq]
    omega
  obtain ⟨others, hfirst⟩ : ∃ others, zeroDigits = 0x30 :: others := ⟨_, rfl⟩
  rw [digitValue?, hfirst, List.find?_cons, hzero]
  rfl

/-- The digits of a number stand for it. -/
theorem digitsValue_natText (number : Nat) : digitsValue (natText number) = number := by
  have hfold := @Nat.ofDigitChars_ten_toDigits number
  rw [Nat.ofDigitChars_eq_foldl] at hfold
  refine Eq.trans (List.foldl_ext _ _ _ fun sum c hc => ?_) hfold
  rw [digitValue?_of_isDigit (isDigit_of_mem_natText hc)]
  rfl

/-- A smaller number has no more digits. -/
theorem length_natText_le {number bound : Nat} (h : number ≤ bound) :
    (natText number).length ≤ (natText bound).length := by
  have hpos : 0 < (natText bound).length := Nat.length_toDigits_pos
  have hbound := (Nat.length_toDigits_le_iff (by decide) hpos).mp (Nat.le_refl _)
  exact (Nat.length_toDigits_le_iff (by decide) hpos).mpr (Nat.lt_of_le_of_lt h hbound)

/-- The digits of a placeholder are those of its number. -/
theorem placeholderDigits_placeholderText (number : Nat) :
    placeholderDigits (placeholderText number) = natText number := by
  simp [placeholderDigits, placeholderText]

/-- The literal with a number is found by its digits. -/
theorem literalAt_natText {literals : List Text} {number : Nat} {text : Text}
    (h : literals[number]? = some text) : literalAt literals (natText number) = .ok text := by
  obtain ⟨hlt, _⟩ := List.getElem?_eq_some_iff.mp h
  have hlength := length_natText_le (Nat.le_of_lt hlt)
  have hread : ¬ max mostDigits (natText literals.length).length < (natText number).length := by
    omega
  rw [literalAt, if_neg hread]
  simp only [digitsValue_natText, h]

/-! ## Finding placeholders -/

/-- What stands before a placeholder does not matter to it. -/
theorem placeholder_blind : placeholder.Blind := by
  intro before text
  cases text <;> rfl

/-- A placeholder is found with anything behind it. -/
theorem placeholder_placeholderText (number : Nat) (rest : Text) :
    placeholder none (placeholderText number ++ rest) = some (placeholderText number) := by
  have hdigits : ∀ c ∈ natText number, isDigit c = true := by
    intro c hc
    rw [isDigit, digitValue?_of_isDigit (isDigit_of_mem_natText hc)]
    rfl
  have hmark : isDigit placeholderMark = false := by decide
  have htake : (natText number ++ placeholderMark :: rest).takeWhile isDigit = natText number := by
    rw [List.takeWhile_append_of_pos hdigits]
    simp [hmark]
  have hdrop : (natText number ++ placeholderMark :: rest).dropWhile isDigit
      = placeholderMark :: rest := by
    rw [List.dropWhile_append_of_pos hdigits]
    simp [hmark]
  have hne : natText number ≠ [] := Nat.toDigits_ne_nil
  simp [placeholderText, placeholder, List.span_eq_takeWhile_dropWhile, htake, hdrop, hne]

/-- No placeholder begins with another character than its mark. -/
theorem pieces_placeholder_plain {c : Char} (h : c ≠ placeholderMark) (rest : Text) :
    pieces placeholder (c :: rest) = .plain c :: pieces placeholder rest := by
  refine placeholder_blind.pieces_plain ?_
  simp [placeholder, h]

/-- A placeholder is found whole. -/
theorem pieces_placeholderText (number : Nat) (rest : Text) :
    pieces placeholder (placeholderText number ++ rest)
      = .lexeme (placeholderText number) rest :: pieces placeholder rest :=
  placeholder_blind.pieces_lexeme (List.cons_ne_nil _ _) (placeholder_placeholderText number rest)

/-- The placeholders of a line are those that its literals were exchanged for. -/
theorem filterMap_pieces_placeholder {line : Text} (hline : placeholderMark ∉ line)
    (number : Nat) :
    (pieces placeholder (numberLexemes number (pieces literal line))).filterMap Piece.lexeme?
      = (List.range' number ((pieces literal line).filterMap Piece.lexeme?).length).map
          placeholderText := by
  induction line using literal_induction generalizing number with
  | nil => rfl
  | plain c rest hnone ih =>
      obtain ⟨hc, hrest⟩ := not_or.mp (mt List.mem_cons.mpr hline)
      rw [literal_blind.pieces_plain hnone, numberLexemes, pieces_placeholder_plain (Ne.symm hc)]
      exact ih hrest number
  | quoted found rest hfound ih =>
      have hrest : placeholderMark ∉ rest := mt (List.mem_append_right found) hline
      rw [literal_blind.pieces_lexeme (literal_ne_nil hfound) hfound, numberLexemes,
        pieces_placeholderText]
      exact congrArg (placeholderText number :: ·) (ih hrest (number + 1))

/-! ## Giving literals back -/

section Restore

variable {literals : List Text}

/-- The first piece is given back in front of the others. -/
theorem restoreLiterals_cons {piece : Piece} {text rest part line : Text}
    (htext : pieces placeholder text = piece :: pieces placeholder rest)
    (hpiece : restorePiece literals piece = .ok part)
    (hrest : restoreLiterals literals rest = .ok line) :
    restoreLiterals literals text = .ok (part ++ line) := by
  unfold restoreLiterals at hrest ⊢
  rw [htext, List.mapM_cons, hpiece]
  cases hparts : (pieces placeholder rest).mapM (restorePiece literals) with
  | error fault =>
      rw [hparts] at hrest
      cases hrest
  | ok parts =>
      rw [hparts] at hrest
      exact congrArg (fun line => Except.ok (part ++ line)) (Except.ok.inj hrest)

/-- A character that is no mark stays as it is. -/
theorem restoreLiterals_plain {c : Char} (h : c ≠ placeholderMark) {rest line : Text}
    (hrest : restoreLiterals literals rest = .ok line) :
    restoreLiterals literals (c :: rest) = .ok (c :: line) :=
  restoreLiterals_cons (pieces_placeholder_plain h rest) rfl hrest

/-- A placeholder gives its literal back. -/
theorem restoreLiterals_placeholderText {number : Nat} {text : Text}
    (h : literals[number]? = some text) {rest line : Text}
    (hrest : restoreLiterals literals rest = .ok line) :
    restoreLiterals literals (placeholderText number ++ rest) = .ok (text ++ line) := by
  refine restoreLiterals_cons (pieces_placeholderText number rest) ?_ hrest
  rw [restorePiece, placeholderDigits_placeholderText, literalAt_natText h]

end Restore

/-- The literals of a line give it back, also behind the literals of what stands before. -/
theorem restoreLiterals_numberLexemes {line : Text} (hline : placeholderMark ∉ line)
    (before : List Text) :
    restoreLiterals (before ++ (pieces literal line).filterMap Piece.lexeme?)
      (numberLexemes before.length (pieces literal line)) = .ok line := by
  induction line using literal_induction generalizing before with
  | nil => rfl
  | plain c rest hnone ih =>
      obtain ⟨hc, hrest⟩ := not_or.mp (mt List.mem_cons.mpr hline)
      rw [literal_blind.pieces_plain hnone]
      exact restoreLiterals_plain (Ne.symm hc) (ih hrest before)
  | quoted found rest hfound ih =>
      have hrest : placeholderMark ∉ rest := mt (List.mem_append_right found) hline
      rw [literal_blind.pieces_lexeme (literal_ne_nil hfound) hfound]
      have hbehind := ih hrest (before ++ [found])
      rw [List.append_assoc, List.length_append] at hbehind
      exact restoreLiterals_placeholderText (by simp [Piece.lexeme?]) hbehind

/-! ## Quotes that are never closed -/

/-- The characters of a placeholder are its marks and digits. -/
theorem ne_of_mem_placeholderText {number : Nat} {c d : Char} (h : c ∈ placeholderText number)
    (hdigit : d.isDigit = false) (hmark : placeholderMark ≠ d) : c ≠ d := by
  rintro rfl
  simp only [placeholderText, List.cons_append, List.mem_cons, List.mem_append,
    List.not_mem_nil, or_false] at h
  rcases h with rfl | hmem | rfl
  · exact hmark rfl
  · rw [isDigit_of_mem_natText hmem] at hdigit
    cases hdigit
  · exact hmark rfl

section Unclosed

variable {quote : Char}

/-- A literal ends with its quote, and goes on with any other character but a backslash. -/
theorem closeLiteral?_cons {c : Char} (h : c ≠ '\\') (rest : Text) :
    closeLiteral? quote (c :: rest)
      = if c = quote then some [c] else (closeLiteral? quote rest).map (c :: ·) := by
  rw [closeLiteral?]
  · rw [if_neg h]
  · exact fun _ _ hc => absurd hc h

/-- A character that does not close a literal is not the quote, and nothing behind it closes
the literal. -/
theorem closeLiteral?_of_cons {c : Char} (h : c ≠ '\\') {rest : Text}
    (hopen : closeLiteral? quote (c :: rest) = none) :
    c ≠ quote ∧ closeLiteral? quote rest = none := by
  rw [closeLiteral?_cons h] at hopen
  split at hopen
  · cases hopen
  · next hc => exact ⟨hc, Option.map_eq_none_iff.mp hopen⟩

/-- A character that is escaped is passed over, if it does not break the line. -/
theorem closeLiteral?_escaped {c : Char} (h : c ≠ '\n') (rest : Text) :
    closeLiteral? quote ('\\' :: c :: rest) = none ↔ closeLiteral? quote rest = none := by
  rw [closeLiteral?, if_neg h, Option.map_eq_none_iff]

/-- Characters that are neither a backslash nor the quote do not close a literal. -/
theorem closeLiteral?_append {part rest : Text} (hpart : ∀ c ∈ part, c ≠ '\\' ∧ c ≠ quote)
    (hopen : closeLiteral? quote rest = none) : closeLiteral? quote (part ++ rest) = none := by
  induction part with
  | nil => exact hopen
  | cons c part ih =>
      obtain ⟨⟨hslash, hother⟩, hmore⟩ := List.forall_mem_cons.mp hpart
      rw [List.cons_append, closeLiteral?_cons hslash, if_neg hother, ih hmore]
      rfl

/-- What a quote does not close with the body of another literal in front, it does not close
behind that: both walks escape the same characters. -/
theorem closeLiteral?_behind {other : Char} (hother : other ≠ '\\') {body rest : Text}
    (hclosed : closeLiteral? other (body ++ rest) = some body)
    (hopen : closeLiteral? quote (body ++ rest) = none) : closeLiteral? quote rest = none := by
  generalize htext : body ++ rest = text at hclosed hopen
  fun_induction closeLiteral? other text generalizing body with
  | case1 => cases hclosed
  | case2 => cases hclosed
  | case3 c text hc ih =>
      obtain ⟨more, hmore, rfl⟩ := Option.map_eq_some_iff.mp hclosed
      exact ih (by simpa using htext) hmore ((closeLiteral?_escaped hc text).mp hopen)
  | case4 text hplain =>
      obtain rfl := Option.some.inj hclosed
      obtain rfl := (List.cons.inj htext).2
      exact (closeLiteral?_of_cons hother hopen).2
  | case5 => cases hclosed
  | case6 c text hescape hc hslash ih =>
      obtain ⟨more, hmore, rfl⟩ := Option.map_eq_some_iff.mp hclosed
      exact ih (by simpa using htext) hmore (closeLiteral?_of_cons hslash hopen).2

/-- A quote that nothing closes in a line is not closed where the literals of the line are
exchanged, with a backslash in front or without.  A backslash takes the next character with it, so
each of the two statements needs the other behind it. -/
theorem closeLiteral?_numberLexemes (hquote : quote = '"' ∨ quote = '\'') (line : Text) :
    (∀ number, closeLiteral? quote line = none →
      closeLiteral? quote (numberLexemes number (pieces literal line)) = none) ∧
    ∀ number, closeLiteral? quote ('\\' :: line) = none →
      closeLiteral? quote ('\\' :: numberLexemes number (pieces literal line)) = none := by
  induction line using literal_induction with
  | nil => exact ⟨fun _ => id, fun _ => id⟩
  | plain c rest hnone ih =>
      obtain ⟨ihPlain, ihEscaped⟩ := ih
      rw [literal_blind.pieces_plain hnone]
      constructor
      · intro number hopen
        by_cases hc : c = '\\'
        · subst hc
          exact ihEscaped number hopen
        · obtain ⟨hother, hrest⟩ := closeLiteral?_of_cons hc hopen
          rw [numberLexemes, closeLiteral?_cons hc, if_neg hother, ihPlain number hrest]
          rfl
      · intro number hopen
        rw [numberLexemes]
        by_cases hc : c = '\n'
        · rw [closeLiteral?, if_pos hc]
        · exact (closeLiteral?_escaped hc _).mpr
            (ihPlain number ((closeLiteral?_escaped hc rest).mp hopen))
  | quoted found rest hfound ih =>
      obtain ⟨other, body, rfl, hother, hclosed⟩ := exists_of_literal hfound
      have hslash : other ≠ '\\' := by rcases hother with rfl | rfl <;> decide
      have hfeed : other ≠ '\n' := by rcases hother with rfl | rfl <;> decide
      have hplaceholder : ∀ number, ∀ c ∈ placeholderText number, c ≠ '\\' ∧ c ≠ quote := by
        intro number c hc
        refine ⟨ne_of_mem_placeholderText hc (by decide) (by decide), ?_⟩
        rcases hquote with rfl | rfl
        · exact ne_of_mem_placeholderText hc (by decide) (by decide)
        · exact ne_of_mem_placeholderText hc (by decide) (by decide)
      rw [literal_blind.pieces_lexeme (literal_ne_nil hfound) hfound]
      constructor
      · intro number hopen
        have hbody := (closeLiteral?_of_cons hslash hopen).2
        have hrest := closeLiteral?_behind hslash hclosed hbody
        exact closeLiteral?_append (hplaceholder number) (ih.1 (number + 1) hrest)
      · intro number hopen
        have hbody := (closeLiteral?_escaped hfeed _).mp hopen
        have hrest := closeLiteral?_behind hslash hclosed hbody
        have hdigits := (List.forall_mem_cons.mp (hplaceholder number)).2
        exact (closeLiteral?_escaped (by decide) _).mpr
          (closeLiteral?_append hdigits (ih.1 (number + 1) hrest))

end Unclosed

/-- No literal is found in a line whose literals were exchanged. -/
theorem pieces_literal_numberLexemes (line : Text) (number : Nat) :
    pieces literal (numberLexemes number (pieces literal line))
      = (numberLexemes number (pieces literal line)).map .plain := by
  induction line using literal_induction generalizing number with
  | nil => rfl
  | plain c rest hnone ih =>
      rw [literal_blind.pieces_plain hnone, numberLexemes, literal_blind.pieces_plain, ih]
      · rfl
      · simp only [literal, Bool.or_eq_true, decide_eq_true_eq] at hnone ⊢
        split
        · next hquote =>
            rw [if_pos hquote, Option.map_eq_none_iff] at hnone
            rw [(closeLiteral?_numberLexemes hquote rest).1 number hnone]
            rfl
        · rfl
  | quoted found rest hfound ih =>
      have hunquoted : Unquoted (placeholderText number) := fun c hc =>
        ⟨ne_of_mem_placeholderText hc (by decide) (by decide),
          ne_of_mem_placeholderText hc (by decide) (by decide)⟩
      rw [literal_blind.pieces_lexeme (literal_ne_nil hfound) hfound, numberLexemes,
        hunquoted.pieces_append, ih, List.map_append]

/-! ## Extraction -/

/-- Where no literal is found, nothing is exchanged. -/
theorem extractLiterals_eq {line : Text} (h : pieces literal line = line.map .plain) :
    extractLiterals line = ⟨line, []⟩ := by
  have hplain := numberLexemes_plain_append 0 line []
  have hnone := occurrencesFrom_plain_append 0 line []
  rw [List.append_nil] at hplain hnone
  rw [extractLiterals, occurrences, h, hplain, hnone]
  exact congrArg (Extracted.mk · []) (List.append_nil line)

/-- **Extraction loses nothing and leaves nothing.** From a line without marks of placeholders
the literals are taken so that they can be put back; the placeholders that are found in the new
line are numbered from zero, one for each literal, in order; and no literal is found in it. -/
theorem extractLiterals_lossless {line : Text} (hline : placeholderMark ∉ line) :
    restoreLiterals (extractLiterals line).literals (extractLiterals line).line = .ok line ∧
      (occurrences placeholder (extractLiterals line).line).map (·.text)
        = (List.range (extractLiterals line).literals.length).map placeholderText ∧
      extractLiterals (extractLiterals line).line = ⟨(extractLiterals line).line, []⟩ := by
  have hliterals : (extractLiterals line).literals
      = (pieces literal line).filterMap Piece.lexeme? := map_text_occurrencesFrom 0 _
  refine ⟨?_, ?_, ?_⟩
  · rw [hliterals]
    exact restoreLiterals_numberLexemes hline []
  · rw [hliterals, occurrences, map_text_occurrencesFrom, List.range_eq_range']
    exact filterMap_pieces_placeholder hline 0
  · exact extractLiterals_eq (pieces_literal_numberLexemes line 0)

/-- A line with both quotes, one of them escaped and one that stays open, between digits. -/
def unbalancedLine : Text :=
  "a0\"b\\\"c\"1'd\"'\\\"e".toList

/-- Two literals are taken from it, and the quote that stays open is left. -/
theorem extractLiterals_lossless_unbalanced :
    placeholderMark ∉ unbalancedLine ∧
      extractLiterals unbalancedLine
        = ⟨"a0\x000\x001\x001\x00\\\"e".toList,
            ["\"b\\\"c\"".toList, "'d\"'".toList]⟩ ∧
      restoreLiterals (extractLiterals unbalancedLine).literals
        (extractLiterals unbalancedLine).line = .ok unbalancedLine ∧
      (occurrences placeholder (extractLiterals unbalancedLine).line).map (·.text)
        = ["\x000\x00".toList, "\x001\x00".toList] ∧
      extractLiterals (extractLiterals unbalancedLine).line
        = ⟨(extractLiterals unbalancedLine).line, []⟩ := by
  have hline : placeholderMark ∉ unbalancedLine := by decide
  have hcount : (extractLiterals unbalancedLine).literals.length = 2 := by decide
  obtain ⟨hrestored, hfound, hagain⟩ := extractLiterals_lossless hline
  rw [hcount] at hfound
  exact ⟨hline, by decide, hrestored, hfound, hagain⟩

end Flowchart
