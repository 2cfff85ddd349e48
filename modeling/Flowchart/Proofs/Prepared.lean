import Flowchart.Proofs.Identifier
import Flowchart.Proofs.Shape
import Flowchart.Proofs.Text
import Flowchart.Token.Prepared

/-!
# What preparation leaves alone

A line without quotes keeps all its characters when literals are extracted, and
a line without three colons in a row keeps them when class tags are dropped.
Where a line is put together from parts, tags are dropped from each part alone
if what stands between them ends every tag.

Conversely a part of a prepared line that can neither belong to a placeholder nor
hold a bracket is a part of the line itself, if there are no tags to drop.
-/

namespace Flowchart

/-- The text has no quotes. -/
def Unquoted (text : Text) : Prop :=
  ∀ c ∈ text, c ≠ '"' ∧ c ≠ '\''

/-- The empty text has no quotes. -/
theorem Unquoted.nil : Unquoted [] := nofun

/-- No three colons follow each other in the text. -/
def Untagged (text : Text) : Prop :=
  ¬ ":::".toList <:+: text

instance (text : Text) : Decidable (Untagged text) :=
  decidable_of_iff (¬ contains ":::".toList text = true) (not_congr contains_iff_infix)

/-- A part of a text without three colons in a row has none. -/
theorem Untagged.of_infix {part text : Text} (h : Untagged text) (hpart : part <:+: text) :
    Untagged part :=
  fun hcolons => h (hcolons.trans hpart)

/-! ## Characters outside of shapes and literals -/

/-- The characters that belong to shapes and literals. -/
def enclosers : List Char :=
  ['[', ']', '(', ')', '\x7b', '\x7d', '"', '\'']

/-- No character of the text belongs to a shape or a literal. -/
def Neutral (text : Text) : Prop :=
  ∀ c ∈ text, c ∉ enclosers

/-- Two texts that belong to no shape and to no literal belong to none together. -/
theorem Neutral.append {text rest : Text} (h : Neutral text) (hrest : Neutral rest) :
    Neutral (text ++ rest) :=
  List.forall_mem_append.mpr ⟨h, hrest⟩

/-- A text that belongs to no literal has no quotes. -/
theorem Neutral.unquoted {text : Text} (h : Neutral text) : Unquoted text := by
  intro c hc
  have hneutral := h c hc
  constructor
  · rintro rfl
    exact hneutral (by decide)
  · rintro rfl
    exact hneutral (by decide)

/-- A text that belongs to no shape has no brackets. -/
theorem Neutral.isBracket_of_mem {text : Text} (h : Neutral text) {c : Char} (hc : c ∈ text) :
    isBracket c = false := by
  have hneutral := h c hc
  simp only [enclosers, List.mem_cons, List.not_mem_nil, or_false, not_or] at hneutral
  simp [isBracket, isOpener, isCloser, hneutral]

/-- A text that belongs to no shape has no opening brackets. -/
theorem Neutral.isOpener_of_mem {text : Text} (h : Neutral text) {c : Char} (hc : c ∈ text) :
    isOpener c = false :=
  isOpener_of_not_bracket (h.isBracket_of_mem hc)

/-- Blanks belong to no shape and to no literal. -/
theorem Blanks.neutral {text : Text} (h : Blanks text) : Neutral text := by
  have hall : ∀ c ∈ enclosers, isBlank c = false := forall_mem_of_all rfl
  intro c hc hmem
  have hblank := h c hc
  rw [hall c hmem] at hblank
  cases hblank

/-- No blank is a colon. -/
theorem Blanks.ne_colon {blanks : Text} (h : Blanks blanks) : ∀ c ∈ blanks, c ≠ ':' := by
  rintro c hc rfl
  exact absurd (h ':' hc) (by decide)

/-- A name belongs to no shape and to no literal. -/
theorem IsName.neutral {id : Text} (h : IsName id) : Neutral id := by
  have hall : ∀ c ∈ enclosers, isNameChar c = false ∧ c ≠ '-' := forall_mem_of_all rfl
  intro c hc hmem
  obtain ⟨hnot, hhyphen⟩ := hall c hmem
  rcases h.of_mem hc with hname | rfl
  · rw [hnot] at hname
    cases hname
  · exact hhyphen rfl

/-! ## String literals -/

/-- What stands before a literal does not matter to it. -/
theorem literal_blind : literal.Blind := by
  intro before text
  cases text <;> rfl

/-- Characters between lexemes keep their place and use up no number. -/
theorem numberLexemes_plain_append (number : Nat) (part : Text) (rest : List Piece) :
    numberLexemes number (part.map .plain ++ rest) = part ++ numberLexemes number rest := by
  induction part with
  | nil => rfl
  | cons c part ih => rw [List.map_cons, List.cons_append, numberLexemes, ih, List.cons_append]

/-- In a part without quotes no literal begins. -/
theorem Unquoted.pieces_append {part : Text} (h : Unquoted part) (rest : Text) :
    pieces literal (part ++ rest) = part.map .plain ++ pieces literal rest := by
  refine literal_blind.pieces_append fun front c back hpart => ?_
  have hc := h c (by simp [hpart])
  simp [literal, hc.1, hc.2]

/-- Nothing is extracted from a line without quotes. -/
theorem Unquoted.extractLiterals_line {line : Text} (h : Unquoted line) :
    (extractLiterals line).line = line := by
  have hpieces := h.pieces_append []
  rw [List.append_nil] at hpieces
  simp only [extractLiterals, hpieces]
  exact (numberLexemes_plain_append 0 line []).trans (List.append_nil line)

/-! ## Class tags -/

/-- Behind three colons a tag goes as far as the characters of class names do. -/
theorem classTag_colons (before : Option Char) (rest : Text) :
    classTag before (':' :: ':' :: ':' :: rest)
      = if (rest.takeWhile isTagChar).isEmpty then none
        else some (':' :: ':' :: ':' :: rest.takeWhile isTagChar) := rfl

/-- No tag begins but with three colons. -/
theorem classTag_eq_none {before : Option Char} {text : Text}
    (h : ∀ rest, text ≠ ':' :: ':' :: ':' :: rest) : classTag before text = none := by
  unfold classTag
  split
  · exact absurd rfl (h _)
  · rfl

/-- What stands before a tag does not matter to it. -/
theorem classTag_blind : classTag.Blind := by
  intro before text
  by_cases hcolons : ∃ rest, text = ':' :: ':' :: ':' :: rest
  · obtain ⟨rest, rfl⟩ := hcolons
    rfl
  · have hnone : ∀ rest, text ≠ ':' :: ':' :: ':' :: rest := by
      intro rest htext
      exact hcolons ⟨rest, htext⟩
    rw [classTag_eq_none hnone, classTag_eq_none hnone]

/-- A tag is three colons and the class name behind them. -/
theorem of_classTag {before : Option Char} {text tag : Text}
    (h : classTag before text = some tag) :
    ∃ rest, text = ':' :: ':' :: ':' :: rest ∧
      tag = ':' :: ':' :: ':' :: rest.takeWhile isTagChar := by
  by_cases hcolons : ∃ rest, text = ':' :: ':' :: ':' :: rest
  · obtain ⟨rest, rfl⟩ := hcolons
    rw [classTag_colons] at h
    split at h
    · cases h
    · exact ⟨rest, rfl, (Option.some.inj h).symm⟩
  · rw [classTag_eq_none fun rest htext => hcolons ⟨rest, htext⟩] at h
    cases h

/-- A tag is a front part of the text in which it is found. -/
theorem classTag_sound : classTag.Sound := by
  intro before text tag h
  obtain ⟨rest, rfl, rfl⟩ := of_classTag h
  simpa using List.takeWhile_prefix isTagChar

/-- A tag is not empty. -/
theorem classTag_ne_nil {before : Option Char} {text tag : Text}
    (h : classTag before text = some tag) : tag ≠ [] := by
  obtain ⟨rest, _, rfl⟩ := of_classTag h
  exact List.cons_ne_nil _ _

/-- The empty text has no tags to drop. -/
theorem dropClassTags_nil : dropClassTags [] = [] := rfl

/-- A tag at the front is dropped. -/
theorem dropClassTags_tag {tag rest : Text} (h : classTag none (tag ++ rest) = some tag) :
    dropClassTags (tag ++ rest) = dropClassTags rest := by
  unfold dropClassTags
  rw [classTag_blind.replaceEach_lexeme _ (classTag_ne_nil h) h, List.nil_append]

/-- A part without three colons keeps its characters in front of anything but one more colon.  The
third colon of a tag would lie in the part itself, or begin the rest. -/
theorem Untagged.dropClassTags_append {part rest : Text} (h : Untagged part)
    (hrest : rest.head? ≠ some ':') :
    dropClassTags (part ++ rest) = part ++ dropClassTags rest := by
  refine classTag_blind.replaceEach_append _ fun front c back hpart => ?_
  refine classTag_eq_none fun behind hcolons => ?_
  cases back with
  | nil => exact hrest (by simp_all)
  | cons d back =>
      cases back with
      | nil => exact hrest (by simp_all)
      | cons e back =>
          refine h ⟨front, back, ?_⟩
          simp_all

/-- A text without three colons keeps its characters. -/
theorem Untagged.dropClassTags_eq {text : Text} (h : Untagged text) :
    dropClassTags text = text := by
  have happend := @Untagged.dropClassTags_append text [] h nofun
  simpa [dropClassTags_nil] using happend

/-- A part without colons keeps its characters, whatever follows. -/
theorem dropClassTags_append_of_no_colon {part : Text} (h : ∀ c ∈ part, c ≠ ':')
    (rest : Text) : dropClassTags (part ++ rest) = part ++ dropClassTags rest := by
  refine classTag_blind.replaceEach_append _ fun front c back hpart => ?_
  have hc : c ≠ ':' := h c (by simp [hpart])
  exact classTag_eq_none fun behind hcolons => hc (List.cons.inj hcolons).1

/-- Dropping tags adds no character. -/
theorem mem_of_mem_dropClassTags {text : Text} {c : Char} (h : c ∈ dropClassTags text) :
    c ∈ text := by
  unfold dropClassTags replaceEach at h
  obtain ⟨piece, hpiece, hc⟩ := List.mem_flatMap.mp h
  cases piece with
  | plain d =>
      obtain rfl := List.mem_singleton.mp hc
      exact mem_of_plain_mem_piecesFrom hpiece
  | lexeme tag rest => cases hc

/-- A character that ends every tag. -/
def EndsTag (c : Char) : Prop :=
  c ≠ ':' ∧ isTagChar c = false

/-- A tag is found in front of a character that ends it as it is by itself. -/
theorem classTag_append {c : Char} (hends : EndsTag c) (d : Char) (part rest : Text) :
    classTag none (d :: part ++ c :: rest) = classTag none (d :: part) := by
  have htake : ∀ behind : Text,
      (behind ++ c :: rest).takeWhile isTagChar = behind.takeWhile isTagChar := by
    intro behind
    induction behind with
    | nil => simp [hends.2]
    | cons e behind ih => simp [List.takeWhile_cons, ih]
  by_cases hcolons : ∃ behind, d :: part = ':' :: ':' :: ':' :: behind
  · obtain ⟨behind, hpart⟩ := hcolons
    rw [hpart, List.cons_append, List.cons_append, List.cons_append, classTag_colons,
      classTag_colons, htake]
  · rw [classTag_eq_none, classTag_eq_none]
    · intro behind hpart
      exact hcolons ⟨behind, hpart⟩
    · intro behind hpart
      have hc := hends.1
      cases part with
      | nil => simp_all
      | cons e part =>
          cases part with
          | nil => simp_all
          | cons f part => exact hcolons ⟨part, by simp_all⟩

/-- A character with which no tag begins is kept. -/
theorem dropClassTags_cons {c : Char} {rest : Text} (h : classTag none (c :: rest) = none) :
    dropClassTags (c :: rest) = c :: dropClassTags rest := by
  refine @Recogniser.Blind.replaceEach_append _ classTag_blind _ [c] rest
    fun front d back hpart => ?_
  cases front with
  | nil =>
      obtain ⟨rfl, rfl⟩ := List.cons.inj hpart
      exact h
  | cons e front => simp at hpart

/-- To prove something of a text, take it apart as its tags are dropped: into plain
characters and tags. -/
theorem dropClassTags_induction {motive : Text → Prop} (nil : motive [])
    (plain : ∀ c rest, classTag none (c :: rest) = none → motive rest → motive (c :: rest))
    (tag : ∀ tag rest, classTag none (tag ++ rest) = some tag → motive rest →
      motive (tag ++ rest))
    (text : Text) : motive text :=
  classTag_sound.induction (fun _ _ => classTag_ne_nil) nil plain tag text

/-- Tags are dropped on both sides of a character that ends them. -/
theorem dropClassTags_append_cons {c : Char} (hends : EndsTag c) (part rest : Text) :
    dropClassTags (part ++ c :: rest) = dropClassTags part ++ c :: dropClassTags rest := by
  induction part using dropClassTags_induction with
  | nil =>
      have hnone : classTag none (c :: rest) = none :=
        classTag_eq_none fun behind hcolons => hends.1 (List.cons.inj hcolons).1
      rw [List.nil_append, dropClassTags_cons hnone, dropClassTags_nil, List.nil_append]
  | plain d part hplain ih =>
      have happend := classTag_append hends d part rest
      rw [hplain, List.cons_append] at happend
      rw [List.cons_append, dropClassTags_cons happend, dropClassTags_cons hplain, ih]
      rfl
  | tag tag part hfound ih =>
      obtain ⟨d, name, rfl⟩ := List.exists_cons_of_ne_nil (classTag_ne_nil hfound)
      have happend := classTag_append hends d (name ++ part) rest
      rw [← List.cons_append, hfound, List.append_assoc] at happend
      rw [List.append_assoc, dropClassTags_tag happend, dropClassTags_tag hfound, ih]

/-! ## Parts of a prepared line -/

/-- The text can neither overlap a placeholder nor hold a bracket. -/
structure Uncut (part : Text) : Prop where
  /-- The text is not empty. -/
  ne_nil : part ≠ []
  /-- It does not begin with a digit. -/
  head : ∀ c, part.head? = some c → c.isDigit = false
  /-- It holds no mark of a placeholder. -/
  unmarked : ∀ c ∈ part, c ≠ placeholderMark
  /-- It holds no bracket. -/
  unbracketed : ∀ c ∈ part, isBracket c = false

/-- What closes a literal is a front part of the text. -/
theorem prefix_of_closeLiteral? {quote : Char} {text found : Text}
    (h : closeLiteral? quote text = some found) : found <+: text := by
  fun_induction closeLiteral? quote text generalizing found with
  | case1 => cases h
  | case2 => cases h
  | case3 c rest _ ih =>
      obtain ⟨more, hmore, rfl⟩ := Option.map_eq_some_iff.mp h
      simpa using ih hmore
  | case4 c rest =>
      obtain rfl := Option.some.inj h
      simp
  | case5 => cases h
  | case6 c rest _ _ _ ih =>
      obtain ⟨more, hmore, rfl⟩ := Option.map_eq_some_iff.mp h
      simpa using ih hmore

/-- A literal is a front part of the text in which it is found. -/
theorem literal_sound : literal.Sound := by
  intro before text found h
  cases text with
  | nil => cases h
  | cons c rest =>
      simp only [literal] at h
      split at h
      · obtain ⟨more, hmore, rfl⟩ := Option.map_eq_some_iff.mp h
        exact List.cons_prefix_cons.mpr ⟨rfl, prefix_of_closeLiteral? hmore⟩
      · cases h

/-- A part that begins with none of the characters in front stands behind them. -/
theorem infix_of_append {part front rest : Text} (hne : part ≠ [])
    (hfront : ∀ c ∈ front, part.head? ≠ some c) (h : part <:+: front ++ rest) :
    part <:+: rest := by
  induction front with
  | nil => exact h
  | cons c front ih =>
      rcases List.infix_cons_iff.mp h with hstart | hwithin
      · rcases List.prefix_cons_iff.mp hstart with hnil | ⟨more, hpart, _⟩
        · exact absurd hnil hne
        · exact absurd (by rw [hpart]; rfl) (hfront c List.mem_cons_self)
      · exact ih (fun d hd => hfront d (List.mem_cons_of_mem c hd)) hwithin

/-- No uncut text begins in a placeholder. -/
theorem Uncut.head?_ne {part : Text} (h : Uncut part) (number : Nat) :
    ∀ c ∈ placeholderText number, part.head? ≠ some c := by
  intro c hc hhead
  have hmem : c ∈ part := List.mem_of_mem_head? hhead
  simp only [placeholderText, List.cons_append, List.mem_cons, List.mem_append,
    List.not_mem_nil, or_false] at hc
  rcases hc with rfl | hdigit | rfl
  · exact h.unmarked _ hmem rfl
  · have hnot := h.head c hhead
    rw [Nat.isDigit_of_mem_toDigits (by decide) (by decide) hdigit] at hnot
    cases hnot
  · exact h.unmarked _ hmem rfl

/-- Placeholders hide nothing that stands outside of them. -/
theorem infix_of_numberLexemes {part : Text} (h : Uncut part) {number : Nat}
    {cut : List Piece} (hwithin : part <:+: numberLexemes number cut) :
    part <:+: cut.flatMap Piece.text := by
  have hstart : ∀ (part : Text) (number : Nat) (cut : List Piece),
      (∀ c ∈ part, c ≠ placeholderMark) → part <+: numberLexemes number cut →
      part <+: cut.flatMap Piece.text := by
    intro part number cut hunmarked hfront
    induction cut generalizing part number with
    | nil => exact hfront
    | cons piece cut ih =>
        cases part with
        | nil => exact List.nil_prefix
        | cons d part =>
            cases piece with
            | plain c =>
                obtain ⟨rfl, hrest⟩ := List.cons_prefix_cons.mp hfront
                have htail := ih part number
                  (fun e he => hunmarked e (List.mem_cons_of_mem d he)) hrest
                exact List.cons_prefix_cons.mpr ⟨rfl, htail⟩
            | lexeme text rest =>
                obtain ⟨rfl, _⟩ := List.cons_prefix_cons.mp hfront
                exact absurd rfl (hunmarked _ List.mem_cons_self)
  induction cut generalizing number with
  | nil => exact hwithin
  | cons piece cut ih =>
      cases piece with
      | plain c =>
          rcases List.infix_cons_iff.mp hwithin with hfront | hrest
          · exact (hstart part number (.plain c :: cut) h.unmarked hfront).isInfix
          · exact (ih hrest).trans (List.suffix_cons c _).isInfix
      | lexeme text rest =>
          have hbehind := infix_of_append h.ne_nil (h.head?_ne number) hwithin
          exact (ih hbehind).trans (List.suffix_append text _).isInfix

/-- What stands in a masked line stands in the line. -/
theorem Uncut.infix_of_masked {part line : Text} (h : Uncut part)
    (hwithin : part <:+: maskShapes (extractLiterals line).line) : part <:+: line := by
  have hextracted := infix_of_numberLexemes h (infix_of_maskFrom hwithin h.unbracketed)
  rwa [pieces, literal_sound.flatMap_text, List.drop_zero] at hextracted

/-- Behind a tag that was dropped no character stands that could go on a class name. -/
theorem isTagChar_of_head?_dropClassTags {tag rest : Text}
    (h : classTag none (tag ++ rest) = some tag) {c : Char}
    (hc : (dropClassTags rest).head? = some c) : isTagChar c = false := by
  induction rest using dropClassTags_induction generalizing tag with
  | nil => cases hc
  | plain d rest hnone _ =>
      rw [dropClassTags_cons hnone] at hc
      obtain rfl := Option.some.inj hc
      obtain ⟨name, hname, htag⟩ := of_classTag h
      have hdrop : name.dropWhile isTagChar = d :: rest := by
        have hsplit := @List.takeWhile_append_dropWhile _ isTagChar name
        rw [htag] at hname
        simp only [List.cons_append, List.cons.injEq, true_and] at hname
        exact (List.append_cancel_left (hname.trans hsplit.symm)).symm
      have hhead := List.head?_dropWhile_not isTagChar name
      rw [hdrop] at hhead
      simpa using hhead
  | tag found rest hfound ih =>
      rw [dropClassTags_tag hfound] at hc
      exact ih hfound hc

/-- What stands at the front without its tags stood there before, if no tag did and all its
characters could go on a class name.  Behind a tag nothing goes on such a part, so it ends before
the first tag. -/
theorem prefix_of_dropClassTags {part text : Text} (hpart : ∀ c ∈ part, isTagChar c = true)
    (hplain : classTag none text = none) (h : part <+: dropClassTags text) : part <+: text := by
  induction part generalizing text with
  | nil => exact List.nil_prefix
  | cons d part ih =>
      cases text with
      | nil => exact h
      | cons c rest =>
          rw [dropClassTags_cons hplain] at h
          obtain ⟨rfl, hrest⟩ := List.cons_prefix_cons.mp h
          refine List.cons_prefix_cons.mpr ⟨rfl, ?_⟩
          have hmore : ∀ e ∈ part, isTagChar e = true :=
            fun e he => hpart e (List.mem_cons_of_mem d he)
          cases hfound : classTag none rest with
          | none => exact ih hmore hfound hrest
          | some tag =>
              obtain ⟨back, rfl⟩ := classTag_sound _ _ _ hfound
              cases part with
              | nil => exact List.nil_prefix
              | cons e part =>
                  obtain ⟨behind, hbehind⟩ := hrest
                  rw [dropClassTags_tag hfound] at hbehind
                  have hnot := isTagChar_of_head?_dropClassTags hfound
                    (by rw [← hbehind]; rfl : (dropClassTags back).head? = some e)
                  rw [hmore e List.mem_cons_self] at hnot
                  cases hnot

/-- What stands anywhere without the tags stood there before, if all its characters could
go on a class name. -/
theorem infix_of_dropClassTags {part text : Text} (hpart : ∀ c ∈ part, isTagChar c = true)
    (h : part <:+: dropClassTags text) : part <:+: text := by
  induction text using dropClassTags_induction with
  | nil => exact h
  | plain c rest hnone ih =>
      rw [dropClassTags_cons hnone] at h
      rcases List.infix_cons_iff.mp h with hstart | hwithin
      · rw [← dropClassTags_cons hnone] at hstart
        exact (prefix_of_dropClassTags hpart hnone hstart).isInfix
      · exact (ih hwithin).trans (List.suffix_cons c rest).isInfix
  | tag tag rest hfound ih =>
      rw [dropClassTags_tag hfound] at h
      exact (ih h).trans (List.suffix_append tag rest).isInfix

/-- Three colons can neither overlap a placeholder nor hold a bracket. -/
theorem uncut_colons : Uncut ":::".toList := by
  refine ⟨List.cons_ne_nil _ _, ?_, forall_mem_of_all rfl, forall_mem_of_all rfl⟩
  intro c hc
  obtain rfl := Option.some.inj hc
  rfl

/-- A name can neither overlap a placeholder nor hold a bracket. -/
theorem IsName.uncut {id : Text} (h : IsName id) : Uncut id := by
  refine ⟨h.ne_nil, ?_, ?_, fun c hc => h.neutral.isBracket_of_mem hc⟩
  · obtain ⟨c, run, rfl, halpha, _⟩ := isName_iff.mp h
    intro d hd
    obtain rfl := Option.some.inj hd
    exact isDigit_of_isAlpha halpha
  · rintro c hc rfl
    rcases h.of_mem hc with hname | hhyphen
    · exact absurd hname (by decide)
    · exact absurd hhyphen (by decide)

/-- A part of a prepared line whose characters could all go on a class name stands in the
line: no tag can have been dropped out of it. -/
theorem Uncut.infix_of_isTagChar {part line : Text} (h : Uncut part)
    (htag : ∀ c ∈ part, isTagChar c = true) (hwithin : part <:+: prepareLine line) :
    part <:+: line :=
  h.infix_of_masked (infix_of_dropClassTags htag hwithin)

/-- A name in a prepared line stands in the line, if there are no tags in it. -/
theorem Uncut.infix_of_prepareLine {part line : Text} (h : Uncut part) (hline : Untagged line)
    (hwithin : part <:+: prepareLine line) : part <:+: line := by
  have huntagged : Untagged (maskShapes (extractLiterals line).line) :=
    fun hcolons => hline (uncut_colons.infix_of_masked hcolons)
  rw [prepareLine, huntagged.dropClassTags_eq] at hwithin
  exact h.infix_of_masked hwithin

end Flowchart
