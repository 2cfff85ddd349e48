import Flowchart.Proofs.LowerCase
import Flowchart.Token.Line

/-!
# Header lines

A header line is a keyword, blanks and a word, with blanks before it and anything
but a word character behind it.  This determines its parts.
-/

namespace Flowchart

/-! ## Blanks and word characters -/

/-- The code points of the ranges, one by one. -/
def codesOf (ranges : List (Nat × Nat)) : List Nat :=
  ranges.flatMap fun range => List.range' range.1 (range.2 + 1 - range.1)

/-- A code point in one of the ranges is among those of the ranges. -/
theorem mem_codesOf {ranges : List (Nat × Nat)} {n : Nat} (h : inRanges ranges n = true) :
    n ∈ codesOf ranges := by
  obtain ⟨range, hrange, hn⟩ := List.any_eq_true.mp h
  simp only [Bool.and_eq_true, decide_eq_true_eq] at hn
  refine List.mem_flatMap.mpr ⟨range, hrange, ?_⟩
  rw [List.mem_range'_1]
  omega

/-- No blank is a word character. -/
theorem isWord_of_isBlank {c : Char} (h : isBlank c = true) : isWord c = false := by
  have hcodes : ∀ n ∈ codesOf blankRanges,
      inRanges lowWordRanges n = false ∧ inRanges highWordRanges n = false := by
    decide +kernel
  obtain ⟨hlow, hhigh⟩ := hcodes c.toNat (mem_codesOf h)
  have halphanum : c.isAlphanum = false := by
    cases hc : c.isAlphanum with
    | false => rfl
    | true =>
        rw [isBlank_of_isAlphanum hc] at h
        cases h
  have hunderscore : c ≠ '_' := by
    rintro rfl
    exact absurd h (by decide)
  simp [isWord, hlow, hhigh, halphanum, hunderscore]

/-- No character of words is blank. -/
theorem isBlank_of_isWord {c : Char} (h : isWord c = true) : isBlank c = false := by
  cases hblank : isBlank c with
  | false => rfl
  | true =>
      rw [isWord_of_isBlank hblank] at h
      cases h

/-! ## The parts of a header -/

/-- A word with which a header begins. -/
def HeaderWord (keyword : Text) : Prop :=
  FoldsTo "graph".toList keyword ∨ FoldsTo "flowchart".toList keyword

/-- The letters of a header word, and its lower case. -/
theorem HeaderWord.plain {keyword : Text} (h : HeaderWord keyword) :
    (∀ c ∈ keyword, c.isAlpha = true) ∧ isKeyword keyword = true := by
  rcases h with hgraph | hflowchart
  · have hplain : ∀ letter ∈ "graph".toList, IsPlainLetter letter :=
      forall_mem_of_all rfl
    refine ⟨(hgraph.plain hplain).1, ?_⟩
    rw [isKeyword, hgraph.lower_eq hplain]
    decide
  · have hplain : ∀ letter ∈ "flowchart".toList, IsPlainLetter letter :=
      forall_mem_of_all rfl
    refine ⟨(hflowchart.plain hplain).1, ?_⟩
    rw [isKeyword, hflowchart.lower_eq hplain]
    decide

/-- What is a word when case is ignored is not empty. -/
theorem FoldsTo.ne_nil {word text : Text} (h : FoldsTo word text) (hword : word ≠ []) :
    text ≠ [] := by
  rintro rfl
  cases word with
  | nil => exact hword rfl
  | cons letter word => cases h

/-- The word of a header is not empty. -/
theorem HeaderWord.ne_nil {keyword : Text} (h : HeaderWord keyword) : keyword ≠ [] := by
  rcases h with hgraph | hflowchart
  · exact hgraph.ne_nil (by decide)
  · exact hflowchart.ne_nil (by decide)

/-- The parts are those of the line: its blanks, a header word, blanks, and all of a
word. -/
structure Header.Reads (header : Header) (line rest : Text) : Prop where
  /-- The parts stand in the line one behind the other. -/
  line_eq : line = header.indent ++ (header.span ++ rest)
  /-- There are only blanks before the keyword. -/
  indent : Blanks header.indent
  /-- The keyword is one. -/
  keyword : HeaderWord header.keyword
  /-- There are only blanks behind the keyword. -/
  gap : Blanks header.gap
  /-- There are blanks behind the keyword. -/
  gap_ne : header.gap ≠ []
  /-- The direction is a word. -/
  direction : ∀ c ∈ header.direction, isWord c = true
  /-- The word is not empty. -/
  direction_ne : header.direction ≠ []
  /-- The word ends where the rest begins. -/
  rest : ∀ c, rest.head? = some c → isWord c = false

/-- No text is both header words. -/
theorem splitFolded?_graph_eq_none {keyword rest : Text}
    (h : FoldsTo "flowchart".toList keyword) :
    splitFolded? "graph".toList (keyword ++ rest) = none := by
  cases keyword with
  | nil => cases h
  | cons c keyword =>
      have hc : c.toLower = 'f' := toLower_of_folds (by decide) h.1
      have hnot : folds 'g' c = false := by
        cases hg : folds 'g' c with
        | false => rfl
        | true =>
            have hlower := toLower_of_folds (by decide) hg
            rw [hc] at hlower
            exact absurd hlower (by decide)
      simp [splitFolded?, hnot]

/-- The word of a header is split off exactly where the text begins with one. -/
theorem splitHeaderWord_iff {text keyword rest : Text} :
    (splitFolded? "graph".toList text).or (splitFolded? "flowchart".toList text)
        = some (keyword, rest)
      ↔ text = keyword ++ rest ∧ HeaderWord keyword := by
  constructor
  · intro h
    rcases Option.or_eq_some_iff.mp h with hgraph | ⟨_, hflowchart⟩
    · obtain ⟨htext, hfolds⟩ := splitFolded?_eq_some_iff.mp hgraph
      exact ⟨htext, Or.inl hfolds⟩
    · obtain ⟨htext, hfolds⟩ := splitFolded?_eq_some_iff.mp hflowchart
      exact ⟨htext, Or.inr hfolds⟩
  · rintro ⟨rfl, hgraph | hflowchart⟩
    · rw [splitFolded?_eq_some_iff.mpr ⟨rfl, hgraph⟩]
      rfl
    · rw [splitFolded?_graph_eq_none hflowchart, Option.none_or,
        splitFolded?_eq_some_iff.mpr ⟨rfl, hflowchart⟩]

/-- Word characters are taken as far as they go. -/
theorem takeWhile_isWord {direction rest : Text} (h : ∀ c ∈ direction, isWord c = true)
    (hrest : ∀ c, rest.head? = some c → isWord c = false) :
    (direction ++ rest).takeWhile isWord = direction := by
  rw [List.takeWhile_append_of_pos h]
  cases rest with
  | nil => simp
  | cons c rest => simp [hrest c rfl]

namespace Header.Reads

variable {header : Header} {line rest : Text}

/-- The keyword of a header does not begin with a blank. -/
theorem keyword_solid (h : header.Reads line rest) (behind : Text) :
    Solid (header.keyword ++ behind) := by
  obtain ⟨halpha, _⟩ := h.keyword.plain
  obtain ⟨c, more, hcons⟩ := List.exists_cons_of_ne_nil h.keyword.ne_nil
  rw [hcons] at halpha ⊢
  exact Solid.cons (isBlank_of_isAlpha (halpha c List.mem_cons_self)) _

/-- The direction of a header does not begin with a blank. -/
theorem direction_solid (h : header.Reads line rest) (behind : Text) :
    Solid (header.direction ++ behind) := by
  obtain ⟨c, more, hcons⟩ := List.exists_cons_of_ne_nil h.direction_ne
  have hword := h.direction
  rw [hcons] at hword ⊢
  exact Solid.cons (isBlank_of_isWord (hword c List.mem_cons_self)) _

/-- Trimming a header takes its indent away. -/
theorem trimStart_eq (h : header.Reads line rest) :
    trimStart line = header.keyword ++ (header.gap ++ (header.direction ++ rest)) := by
  rw [h.line_eq, h.indent.trimStart_append, Header.span, List.append_assoc, List.append_assoc,
    (h.keyword_solid _).trimStart_eq]

/-- The parts that a line has are found in it. -/
theorem ofLine?_eq (h : header.Reads line rest) : Header.ofLine? line = some header := by
  have hindent : indentOf line = header.indent := by
    rw [h.line_eq, Header.span, List.append_assoc, List.append_assoc]
    exact h.indent.indentOf_append (h.keyword_solid _)
  have hgap := h.gap.indentOf_append (h.direction_solid rest)
  have hdirection : trimStart (header.gap ++ (header.direction ++ rest))
      = header.direction ++ rest := by
    rw [h.gap.trimStart_append, (h.direction_solid rest).trimStart_eq]
  have hword := takeWhile_isWord h.direction h.rest
  have hsplit := splitHeaderWord_iff.mpr ⟨h.trimStart_eq, h.keyword⟩
  simp only [Header.ofLine?, hsplit, hgap, hdirection, hword, hindent]
  simp [h.gap_ne, h.direction_ne]

end Header.Reads

/-- The parts of a header are found exactly where they stand. -/
theorem Header.ofLine?_eq_some_iff {line : Text} {header : Header} :
    Header.ofLine? line = some header ↔ ∃ rest, header.Reads line rest := by
  constructor
  · intro h
    simp only [Header.ofLine?] at h
    split at h
    · cases h
    · rename_i keyword rest hsplit
      obtain ⟨htrim, hkeyword⟩ := splitHeaderWord_iff.mp hsplit
      split at h
      · cases h
      · rename_i hparts
        simp only [Bool.or_eq_true, List.isEmpty_iff, not_or] at hparts
        obtain rfl := Option.some.inj h
        refine ⟨(trimStart rest).dropWhile isWord, ?_, indentOf_blanks line, hkeyword,
          indentOf_blanks rest, hparts.1, ?_, hparts.2, ?_⟩
        · have hrest := indentOf_append_trimStart rest
          have hline := indentOf_append_trimStart line
          have hword := @List.takeWhile_append_dropWhile _ isWord (trimStart rest)
          simp only [Header.span, List.append_assoc, hword, hrest, ← htrim, hline]
        · exact fun c hc => List.all_eq_true.mp List.all_takeWhile c hc
        · intro c hc
          have hnot := List.head?_dropWhile_not isWord (trimStart rest)
          rw [hc] at hnot
          simpa using hnot
  · rintro ⟨rest, h⟩
    exact h.ofLine?_eq

end Flowchart
