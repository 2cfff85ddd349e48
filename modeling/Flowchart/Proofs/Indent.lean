import Flowchart.Proofs.Reference

/-!
# Blanks in front of a line

Blanks in front of a line are no part of anything that is read from it.  A line is a
comment, a header, a statement or the mark of a block by what stands behind its blanks.
Preparation leaves the blanks as they are, so they come to the front of the first
stretch, where they move each name and make none; whether a name is defined there, or
is an endpoint, depends on what stands behind it and on its place beside the others.

Main statements: `Blanks.lineDefinitions_append`, `Blanks.lineReferences_append`,
`Blanks.indexOf?_append`.
-/

namespace Flowchart

/-! ## Names in a text -/

/-- An occurrence that stands so many characters further on. -/
def Occurrence.shifted (count : Nat) (name : Occurrence) : Occurrence :=
  { name with start := name.start + count }

/-- The place at which counting starts moves all occurrences. -/
theorem occurrencesFrom_shifted (start count : Nat) (cut : List Piece) :
    occurrencesFrom (start + count) cut
      = (occurrencesFrom start cut).map (Occurrence.shifted count) := by
  induction cut generalizing start with
  | nil => rfl
  | cons piece cut ih =>
      cases piece with
      | plain c => rw [occurrencesFrom, occurrencesFrom, Nat.add_right_comm, ih]
      | lexeme text rest =>
          rw [occurrencesFrom, occurrencesFrom, Nat.add_right_comm, ih]
          rfl

/-- Behind a character that belongs to no name an identifier is found as at the front. -/
theorem piecesFrom_identifier {before : Option Char} (h : before.any isNameChar = false)
    (text : Text) : piecesFrom identifier before 0 text = pieces identifier text := by
  cases text with
  | nil => rfl
  | cons c text =>
      have hfront : identifier before (c :: text) = identifier none (c :: text) := by
        simp [identifier, h]
      rw [pieces, piecesFrom, piecesFrom, hfront]

namespace Blanks

variable {blanks : Text} (h : Blanks blanks)

include h

/-- The character before a place behind blanks belongs to no name. -/
theorem lastBefore_eq : (lastBefore none blanks).any isNameChar = false := by
  rw [lastBefore, Option.or_none, Option.any_eq_false]
  intro c hc
  simp [isNameChar_of_isBlank (h c (List.mem_of_getLast? hc))]

/-- Blanks in front move the names of a text. -/
theorem occurrences_append (text : Text) :
    occurrences identifier (blanks ++ text)
      = (occurrences identifier text).map (Occurrence.shifted blanks.length) := by
  have hplain : ∀ front c back, blanks = front ++ c :: back →
      identifier (lastBefore none front) (c :: back ++ text) = none := by
    intro front c back hblanks
    exact identifier_eq_none (isAlpha_of_isBlank (h c (by simp [hblanks])))
  unfold occurrences pieces
  rw [piecesFrom_append hplain, occurrencesFrom_plain_append, piecesFrom_identifier h.lastBefore_eq,
    occurrencesFrom_shifted]
  rfl

/-- Blanks in front only move the last endpoint. -/
theorem lastEndpoint?_append (text : Text) :
    lastEndpoint? (blanks ++ text)
      = (lastEndpoint? text).map (Occurrence.shifted blanks.length) := by
  unfold lastEndpoint?
  rw [h.occurrences_append, List.find?_map]
  rfl

/-- Blanks in front only move the first endpoint. -/
theorem firstEndpoint?_append (text : Text) :
    firstEndpoint? (blanks ++ text)
      = (firstEndpoint? text).map (Occurrence.shifted blanks.length) := by
  unfold firstEndpoint?
  rw [h.trimStart_append, Option.map_map]
  refine Option.map_congr fun name _ => ?_
  simp [Occurrence.shifted, h.indentOf_front, Nat.add_comm]

end Blanks

/-! ## Names in a stretch -/

/-- The stretch with a text in front of its own. -/
def Stretch.behind (front : Text) (stretch : Stretch) : Stretch :=
  { stretch with text := front ++ stretch.text }

namespace Blanks

variable {blanks : Text} (h : Blanks blanks)

include h

/-- Blanks in front only move the source of a stretch. -/
theorem source?_behind (stretch : Stretch) :
    (stretch.behind blanks).source?
      = stretch.source?.map (Occurrence.shifted blanks.length) := by
  unfold Stretch.source? Stretch.behind
  rw [h.lastEndpoint?_append, Option.filter_map]
  split <;> rfl

/-- Blanks in front only move the target of a stretch. -/
theorem target?_behind (stretch : Stretch) :
    (stretch.behind blanks).target?
      = stretch.target?.map (Occurrence.shifted blanks.length) := by
  unfold Stretch.target? Stretch.behind Stretch.arrowText
  rw [List.append_assoc, h.firstEndpoint?_append, Option.filter_map]
  split <;> rfl

/-- A name that is moved is defined where it was defined. -/
theorem defines_behind (stretch : Stretch) (name : Occurrence) :
    (stretch.behind blanks).defines (name.shifted blanks.length) = stretch.defines name := by
  have hstart : ∀ found : Option Occurrence,
      ((found.map (Occurrence.shifted blanks.length)).map (·.start)
          == some (name.start + blanks.length))
        = (found.map (·.start) == some name.start) := by
    intro found
    cases found <;> simp [Occurrence.shifted]
  have hplace : (name.shifted blanks.length).start = name.start + blanks.length := rfl
  unfold Stretch.defines bne
  rw [h.source?_behind, h.target?_behind, hplace, hstart, hstart]
  rfl

/-- Blanks in front of a stretch change none of its definitions. -/
theorem definitions_behind (stretch : Stretch) :
    (stretch.behind blanks).definitions = stretch.definitions := by
  have hdefined : (stretch.behind blanks).defines ∘ Occurrence.shifted blanks.length
      = stretch.defines := funext (h.defines_behind stretch)
  have hnames : occurrences identifier (stretch.behind blanks).text
      = (occurrences identifier stretch.text).map (Occurrence.shifted blanks.length) :=
    h.occurrences_append stretch.text
  unfold Stretch.definitions
  rw [hnames, List.filter_map, hdefined, List.map_append, List.map_append, List.map_map]
  rfl

/-- Blanks in front of a stretch change none of its references. -/
theorem references_behind (stretch : Stretch) :
    (stretch.behind blanks).references = stretch.references := by
  unfold Stretch.references
  rw [h.source?_behind, h.target?_behind]
  cases stretch.source? <;> cases stretch.target? <;> rfl

/-- Blanks in front of a prepared line come to the front of its first stretch. -/
theorem exists_stretches_append (prepared : Text) :
    ∃ first more, stretches prepared = first :: more ∧
      stretches (blanks ++ prepared) = first.behind blanks :: more := by
  obtain ⟨first, more, hcut, _⟩ := stretchesFrom_stand false (pieces arrow prepared)
  refine ⟨first, more, hcut, ?_⟩
  rw [stretches, h.pieces_arrow, stretchesFrom_plain hcut]
  rfl

/-! ## Kinds of lines -/

/-- A line is a comment by what stands behind its blanks. -/
theorem isComment_append (line : Text) : isComment (blanks ++ line) = isComment line := by
  rw [isComment, isComment, h.trimStart_append]

/-- A line is a statement by what stands behind its blanks. -/
theorem isStatement_append (line : Text) : isStatement (blanks ++ line) = isStatement line := by
  rw [isStatement, isStatement, firstWord, firstWord, h.trimStart_append]

/-- Blanks in front of a header belong to its indent. -/
theorem headerOfLine?_append (line : Text) :
    Header.ofLine? (blanks ++ line)
      = (Header.ofLine? line).map fun header =>
          { header with indent := blanks ++ header.indent } := by
  simp only [Header.ofLine?, h.trimStart_append, h.indentOf_front]
  split
  · rfl
  · split <;> rfl

/-- A line has its mark by what stands behind its blanks. -/
theorem markOfLine_append (line : Text) : Mark.ofLine (blanks ++ line) = Mark.ofLine line := by
  have hopening : (blockOpening? (blanks ++ line)).isSome = (blockOpening? line).isSome := by
    simp only [blockOpening?, h.trimStart_append]
    split
    · split <;> rfl
    · rfl
  have hclosing : isBlockClosing (blanks ++ line) = isBlockClosing line := by
    rw [isBlockClosing, isBlockClosing, h.trimStart_append]
  rw [Mark.ofLine, Mark.ofLine, hopening, hclosing]

/-! ## Names in a line -/

/-- Preparation leaves the blanks in front of a line as they are. -/
theorem prepareLine_append (line : Text) :
    prepareLine (blanks ++ line) = blanks ++ prepareLine line := by
  have hextracted : (extractLiterals (blanks ++ line)).line
      = blanks ++ (extractLiterals line).line := by
    simp only [extractLiterals, h.neutral.unquoted.pieces_append]
    exact numberLexemes_plain_append 0 blanks _
  rw [prepareLine, hextracted, maskShapes_append fun c hc => h.neutral.isOpener_of_mem hc,
    dropClassTags_append_of_no_colon h.ne_colon, prepareLine]

/-- A line names nodes by what stands behind its blanks. -/
theorem namesNodes_append (line : Text) : namesNodes (blanks ++ line) = namesNodes line := by
  rw [namesNodes, namesNodes, h.headerOfLine?_append, h.isStatement_append, Option.isNone_map]

/-- Blanks in front of a line leave the nodes that it defines as they are. -/
theorem lineDefinitions_append (line : Text) :
    lineDefinitions (blanks ++ line) = lineDefinitions line := by
  obtain ⟨first, more, hcut, happend⟩ := h.exists_stretches_append (prepareLine line)
  rw [lineDefinitions, lineDefinitions, h.namesNodes_append, h.prepareLine_append, happend, hcut,
    List.flatMap_cons, List.flatMap_cons, h.definitions_behind]

/-- Blanks in front of a line leave the endpoints of its arrows as they are. -/
theorem lineReferences_append (line : Text) :
    lineReferences (blanks ++ line) = lineReferences line := by
  obtain ⟨first, more, hcut, happend⟩ := h.exists_stretches_append (prepareLine line)
  rw [lineReferences, lineReferences, h.namesNodes_append, h.prepareLine_append, happend, hcut,
    List.flatMap_cons, List.flatMap_cons, h.references_behind]

/-- A blank line defines nothing. -/
theorem lineDefinitions_eq : lineDefinitions blanks = [] := by
  have hempty := h.lineDefinitions_append []
  rw [List.append_nil] at hempty
  exact hempty.trans (by rfl)

/-! ## The place of a name -/

/-- Blanks in front move the place of a name. -/
theorem indexOf?_append {name : Text} (hname : IsName name) (text : Text) :
    indexOf? name (blanks ++ text) = (indexOf? name text).map (· + blanks.length) := by
  induction blanks with
  | nil => simp
  | cons c blanks ih =>
      have hc : isBlank c = true := h c List.mem_cons_self
      have hnot : name.isPrefixOf (c :: (blanks ++ text)) = false := by
        rw [← Bool.not_eq_true, List.isPrefixOf_iff_prefix]
        intro hfront
        obtain ⟨d, more, rfl⟩ := List.exists_cons_of_ne_nil hname.ne_nil
        obtain ⟨rfl, _⟩ := List.cons_prefix_cons.mp hfront
        rw [hname.isBlank_of_mem List.mem_cons_self] at hc
        cases hc
      rw [List.cons_append, indexOf?, hnot, ih fun d hd => h d (List.mem_cons_of_mem c hd),
        if_neg Bool.false_ne_true, Option.map_map]
      rfl

end Blanks

end Flowchart
