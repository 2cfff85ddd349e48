import Flowchart.Fix.Apply
import Flowchart.Fix.Candidates
import Flowchart.Proofs.Direction
import Flowchart.Proofs.Fix.Budget
import Flowchart.Proofs.Header
import Flowchart.Proofs.Lines
import Flowchart.Proofs.Text

/-!
# Redirected headers

Every candidate for a header puts one of the five directions in the place of its
word.  What it replaces is found at the keyword and nowhere before, so that the
line is a header again, with the same parts and that direction.  Headers name no
nodes and have no mark, whatever their direction.
-/

namespace Flowchart

/-- On the line that is meant the first old text is exchanged. -/
theorem Replacement.applyTo?_append (old new : Text) (front back : List Text) (line : Text) :
    (Replacement.mk (1 + front.length : Nat) old new).applyTo? (front ++ line :: back)
      = (replaceFirst? old new line).map fun result => front ++ result :: back := by
  have hindex : (((1 + front.length : Nat) : Int) - 1).toNat = front.length := by omega
  have hnot : ¬ ((1 + front.length : Nat) : Int) < 1 := by omega
  simp only [applyTo?, hnot, hindex, if_false]
  cases hresult : replaceFirst? old new line <;> simp [hresult]

/-! ## Headers have no mark -/

/-- The first letter of a word of plain letters, in the case in which it is written. -/
theorem FoldsTo.exists_cons {letter : Char} {letters text : Text}
    (h : FoldsTo (letter :: letters) text)
    (hplain : ∀ other ∈ letter :: letters, IsPlainLetter other) (honce : letter ∉ letters) :
    ∃ c more, text = c :: more ∧ c.toLower = letter ∧ c ∉ more := by
  cases text with
  | nil => cases h
  | cons c more =>
      obtain ⟨hc, hmore⟩ := List.cons.inj (h.plain hplain).2
      refine ⟨c, more, rfl, hc, fun hmem => honce ?_⟩
      rw [← hc, ← hmore]
      exact List.mem_map_of_mem hmem

/-- The first letter of a header word, which stands in it only once. -/
theorem HeaderWord.exists_cons {keyword : Text} (h : HeaderWord keyword) :
    ∃ c more, keyword = c :: more ∧ (c.toLower = 'g' ∨ c.toLower = 'f') ∧ c ∉ more := by
  rcases h with hgraph | hflowchart
  · obtain ⟨c, more, hkeyword, hc, honce⟩ :=
      @FoldsTo.exists_cons 'g' "raph".toList _ hgraph (forall_mem_of_all rfl) (by decide)
    exact ⟨c, more, hkeyword, Or.inl hc, honce⟩
  · obtain ⟨c, more, hkeyword, hc, honce⟩ :=
      @FoldsTo.exists_cons 'f' "lowchart".toList _ hflowchart (forall_mem_of_all rfl) (by decide)
    exact ⟨c, more, hkeyword, Or.inr hc, honce⟩

/-- A text that begins with another letter does not begin with the word. -/
theorem splitFolded?_eq_none {letter c : Char} (h : folds letter c = false) (word text : Text) :
    splitFolded? (letter :: word) (c :: text) = none := by
  simp [splitFolded?, h]

/-- Neither of the letters with which a header begins stands for an s. -/
theorem folds_s_eq_false {c : Char} (h : c.toLower = 'g' ∨ c.toLower = 'f') :
    folds 's' c = false := by
  have hlong : c ≠ 'ſ' := by
    rintro rfl
    exact absurd h (by decide)
  have hsmall : c.toLower ≠ 's' := by
    rcases h with h | h <;> rw [h] <;> decide
  simp [folds, hlong, hsmall]

/-- Neither of the letters with which a header begins stands for an e. -/
theorem folds_e_eq_false {c : Char} (h : c.toLower = 'g' ∨ c.toLower = 'f') :
    folds 'e' c = false := by
  have hsmall : c.toLower ≠ 'e' := by
    rcases h with h | h <;> rw [h] <;> decide
  simp [folds, hsmall]

/-- The name of a direction is not empty. -/
theorem Direction.name_ne_nil (direction : Direction) : direction.name ≠ [] := by
  cases direction <;> exact List.cons_ne_nil _ _

/-- There is no break in the name of a direction. -/
theorem Direction.unbroken_name (direction : Direction) : Unbroken direction.name := by
  cases direction <;> exact forall_mem_of_all rfl

/-- The characters of a line of the header with another direction. -/
def Header.redirectedLine (header : Header) (direction : Direction) (rest : Text) : Text :=
  header.indent ++ ((header.keyword ++ header.gap ++ direction.name) ++ rest)

namespace Header.Reads

variable {header : Header} {line rest : Text}

/-- A header names nothing and has no mark. -/
theorem idle (h : header.Reads line rest) : Idle line := by
  have hnames : namesNodes line = false := by
    simp [namesNodes, h.ofLine?_eq]
  obtain ⟨c, more, hkeyword, hc, _⟩ := h.keyword.exists_cons
  have htrim := h.trimStart_eq
  rw [hkeyword, List.cons_append] at htrim
  refine ⟨by simp [lineDefinitions, hnames], by simp [lineReferences, hnames], ?_⟩
  have hsubgraph : splitFolded? "subgraph".toList (trimStart line) = none := by
    rw [htrim]
    exact splitFolded?_eq_none (folds_s_eq_false hc) _ _
  have hend : splitFolded? "end".toList (trimStart line) = none := by
    rw [htrim]
    exact splitFolded?_eq_none (folds_e_eq_false hc) _ _
  have hopening : blockOpening? line = none := by
    unfold blockOpening?
    rw [hsubgraph]
  have hclosing : isBlockClosing line = false := by
    unfold isBlockClosing
    rw [hend]
  simp [Mark.ofLine, hopening, hclosing]

/-! ## Candidates -/

/-- The direction is all that stands at the front of the parts. -/
theorem span_reads (h : header.Reads line rest) :
    ({ header with indent := [] } : Header).Reads header.span [] where
  line_eq := by
    rw [List.append_nil]
    rfl
  indent := Blanks.nil
  keyword := h.keyword
  gap := h.gap
  gap_ne := h.gap_ne
  direction := h.direction
  direction_ne := h.direction_ne
  rest := nofun

/-- The candidates for a header give it each direction in turn. -/
theorem candidates_eq (h : header.Reads line rest) {number : Nat} {issue : Issue}
    (hissue : header.issue? number = some issue) :
    issue.candidates = Direction.all.map (header.redirect number) := by
  obtain ⟨hkind, _, _, hfix⟩ := of_issue?_eq_some hissue
  have hparts := h.span_reads.ofLine?_eq
  have htake : header.span.take (header.keyword.length + header.gap.length)
      = header.keyword ++ header.gap := by
    rw [Header.span, ← List.length_append, List.take_left]
  simp only [Issue.candidates, hkind, hfix, Header.redirect, Replacement.directions, hparts,
    List.map_map]
  refine List.map_congr_left fun direction _ => ?_
  simp [Header.redirect, Header.directionStart, htake]

/-- Every candidate for a header gives it a direction. -/
theorem of_mem_candidates (h : header.Reads line rest) {number : Nat} {issue : Issue} {fix : Fix}
    (hissue : header.issue? number = some issue) (hfix : fix ∈ issue.candidates) :
    ∃ direction, fix = header.redirect number direction := by
  rw [h.candidates_eq hissue] at hfix
  obtain ⟨direction, _, rfl⟩ := List.mem_map.mp hfix
  exact ⟨direction, rfl⟩

/-- The header is found where it stands, and its direction exchanged. -/
theorem replaceFirst?_redirect (h : header.Reads line rest) (direction : Direction) :
    replaceFirst? header.span (header.keyword ++ header.gap ++ direction.name) line
      = some (header.redirectedLine direction rest) := by
  obtain ⟨c, more, hkeyword, _⟩ := h.keyword.exists_cons
  have hspan : header.span = c :: (more ++ header.gap ++ header.direction) := by
    rw [Header.span, hkeyword]
    rfl
  have hsolid : isBlank c = false := h.keyword_solid [] c (by rw [hkeyword]; rfl)
  rw [h.line_eq]
  refine replaceFirst?_append (by rw [hspan]; exact List.cons_ne_nil _ _) fun d hd hhead => ?_
  rw [hspan] at hhead
  obtain rfl := Option.some.inj hhead
  rw [h.indent c hd] at hsolid
  cases hsolid

/-- The fix of a header finds the line and exchanges its direction. -/
theorem applyToLines?_redirect (h : header.Reads line rest) (front back : List Text)
    (direction : Direction) :
    (header.redirect (1 + front.length : Nat) direction).applyToLines? (front ++ line :: back)
      = some (front ++ header.redirectedLine direction rest :: back) := by
  rw [Header.redirect, Fix.applyToLines?, Replacement.applyTo?_append,
    h.replaceFirst?_redirect direction]
  rfl

/-- The line is a header again, with that direction. -/
theorem redirected (h : header.Reads line rest) (direction : Direction) :
    ({ header with direction := direction.name } : Header).Reads
      (header.redirectedLine direction rest) rest where
  line_eq := rfl
  indent := h.indent
  keyword := h.keyword
  gap := h.gap
  gap_ne := h.gap_ne
  direction := by
    cases direction <;> exact forall_mem_of_all rfl
  direction_ne := direction.name_ne_nil
  rest := h.rest

/-- The line does not go astray any more. -/
theorem isAstray_redirected (h : header.Reads line rest) (direction : Direction) :
    isAstray (header.redirectedLine direction rest) = false := by
  rw [isAstray, (h.redirected direction).ofLine?_eq]
  cases direction <;> rfl

/-- Nothing comes into the line but the letters of the direction. -/
theorem mem_of_mem_redirectedLine (h : header.Reads line rest) {direction : Direction} {c : Char}
    (hc : c ∈ header.redirectedLine direction rest) : c ∈ direction.name ∨ c ∈ line := by
  simp only [redirectedLine, List.mem_append] at hc
  simp only [h.line_eq, Header.span, List.mem_append]
  grind

/-- No break comes into the line. -/
theorem unbroken_redirected (h : header.Reads line rest) (hline : Unbroken line)
    (direction : Direction) : Unbroken (header.redirectedLine direction rest) := by
  intro c hc
  rcases h.mem_of_mem_redirectedLine hc with hdirection | hold
  · exact direction.unbroken_name c hdirection
  · exact hline c hold

/-- Other lines are found again beside the line with another direction. -/
theorem joinable_redirected (h : header.Reads line rest) {newline : Newline}
    {front back : List Text} (hlines : Joinable newline (front ++ line :: back))
    (direction : Direction) :
    Joinable newline (front ++ header.redirectedLine direction rest :: back) := by
  have hline : line
      = (header.indent ++ (header.keyword ++ header.gap)) ++ (header.direction ++ rest) := by
    simp [h.line_eq, Header.span]
  rw [hline] at hlines
  simpa [redirectedLine] using hlines.exchange direction.name_ne_nil direction.unbroken_name

end Header.Reads

end Flowchart
