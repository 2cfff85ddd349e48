import Flowchart.Document
import Flowchart.Proofs.Chain.Line
import Flowchart.Proofs.Header

/-!
# Lines that begin with a name

A line of nodes begins with a name behind which neither a header nor a statement
nor a comment goes on.  A header would have the name for its keyword, a statement
the first word of the line for its own, and a comment begins with no letter.
-/

namespace Flowchart

/-- What a line of nodes begins with, blanks apart: a name, and behind it a character
that neither belongs to it nor makes the line something else. -/
structure Front (id rest : Text) : Prop where
  /-- The name is one identifier. -/
  isName : IsName id
  /-- The name is one that a node can have. -/
  isNode : isKeyword id = false
  /-- The name ends where the rest begins. -/
  ends : EndsName id rest
  /-- What follows is blank, or a mark that is no letter. -/
  mark : ∀ c, rest.head? = some c → isBlank c = false → isAscii c = true ∧ c.isAlpha = false
  /-- A name that is a whole word does not begin a statement. -/
  isPlain : (∀ c, rest.head? = some c → isBlank c = true) →
    statementWords.contains (lower id) = false

/-- A name runs as long as its characters do. -/
theorem nameRun_of_isNameChar {text : Text} (h : ∀ c ∈ text, isNameChar c = true) :
    nameRun text = text := by
  induction text with
  | nil => rfl
  | cons c text ih =>
      have hc := h c List.mem_cons_self
      rw [nameRun_of_goesOn (Or.inl hc), ih fun d hd => h d (List.mem_cons_of_mem c hd)]

/-- The words of statements have letters only. -/
theorem statementWords_letters : ∀ word ∈ statementWords, word.all Char.isAlpha = true :=
  forall_mem_of_all rfl

/-- Keywords have letters only. -/
theorem keywords_letters : ∀ word ∈ keywords, word.all Char.isAlpha = true :=
  forall_mem_of_all rfl

/-- A header word is a name. -/
theorem HeaderWord.isName {keyword : Text} (h : HeaderWord keyword) : IsName keyword := by
  obtain ⟨halpha, _⟩ := h.plain
  obtain ⟨c, run, rfl⟩ := List.exists_cons_of_ne_nil h.ne_nil
  refine isName_iff.mpr ⟨c, run, rfl, halpha c List.mem_cons_self, ?_⟩
  refine nameRun_of_isNameChar fun d hd => ?_
  simp [isNameChar, Char.isAlphanum, halpha d (List.mem_cons_of_mem c hd)]

namespace Front

variable {indent id rest : Text}

/-- Trimming such a line takes its indent away. -/
theorem trimStart_eq (h : Front id rest) (hindent : Blanks indent) :
    trimStart (indent ++ (id ++ rest)) = id ++ rest := by
  rw [hindent.trimStart_append, (h.isName.solid rest).trimStart_eq]

/-- The line is no comment. -/
theorem isComment_eq (h : Front id rest) (hindent : Blanks indent) :
    isComment (indent ++ (id ++ rest)) = false := by
  obtain ⟨c, run, rfl, halpha, _⟩ := isName_iff.mp h.isName
  have hc : c ≠ '%' := by
    rintro rfl
    exact absurd halpha (by decide)
  unfold isComment
  rw [h.trimStart_eq hindent]
  simp [List.isPrefixOf, hc.symm]

/-- The line is looked at if it is not too long. -/
theorem isInspected_eq (h : Front id rest) (hindent : Blanks indent) {limits : Limits}
    (hlength : ((indent ++ (id ++ rest)).length : Int) ≤ limits.maxLineLength) :
    isInspected limits (indent ++ (id ++ rest)) = true := by
  rw [isInspected, h.isComment_eq hindent]
  simpa using hlength

/-- The line is no header: its keyword would be the name. -/
theorem ofLine?_eq_none (h : Front id rest) (hindent : Blanks indent) :
    Header.ofLine? (indent ++ (id ++ rest)) = none := by
  cases hheader : Header.ofLine? (indent ++ (id ++ rest)) with
  | none => rfl
  | some header =>
      obtain ⟨behind, hreads⟩ := Header.ofLine?_eq_some_iff.mp hheader
      have htrim := h.trimStart_eq hindent
      rw [hreads.trimStart_eq] at htrim
      obtain ⟨c, gap, hgap⟩ := List.exists_cons_of_ne_nil hreads.gap_ne
      have hblank : isBlank c = true := hreads.gap c (by rw [hgap]; exact List.mem_cons_self)
      have hkeyword := hreads.keyword.isName.leadingName?_append
        (endsName_blank header.keyword hblank (gap ++ (header.direction ++ behind)))
      have hname := h.isName.leadingName?_append h.ends
      rw [← htrim, hgap, List.cons_append, hkeyword] at hname
      have hnode := h.isNode
      rw [← Option.some.inj hname, hreads.keyword.plain.2] at hnode
      cases hnode

/-- The line is no statement: a mark behind the name is part of the first word. -/
theorem isStatement_eq (h : Front id rest) (hindent : Blanks indent) :
    isStatement (indent ++ (id ++ rest)) = false := by
  have hword : firstWord (indent ++ (id ++ rest))
      = id ++ rest.takeWhile fun c => !isBlank c := by
    unfold firstWord
    rw [h.trimStart_eq hindent, List.takeWhile_append_of_pos]
    intro c hc
    simp [h.isName.isBlank_of_mem hc]
  unfold isStatement
  rw [hword]
  by_cases hblank : ∀ c, rest.head? = some c → isBlank c = true
  · have hnone : (rest.takeWhile fun c => !isBlank c) = [] := by
      cases rest with
      | nil => rfl
      | cons c rest => simp [hblank c rfl]
    rw [hnone, List.append_nil]
    exact h.isPlain hblank
  · obtain ⟨c, more, hrest, hc⟩ : ∃ c more, rest = c :: more ∧ isBlank c = false := by
      cases rest with
      | nil => exact absurd nofun hblank
      | cons c more =>
          refine ⟨c, more, rfl, ?_⟩
          cases hc : isBlank c with
          | false => rfl
          | true =>
              refine absurd (fun d hd => ?_) hblank
              obtain rfl := Option.some.inj hd
              exact hc
    obtain ⟨hascii, hletter⟩ := h.mark c (by rw [hrest]; rfl) hc
    have hmem : c ∈ id ++ rest.takeWhile fun c => !isBlank c := by
      simp [hrest, hc]
    exact contains_lower_of_mem statementWords_letters hmem hascii hletter

/-- The line defines and refers to nodes. -/
theorem namesNodes_eq (h : Front id rest) (hindent : Blanks indent) :
    namesNodes (indent ++ (id ++ rest)) = true := by
  simp [namesNodes, h.ofLine?_eq_none hindent, h.isStatement_eq hindent]

end Front

/-- A line of nodes may begin with a name and any bracket that opens a shape. -/
theorem Front.of_opener {id : Text} (hname : IsName id) (hnode : isKeyword id = false)
    (bracket : Bracket) (rest : Text) : Front id (bracket.opener :: rest) where
  isName := hname
  isNode := hnode
  ends := by cases bracket <;> exact ⟨rfl, fun _ => rfl⟩
  mark := by
    intro c hc _
    obtain rfl := Option.some.inj hc
    cases bracket <;> decide
  isPlain := by
    intro hblank
    have hopener := hblank bracket.opener rfl
    have hnot : isBlank bracket.opener = false := by
      cases bracket <;> decide
    rw [hnot] at hopener
    cases hopener

end Flowchart
