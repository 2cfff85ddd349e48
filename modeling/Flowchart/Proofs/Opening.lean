import Flowchart.Fix.Apply
import Flowchart.Proofs.Pointing
import Flowchart.Proofs.Silent

/-!
# Names that open blocks

A line that begins with a name which is no keyword never closes a block: the letters of
`end` may stand at its front, but then another character of the name stands behind them, and
behind a closing only blanks and a semicolon may.  For the letters of `subgraph` it is enough
that the character behind them is none of words, and a name goes on with two characters that
are none, the hyphen and the colon.  So the line opens a block exactly if its name begins with
`subgraph`, in either case, and one of the two.

Where it opens none, the line only moves the issues behind it.  Where it opens one, the stack
of open blocks is one frame higher from there on, until a closing line finds a block that
found none before.  So one block more is missing its end, or one end less is unexpected.

Main statement: `checkBalance_insert_name`.
-/

namespace Flowchart

/-! ## Keywords at the front of names -/

/-- Does the name begin with the keyword of blocks, and go on with a character that is none of
words? -/
def isBlockName (id : Text) : Bool :=
  "subgraph-".toList.isPrefixOf (lower id) || "subgraph:".toList.isPrefixOf (lower id)

/-- The lower case of a name begins with a word and a mark if the name begins with that word, in
either case, and the mark. -/
theorem isPrefixOf_lower_iff {id word : Text} {mark : Char} (hname : IsName id)
    (hmark : mark.isAlpha = false) :
    (word ++ [mark]).isPrefixOf (lower id) = true ↔
      ∃ keyword more, id = keyword ++ mark :: more ∧ keyword.map Char.toLower = word := by
  rw [lower_ascii hname.inAscii, List.isPrefixOf_iff_prefix]
  constructor
  · rintro ⟨behind, hbehind⟩
    rw [List.append_assoc, eq_comm, List.map_eq_append_iff] at hbehind
    obtain ⟨keyword, back, rfl, hword, hback⟩ := hbehind
    obtain ⟨c, more, rfl, hc, _⟩ := List.map_eq_cons_iff.mp hback
    obtain rfl := eq_of_toLower hmark hc
    exact ⟨keyword, more, rfl, hword⟩
  · rintro ⟨keyword, more, rfl, rfl⟩
    refine ⟨more.map Char.toLower, ?_⟩
    simp [toLower_of_not_alpha hmark]

/-- A name opens a block exactly if it goes on with a hyphen or a colon behind the keyword. -/
theorem isBlockName_iff {id : Text} (hname : IsName id) :
    isBlockName id = true ↔
      ∃ keyword mark more, id = keyword ++ mark :: more ∧
        keyword.map Char.toLower = "subgraph".toList ∧ (mark = '-' ∨ mark = ':') := by
  have hhyphen := @isPrefixOf_lower_iff id "subgraph".toList '-' hname (by decide)
  have hcolon := @isPrefixOf_lower_iff id "subgraph".toList ':' hname (by decide)
  rw [isBlockName, Bool.or_eq_true]
  refine (or_congr hhyphen hcolon).trans ?_
  constructor
  · rintro (⟨keyword, more, hid, hword⟩ | ⟨keyword, more, hid, hword⟩)
    · exact ⟨keyword, '-', more, hid, hword, Or.inl rfl⟩
    · exact ⟨keyword, ':', more, hid, hword, Or.inr rfl⟩
  · rintro ⟨keyword, mark, more, hid, hword, rfl | rfl⟩
    · exact Or.inl ⟨keyword, more, hid, hword⟩
    · exact Or.inr ⟨keyword, more, hid, hword⟩

/-! ## Marks of lines that begin with names -/

section Front

variable {indent id rest : Text}

/-- A keyword with which a line begins whose name is none ends inside the name: all of the keyword
are letters, and no letter follows the name. -/
theorem exists_of_keyword {letter : Char} {word keyword back : Text} (hname : IsName id)
    (hnode : isKeyword id = false)
    (hends : ∀ c, rest.head? = some c → isNameChar c = false ∧ c ≠ '-')
    (hword : keywords.contains (letter :: word) = true)
    (hplain : ∀ c ∈ word, IsPlainLetter c) (hfolds : FoldsTo (letter :: word) keyword)
    (hfront : id ++ rest = keyword ++ back) :
    ∃ c more, id = keyword ++ c :: more ∧ back = c :: (more ++ rest) ∧
      keyword.map Char.toLower = letter :: word := by
  have hascii := hname.inAscii
  cases keyword with
  | nil => cases hfolds
  | cons d keyword =>
      obtain ⟨first, run, rfl, _, _⟩ := isName_iff.mp hname
      obtain ⟨rfl, hbehind⟩ := List.cons.inj hfront
      obtain ⟨hletters, hlower⟩ := hfolds.ascii_plain (hascii first List.mem_cons_self) hplain
      have hne : run ≠ keyword := by
        rintro rfl
        rw [isKeyword, lower_ascii hascii, hlower, hword] at hnode
        cases hnode
      rcases List.append_eq_append_iff.mp hbehind with ⟨more, hmore, hafter⟩ | ⟨more, hmore, hafter⟩
      · cases more with
        | nil => exact absurd (by simpa using hmore.symm) hne
        | cons c more =>
            have halpha := hletters c (by simp [hmore])
            have hnot := (hends c (by simp [hafter])).1
            simp [isNameChar, Char.isAlphanum, halpha] at hnot
      · cases more with
        | nil => exact absurd (by simpa using hmore) hne
        | cons c more => exact ⟨c, more, by simp [hmore], by simpa using hafter, hlower⟩

/-- Trimming a line that begins with a name takes its indent away. -/
theorem trimStart_name (hindent : Blanks indent) (hname : IsName id) :
    trimStart (indent ++ (id ++ rest)) = id ++ rest := by
  rw [hindent.trimStart_append, (hname.solid rest).trimStart_eq]

/-- The line closes no block. -/
theorem isBlockClosing_name (hindent : Blanks indent) (hname : IsName id)
    (hnode : isKeyword id = false)
    (hends : ∀ c, rest.head? = some c → isNameChar c = false ∧ c ≠ '-') :
    isBlockClosing (indent ++ (id ++ rest)) = false := by
  refine eq_false_of_ne_true fun hclosing => ?_
  obtain ⟨keyword, back, htrim, hfolds, hback⟩ := of_isBlockClosing hclosing
  rw [trimStart_name hindent hname] at htrim
  obtain ⟨c, more, hid, rfl, _⟩ := exists_of_keyword hname hnode hends (by decide)
    (forall_mem_of_all rfl) hfolds htrim
  have hc : c ∈ id := by simp [hid]
  have hblank := hname.isBlank_of_mem hc
  have hsemicolon : c ≠ ';' := by
    rintro rfl
    exact absurd (hname.of_mem hc) (by decide)
  rw [isLineEnd, (Solid.cons hblank _).trimStart_eq] at hback
  simp [hsemicolon] at hback

/-- The line opens a block if its name goes on behind the keyword as no word does. -/
theorem isSome_blockOpening?_name (hindent : Blanks indent) (hname : IsName id)
    (hnode : isKeyword id = false)
    (hends : ∀ c, rest.head? = some c → isNameChar c = false ∧ c ≠ '-') :
    (blockOpening? (indent ++ (id ++ rest))).isSome = isBlockName id := by
  rw [Bool.eq_iff_iff, isBlockName_iff hname]
  constructor
  · intro hopens
    obtain ⟨opening, hopening⟩ := Option.isSome_iff_exists.mp hopens
    obtain ⟨keyword, back, htrim, hfolds, hback, _⟩ := of_blockOpening? hopening
    rw [trimStart_name hindent hname] at htrim
    obtain ⟨c, more, hid, rfl, hlower⟩ := exists_of_keyword hname hnode hends (by decide)
      (forall_mem_of_all rfl) hfolds htrim
    refine ⟨keyword, c, more, hid, hlower, ?_⟩
    have hmem : c ∈ id := by simp [hid]
    have hword := hback c rfl
    rw [isWord, if_pos (hname.inAscii c hmem), Bool.or_eq_false_iff] at hword
    have hc := hname.of_mem hmem
    simp only [isNameChar, hword.1, hword.2, Bool.false_or, decide_eq_true_eq] at hc
    exact hc.symm
  · rintro ⟨keyword, mark, more, rfl, hlower, hmark⟩
    have hfolds := foldsTo_map_toLower keyword
    rw [hlower] at hfolds
    have hword : isWord mark = false := by rcases hmark with rfl | rfl <;> decide
    have hsplit : splitFolded? "subgraph".toList (keyword ++ mark :: more ++ rest)
        = some (keyword, mark :: (more ++ rest)) :=
      splitFolded?_eq_some_iff.mpr ⟨List.append_assoc _ _ _, hfolds⟩
    rw [blockOpening?, trimStart_name hindent hname, hsplit]
    simp [hword]

end Front

/-! ## One block more -/

/-- One block more is never closed, or one closing line less is without a block. -/
def Imbalance.Deeper (deep flat : Imbalance) : Prop :=
  (deep.unclosed.length = flat.unclosed.length + 1 ∧
      deep.unexpected.length = flat.unexpected.length) ∨
    (deep.unclosed.length = flat.unclosed.length ∧
      deep.unexpected.length + 1 = flat.unexpected.length)

/-- A stack that is one frame higher stays so along the lines, until a closing line takes its
last frame and finds none on the other. -/
theorem imbalanceFrom_deeper {deep flat : List Frame} (h : deep.length = flat.length + 1)
    (lines : List NumberedLine) : (imbalanceFrom deep lines).Deeper (imbalanceFrom flat lines) := by
  induction lines generalizing deep flat with
  | nil => exact Or.inl ⟨by simpa [imbalanceFrom] using h, rfl⟩
  | cons line lines ih =>
      cases hmark : Mark.ofLine line.text with
      | opening =>
          simp only [imbalanceFrom, hmark]
          exact ih (by simp [h])
      | neither =>
          simp only [imbalanceFrom, hmark]
          exact ih h
      | closing =>
          obtain ⟨frame, deep, rfl⟩ := List.exists_cons_of_length_eq_add_one h
          have hlength : deep.length = flat.length := Nat.succ.inj h
          cases flat with
          | cons other flat =>
              simp only [imbalanceFrom, hmark]
              exact ih hlength
          | nil =>
              obtain rfl := List.eq_nil_of_length_eq_zero hlength
              simp only [imbalanceFrom, hmark]
              exact Or.inr ⟨rfl, rfl⟩

/-- So an opening line among others leaves one block more. -/
theorem imbalanceFrom_insert_opening {line : NumberedLine}
    (hline : Mark.ofLine line.text = .opening) (opened : List Frame)
    (front back : List NumberedLine) :
    (imbalanceFrom opened (front ++ line :: back)).Deeper
      (imbalanceFrom opened (front ++ back)) := by
  induction front generalizing opened with
  | nil =>
      simp only [List.nil_append, imbalanceFrom, hline]
      exact imbalanceFrom_deeper List.length_cons back
  | cons first front ih =>
      simp only [List.cons_append]
      cases hmark : Mark.ofLine first.text with
      | opening =>
          simp only [imbalanceFrom, hmark]
          exact ih _
      | neither =>
          simp only [imbalanceFrom, hmark]
          exact ih _
      | closing =>
          cases opened with
          | cons frame opened =>
              simp only [imbalanceFrom, hmark]
              exact ih _
          | nil =>
              have hrest := ih []
              simp only [imbalanceFrom, hmark]
              simpa [Imbalance.Deeper] using hrest

/-- There is one missing end more, or one unexpected end less. -/
def OneBlockMore (before after : List Issue) : Prop :=
  ((issuesOf .missingEnd after).length = (issuesOf .missingEnd before).length + 1 ∧
      (issuesOf .unexpectedEnd after).length = (issuesOf .unexpectedEnd before).length) ∨
    ((issuesOf .missingEnd after).length = (issuesOf .missingEnd before).length ∧
      (issuesOf .unexpectedEnd after).length + 1 = (issuesOf .unexpectedEnd before).length)

/-- There is one issue for each frame. -/
theorem length_issuesOf_checkBalance (limits : Limits) (lines : List Text) :
    (issuesOf .missingEnd (checkBalance limits lines)).length
        = (imbalanceFrom [] (inspectedLines limits lines)).unclosed.length ∧
      (issuesOf .unexpectedEnd (checkBalance limits lines)).length
        = (imbalanceFrom [] (inspectedLines limits lines)).unexpected.length := by
  have hunexpected : ∀ frame : Frame, frame.unexpectedEnd.kind = .unexpectedEnd := fun _ => rfl
  have hmissing : ∀ count (frame : Frame), (frame.missingEnd count).kind = .missingEnd :=
    fun _ _ => rfl
  simp [issuesOf, checkBalance, List.filter_map, Function.comp_def, hunexpected, hmissing]

/-- A line that opens a block and is looked at adds one to what is out of balance. -/
theorem oneBlockMore_insert {limits : Limits} {new : Text} (hkept : isInspected limits new = true)
    (hnew : Mark.ofLine new = .opening) (front back : List Text) :
    OneBlockMore (checkBalance limits (front ++ back))
      (checkBalance limits (front ++ new :: back)) := by
  have hline : Mark.ofLine (NumberedLine.mk (1 + front.length) new).text = .opening := hnew
  have hdeeper := imbalanceFrom_insert_opening hline []
    (inspectedLines limits front) (inspectedFrom limits (1 + front.length + 1) back)
  rw [← inspectedLines_map_moved, imbalanceFrom_moved] at hdeeper
  have hinserted : inspectedLines limits (front ++ new :: back)
      = inspectedLines limits front
        ++ ⟨1 + front.length, new⟩ :: inspectedFrom limits (1 + front.length + 1) back := by
    rw [inspectedLines_append, inspectedFrom_cons, inspectedFrom_of_inspected hkept]
    rfl
  obtain ⟨hmissing, hunexpected⟩ := length_issuesOf_checkBalance limits (front ++ back)
  obtain ⟨hmissing', hunexpected'⟩ := length_issuesOf_checkBalance limits (front ++ new :: back)
  rw [OneBlockMore, hmissing, hunexpected, hmissing', hunexpected', hinserted]
  simpa [Imbalance.Deeper, Imbalance.moved] using hdeeper

/-! ## Insertion -/

/-- What one more line at that place does to the issues of blocks, if the line begins with the
name: it counts as one block more if it opens one and is looked at, and else it moves them. -/
def CountsByName (limits : Limits) (id line : Text) (place : Int) (before after : List Text) :
    Prop :=
  if isBlockName id = true ∧ isInspected limits line = true then
    OneBlockMore (checkBalance limits before) (checkBalance limits after)
  else checkBalance limits after = (checkBalance limits before).map (Issue.movedDown place)

/-- A line that closes no block counts by its name. -/
theorem countsByName_insert {limits : Limits} {id line : Text}
    (hcloses : isBlockClosing line = false)
    (hopens : (blockOpening? line).isSome = isBlockName id) (front back : List Text) :
    CountsByName limits id line (front.length + 1) (front ++ back) (front ++ line :: back) := by
  unfold CountsByName
  split
  · next h =>
      exact oneBlockMore_insert h.2 (by simp [Mark.ofLine, hopens, h.1]) front back
  · next h =>
      refine checkBalance_insert_neither fun hkept => ?_
      have hname : isBlockName id = false := eq_false_of_ne_true fun hname => h ⟨hname, hkept⟩
      simp [Mark.ofLine, hopens, hname, hcloses]

/-- A definition that is not stale stands in front of the line that it speaks of. -/
theorem Definition.exists_of_applyTo? {definition : Definition} {before after : List Text}
    (h : definition.applyTo? before = some after) :
    ∃ front back, before = front ++ back ∧
      after = front ++ definitionLine definition.nodeId :: back ∧
      (front.length : Int) + 1 = max definition.insertBeforeLine 1 := by
  simp only [Definition.applyTo?] at h
  split at h
  · cases h
  · next hroom =>
      refine ⟨_, _, (List.take_append_drop _ before).symm, (Option.some.inj h).symm, ?_⟩
      rw [List.length_take]
      omega

/-- **A line that begins with a name which is no keyword closes no block, and opens one exactly
if the name begins with the keyword of blocks and a hyphen or a colon.** So it counts wherever it is
inserted, and so does the line with which a fix defines the name. -/
theorem checkBalance_insert_name (limits : Limits) {indent id rest : Text}
    (hindent : Blanks indent) (hname : IsName id) (hnode : isKeyword id = false)
    (hends : ∀ c, rest.head? = some c → isNameChar c = false ∧ c ≠ '-') :
    isBlockClosing (indent ++ (id ++ rest)) = false ∧
      (blockOpening? (indent ++ (id ++ rest))).isSome = isBlockName id ∧
      (∀ front back, CountsByName limits id (indent ++ (id ++ rest)) (front.length + 1)
        (front ++ back) (front ++ (indent ++ (id ++ rest)) :: back)) ∧
      ∀ place before after, (Definition.mk id place).applyTo? before = some after →
        CountsByName limits id (definitionLine id) (max place 1) before after := by
  have hcloses := isBlockClosing_name hindent hname hnode hends
  have hopens := isSome_blockOpening?_name hindent hname hnode hends
  refine ⟨hcloses, hopens, countsByName_insert hcloses hopens, ?_⟩
  intro place before after happlied
  obtain ⟨front, back, rfl, rfl, hplace⟩ := Definition.exists_of_applyTo? happlied
  have hline : definitionLine id = "    ".toList ++ (id ++ '[' :: (id ++ [']'])) := by
    unfold definitionLine
    rw [List.append_assoc, List.append_assoc, List.cons_append]
  have hblanks : Blanks "    ".toList := forall_mem_of_all rfl
  have hbracket : ∀ c, ('[' :: (id ++ [']'])).head? = some c → isNameChar c = false ∧ c ≠ '-' := by
    rintro c ⟨⟩
    decide
  rw [← hplace, hline]
  exact countsByName_insert (isBlockClosing_name hblanks hname hnode hbracket)
    (isSome_blockOpening?_name hblanks hname hnode hbracket) front back

/-- A name that begins like a keyword neither closes the block around it nor opens another. -/
theorem checkBalance_insert_name_endpoint :
    IsName "endpoint".toList ∧ isKeyword "endpoint".toList = false ∧
      isBlockName "endpoint".toList = false ∧
      checkBalance {} ["subgraph A".toList, "endpoint --> B".toList]
        = (checkBalance {} ["subgraph A".toList]).map (Issue.movedDown 2) ∧
      checkBalance {} ["subgraph A".toList, "    endpoint[endpoint]".toList]
        = (checkBalance {} ["subgraph A".toList]).map (Issue.movedDown 2) := by
  have hname : IsName "endpoint".toList := rfl
  have hnode : isKeyword "endpoint".toList = false := by decide
  have hother : isBlockName "endpoint".toList = false := by decide
  have hends : ∀ c, " --> B".toList.head? = some c → isNameChar c = false ∧ c ≠ '-' := by
    rintro c ⟨⟩
    decide
  have happlied : (Definition.mk "endpoint".toList 2).applyTo? ["subgraph A".toList]
      = some ["subgraph A".toList, "    endpoint[endpoint]".toList] := by decide
  obtain ⟨_, _, hinserted, hdefined⟩ := checkBalance_insert_name {} Blanks.nil hname hnode hends
  have hmoves : ∀ line, ¬ (isBlockName "endpoint".toList = true ∧ isInspected {} line = true) := by
    intro line hopens
    rw [hother] at hopens
    cases hopens.1
  have hline := hinserted ["subgraph A".toList] []
  have hdefinition := hdefined 2 _ _ happlied
  rw [CountsByName, if_neg (hmoves _)] at hline hdefinition
  exact ⟨hname, hnode, hother, hline, hdefinition⟩

/-- The name `subgraph-x` is a node, and a line that defines it opens a block. -/
theorem checkBalance_insert_subgraphName :
    (extractNames {} ["subgraph-x[y]".toList]).nodes = ["subgraph-x".toList] ∧
      (checkBalance {} ["subgraph-x[y]".toList]).map (fun issue => (issue.kind, issue.line))
        = [(.missingEnd, 1)] ∧
      ¬ ∀ (indent id rest : Text) (front back : List Text), Blanks indent → IsName id →
        isKeyword id = false →
        (∀ c, rest.head? = some c → isNameChar c = false ∧ c ≠ '-') →
        checkBalance {} (front ++ (indent ++ (id ++ rest)) :: back)
          = (checkBalance {} (front ++ back)).map (Issue.movedDown (front.length + 1)) := by
  refine ⟨by decide, by decide, ?_⟩
  intro hall
  have hends : ∀ c, "[y]".toList.head? = some c → isNameChar c = false ∧ c ≠ '-' := by
    rintro c ⟨⟩
    decide
  have hkept := hall [] "subgraph-x".toList "[y]".toList [] [] Blanks.nil rfl (by decide) hends
  exact absurd hkept (by decide)

end Flowchart
