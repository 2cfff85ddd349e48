import Flowchart.Fix.Apply
import Flowchart.Proofs.Analysis
import Flowchart.Proofs.Chain.Names
import Flowchart.Proofs.Fix.Direction
import Flowchart.Proofs.Place

/-!
# Fixes make progress

Each kind of fix leaves the references of a document as they are and lowers its
budget.  A redirected header is one header less without a direction; a closing
line leaves one block less open; and the line that defines a reference takes it
from the undefined ones, though its name may open a block.

Main statement: `Fixable.progress`.
-/

namespace Flowchart

/-- The name can be defined by a line that is looked at. -/
structure Definable (limits : Limits) (id : Text) : Prop where
  /-- The name is one identifier. -/
  isName : IsName id
  /-- A node can have the name. -/
  isNode : isKeyword id = false
  /-- There is no class tag in the name. -/
  untagged : Untagged id
  /-- The line that defines it is not too long. -/
  fits : 2 * (id.length : Int) + 6 ≤ limits.maxLineLength

/-- Fixes can be applied to the lines: these are found again in the text they are
joined to, all references can be defined, and a short line is looked at. -/
structure Fixable (limits : Limits) (lines : List Text) : Prop where
  /-- There are no breaks in the lines. -/
  unbroken : ∀ line ∈ lines, Unbroken line
  /-- The references can be defined. -/
  definable : ∀ id ∈ (extractNames limits lines).references, Definable limits id
  /-- There is room for a line of six characters. -/
  room : 6 ≤ limits.maxLineLength

/-- The lines have the same references as those before, and less to fix. -/
structure Progress (limits : Limits) (before lines : List Text) : Prop where
  /-- There are lines. -/
  ne_nil : lines ≠ []
  /-- There are no breaks in the lines. -/
  unbroken : ∀ line ∈ lines, Unbroken line
  /-- The references are those before. -/
  references : (extractNames limits lines).references = (extractNames limits before).references
  /-- There is less to fix. -/
  budget_lt : budget limits lines < budget limits before

/-- Progress keeps lines such that fixes can be applied to them. -/
theorem Fixable.of_progress {limits : Limits} {before lines : List Text}
    (h : Fixable limits before) (hprogress : Progress limits before lines) :
    Fixable limits lines where
  unbroken := hprogress.unbroken
  definable := by
    rw [hprogress.references]
    exact h.definable
  room := h.room

/-- One unbroken line more leaves no break in the lines. -/
theorem unbroken_insert {front back : List Text} {line : Text}
    (h : ∀ other ∈ front ++ back, Unbroken other) (hline : Unbroken line) :
    ∀ other ∈ front ++ line :: back, Unbroken other := by
  obtain ⟨hfront, hback⟩ := List.forall_mem_append.mp h
  exact List.forall_mem_append.mpr ⟨hfront, List.forall_mem_cons.mpr ⟨hline, hback⟩⟩

/-- The lines that a fix leaves are those of the text that it leaves. -/
theorem splitLines_apply {fix : Fix} {source : Text} {lines : List Text}
    (happlied : fix.applyToLines? (splitLines source) = some lines)
    (hlines : Joinable (Newline.ofText source) lines) : splitLines (fix.apply source) = lines := by
  unfold Fix.apply
  rw [happlied]
  exact hlines.splitLines_joinLines

/-- The lines that a fix leaves are those of the text that it leaves. -/
theorem joinedLines_apply {fix : Fix} {source : Text} {lines : List Text}
    (happlied : fix.applyToLines? (splitLines source) = some lines) (hne : lines ≠ [])
    (hunbroken : ∀ line ∈ lines, Unbroken line) :
    splitLines (fix.apply source) = lines :=
  splitLines_apply happlied (joinable_of_unbroken _ hne hunbroken)

/-! ## Redirected headers -/

/-- A header that is not looked at any more counts as little as one with a direction. -/
theorem filter_redirected {limits : Limits} {line new : Text} (front back : List Text)
    (hline : Idle line) (hnew : Idle new) (hkept : isInspected limits line = true)
    (hastray : isAstray line = true) (hmended : isAstray new = false) :
    namesOf ((front ++ new :: back).filter (isInspected limits))
        = namesOf ((front ++ line :: back).filter (isInspected limits)) ∧
      keptBudget ((front ++ new :: back).filter (isInspected limits))
        < keptBudget ((front ++ line :: back).filter (isInspected limits)) := by
  have hold := namesOf_insert hline.definitions hline.references
    (front.filter (isInspected limits)) (back.filter (isInspected limits))
  rw [List.filter_append, List.filter_append, List.filter_cons_of_pos hkept]
  by_cases hinspected : isInspected limits new = true
  · rw [List.filter_cons_of_pos hinspected]
    have hnames := namesOf_insert hnew.definitions hnew.references
      (front.filter (isInspected limits)) (back.filter (isInspected limits))
    refine ⟨hnames.trans hold.symm, ?_⟩
    simp only [keptBudget, hnames, hold, openBlocks_append, hline.openBlocks_cons,
      hnew.openBlocks_cons, List.countP_append, List.countP_cons, hastray, hmended]
    simp
  · rw [List.filter_cons_of_neg hinspected]
    refine ⟨hold.symm, ?_⟩
    simp only [keptBudget, hold, openBlocks_append, hline.openBlocks_cons, List.countP_append,
      List.countP_cons, hastray]
    simp

/-- A redirected header is progress. -/
theorem Fixable.redirect {limits : Limits} {lines : List Text} (h : Fixable limits lines)
    {line : NumberedLine} {header : Header} {rest : Text}
    (hline : line ∈ inspectedLines limits lines) (hreads : header.Reads line.text rest)
    (hastray : isAstray line.text = true) (direction : Direction) :
    ∃ after, (header.redirect line.number direction).applyToLines? lines = some after ∧
      Progress limits lines after := by
  obtain ⟨hkept, front, back, hlines, hnumber⟩ := exists_of_mem_inspected hline
  refine ⟨front ++ header.redirectedLine direction rest :: back, ?_, ?_⟩
  · rw [hlines, hnumber]
    exact hreads.applyToLines?_redirect front back direction
  · obtain ⟨hnames, hbudget⟩ := filter_redirected front back hreads.idle
      (hreads.redirected direction).idle hkept hastray (hreads.isAstray_redirected direction)
    refine ⟨by simp, ?_, ?_, ?_⟩
    · have hbroken := h.unbroken
      rw [hlines] at hbroken
      obtain ⟨hfront, hrest⟩ := List.forall_mem_append.mp hbroken
      obtain ⟨hold, hback⟩ := List.forall_mem_cons.mp hrest
      exact unbroken_insert (List.forall_mem_append.mpr ⟨hfront, hback⟩)
        (hreads.unbroken_redirected hold direction)
    · rw [extractNames_eq, extractNames_eq, hlines]
      exact congrArg Names.references hnames
    · rwa [budget_eq, budget_eq, hlines]

/-! ## Inserted lines -/

/-- An inserted line without references is progress if there is less to fix. -/
theorem Fixable.insert {limits : Limits} {front back : List Text} {line : Text}
    (h : Fixable limits (front ++ back)) (hkept : isInspected limits line = true)
    (hline : Unbroken line) (hreferences : lineReferences line = [])
    (hbudget : keptBudget (front.filter (isInspected limits)
        ++ line :: back.filter (isInspected limits))
      < keptBudget (front.filter (isInspected limits) ++ back.filter (isInspected limits))) :
    Progress limits (front ++ back) (front ++ line :: back) where
  ne_nil := by simp
  unbroken := unbroken_insert h.unbroken hline
  references := references_insert hreferences limits front back
  budget_lt := by
    rw [budget_eq, budget_eq, List.filter_append, List.filter_append,
      List.filter_cons_of_pos hkept]
    exact hbudget

/-! ## Closing lines -/

/-- Empty lines open and close nothing. -/
theorem openBlocks_empty {lines : List Text} (h : ∀ line ∈ lines, line = []) (depth : Nat) :
    openBlocks depth lines = depth := by
  induction lines with
  | nil => rfl
  | cons line lines ih =>
      obtain rfl := h line List.mem_cons_self
      rw [idle_nil.openBlocks_cons]
      exact ih fun other hother => h other (List.mem_cons_of_mem _ hother)

/-- Before empty lines at the end a closing line closes an open block. -/
theorem keptBudget_end {front back : List Text} (hback : ∀ line ∈ back, line = [])
    (hopen : 0 < openBlocks 0 (front ++ back)) :
    keptBudget (front ++ "end".toList :: back) < keptBudget (front ++ back) := by
  have hnames := @namesOf_insert "end".toList (by rfl) (by rfl) front back
  have hmark : Mark.ofLine "end".toList = .closing := by rfl
  have hastray : isAstray "end".toList = false := by rfl
  rw [openBlocks_append, openBlocks_empty hback] at hopen
  simp only [keptBudget, hnames, List.countP_append, List.countP_cons, hastray,
    openBlocks_append, openBlocks_cons, hmark, openBlocks_empty hback, Mark.after]
  simp only [Bool.false_eq_true, if_false]
  omega

/-- The closing line comes behind all lines that are not empty. -/
theorem appendEndLine_eq (lines : List Text) :
    ∃ front back, lines = front ++ back ∧ appendEndLine lines = front ++ "end".toList :: back ∧
      ∀ line ∈ back, line = [] := by
  unfold appendEndLine
  split
  · rename_i hlast
    obtain ⟨front, hfront⟩ := List.getLast?_eq_some_iff.mp hlast.2
    refine ⟨front, [[]], hfront, ?_, by simp⟩
    rw [hfront, List.dropLast_concat]
  · exact ⟨lines, [], by simp, rfl, nofun⟩

/-- A closing line is looked at where there is room for its three characters. -/
theorem isInspected_end {limits : Limits} (hroom : 3 ≤ limits.maxLineLength) :
    isInspected limits "end".toList = true := by
  have hcomment : isComment "end".toList = false := by rfl
  simp only [isInspected, hcomment, Bool.not_false, Bool.and_true, decide_eq_true_eq]
  exact hroom

/-- A closing line is progress while a block is open. -/
theorem Fixable.appendEnd {limits : Limits} {lines : List Text} (h : Fixable limits lines)
    (hopen : (imbalanceFrom [] (inspectedLines limits lines)).unclosed ≠ []) :
    Progress limits lines (appendEndLine lines) := by
  obtain ⟨front, back, hlines, hended, hback⟩ := appendEndLine_eq lines
  have hcount := List.length_pos_iff.mpr hopen
  rw [length_unclosed_inspected, hlines, List.filter_append] at hcount
  have hkept := isInspected_end (Int.le_trans (by decide) h.room)
  rw [hended, hlines]
  rw [hlines] at h
  refine h.insert hkept (forall_mem_of_all rfl) (by rfl) (keptBudget_end ?_ hcount)
  intro line hline
  exact hback line (List.mem_filter.mp hline).1

/-! ## Definitions -/

/-- The line that defines a name, as a single endpoint with the name for a label. -/
def Definable.chain {limits : Limits} {id : Text} (h : Definable limits id) : Chain where
  indent := "    ".toList
  legs := []
  last :=
    { id := id
      shape := some ⟨.square, id,
        nested_of_not_bracket fun _ hc => h.isName.neutral.isBracket_of_mem hc,
        h.isName.neutral.unquoted⟩
      isName := h.isName
      untagged := h.untagged
      isNode := h.isNode
      isPlain := nofun }
  blankIndent := forall_mem_of_all rfl

/-- The chain that defines a name has the text of the line that does. -/
theorem Definable.chain_text {limits : Limits} {id : Text} (h : Definable limits id) :
    h.chain.text = definitionLine id := by
  simp [Definable.chain, Chain.text, legsText, Endpoint.text, Endpoint.shapeText, Shape.text,
    Bracket.opener, Bracket.closer, definitionLine]

namespace Definable

variable {limits : Limits} {id : Text}

/-- The line that defines the name is looked at. -/
theorem isInspected_definitionLine (h : Definable limits id) :
    isInspected limits (definitionLine id) = true := by
  have hlength : ((definitionLine id).length : Int) ≤ limits.maxLineLength := by
    have hfits := h.fits
    simp only [definitionLine, List.length_append, List.length_cons, List.length_nil]
    have hindent : "    ".toList.length = 4 := by rfl
    omega
  rw [← h.chain_text] at hlength ⊢
  exact h.chain.isInspected_eq hlength

/-- It defines the name and nothing else. -/
theorem lineDefinitions_definitionLine (h : Definable limits id) :
    lineDefinitions (definitionLine id) = [id] := by
  rw [← h.chain_text]
  exact Chain.lineDefinitions_single (show h.chain.legs = [] from rfl)

/-- It refers to nothing. -/
theorem lineReferences_definitionLine (h : Definable limits id) :
    lineReferences (definitionLine id) = [] := by
  rw [← h.chain_text]
  exact Chain.lineReferences_single (show h.chain.legs = [] from rfl)

/-- It is no header. -/
theorem ofLine?_definitionLine (h : Definable limits id) :
    Header.ofLine? (definitionLine id) = none := by
  rw [← h.chain_text]
  exact h.chain.ofLine?_eq_none

end Definable

/-- The line that defines a name is inserted where the fix says. -/
theorem applyTo?_definition (id : Text) (front back : List Text) :
    (Definition.mk id (front.length + 1)).applyTo? (front ++ back)
      = some (front ++ definitionLine id :: back) := by
  simp [Definition.applyTo?]

/-- There is no break in a name. -/
theorem IsName.unbroken {id : Text} (h : IsName id) : Unbroken id := by
  intro c hc
  have hblank := h.isBlank_of_mem hc
  constructor
  · rintro rfl
    exact absurd hblank (by decide)
  · rintro rfl
    exact absurd hblank (by decide)

/-- A name without breaks is defined by a line without breaks. -/
theorem unbroken_definitionLine {id : Text} (h : Unbroken id) : Unbroken (definitionLine id) := by
  have hmarks : ∀ c ∈ [' ', '[', ']'], c ≠ '\n' ∧ c ≠ '\r' := forall_mem_of_all rfl
  intro c hc
  by_cases hid : c ∈ id
  · exact h c hid
  · refine hmarks c ?_
    simp only [definitionLine, List.mem_append, List.mem_cons, hid] at hc
    simpa [or_assoc] using hc

/-- A definition takes a reference from the undefined ones, and opens at most one block. -/
theorem keptBudget_definition {front back : List Text} {line id : Text}
    (hdefinitions : lineDefinitions line = [id]) (hreferences : lineReferences line = [])
    (hastray : isAstray line = false) (hundefined : id ∈ (namesOf (front ++ back)).undefined) :
    keptBudget (front ++ line :: back) < keptBudget (front ++ back) := by
  have hblocks := openBlocks_insert 0 front line back
  have hlt : (namesOf (front ++ line :: back)).undefined.length
      < (namesOf (front ++ back)).undefined.length := by
    refine length_undefined_lt ?_ (fun node hnode => ?_) hundefined ?_
    · simp [namesOf, hreferences]
    · simp only [namesOf, List.mem_eraseDups, List.flatMap_append, List.flatMap_cons,
        List.mem_append] at hnode ⊢
      rcases hnode with hfront | hback
      · exact Or.inl hfront
      · exact Or.inr (Or.inr hback)
    · simp [namesOf, hdefinitions]
  simp only [keptBudget, List.countP_append, List.countP_cons, hastray, Bool.false_eq_true,
    if_false]
  omega

/-- The definition of an undefined reference is progress, wherever it is inserted. -/
theorem Fixable.define {limits : Limits} {front back : List Text}
    (h : Fixable limits (front ++ back)) {id : Text}
    (hundefined : id ∈ (extractNames limits (front ++ back)).undefined) :
    Progress limits (front ++ back) (front ++ definitionLine id :: back) := by
  have hdefinable := h.definable id (List.mem_filter.mp hundefined).1
  have hreferences := hdefinable.lineReferences_definitionLine
  have hastray : isAstray (definitionLine id) = false := by
    rw [isAstray, hdefinable.ofLine?_definitionLine]
    rfl
  refine h.insert hdefinable.isInspected_definitionLine
    (unbroken_definitionLine hdefinable.isName.unbroken) hreferences (keptBudget_definition
      hdefinable.lineDefinitions_definitionLine hreferences hastray ?_)
  rw [extractNames_eq, List.filter_append] at hundefined
  exact hundefined

/-! ## All candidates -/

/-- **Every candidate of every issue makes progress.** -/
theorem Fixable.progress {limits : Limits} {lines : List Text} (h : Fixable limits lines)
    {issue : Issue} {fix : Fix} (hissue : issue ∈ analyzeLines limits lines)
    (hfix : fix ∈ issue.candidates) :
    ∃ after, fix.applyToLines? lines = some after ∧ Progress limits lines after := by
  cases found_of_mem hissue with
  | @astray line header _ hline hheader hmade =>
      obtain ⟨rest, hreads⟩ := Header.ofLine?_eq_some_iff.mp hheader
      obtain ⟨direction, rfl⟩ := hreads.of_mem_candidates hmade hfix
      obtain ⟨_, hstray, _⟩ := of_issue?_eq_some hmade
      exact h.redirect hline hreads (by simp [isAstray, hheader, hstray]) direction
  | unexpected _ => cases hfix
  | unclosed hframe =>
      obtain rfl := List.mem_singleton.mp hfix
      exact ⟨appendEndLine lines, rfl, h.appendEnd (List.ne_nil_of_mem hframe)⟩
  | @misspelt id node number column hid hundefined hlocate =>
      obtain rfl := List.mem_singleton.mp hfix
      obtain ⟨front, back, line, _, rfl, rfl, _⟩ := firstPlace_of_locate? hlocate
      have hmissing : id ∈ (extractNames limits (front ++ line :: back)).undefined :=
        List.mem_filter.mpr ⟨hid, by simpa using hundefined⟩
      exact ⟨_, applyTo?_definition id front (line :: back), h.define hmissing⟩

end Flowchart
