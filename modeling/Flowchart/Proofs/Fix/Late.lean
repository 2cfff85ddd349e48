import Flowchart.Proofs.Fix.Redirect

/-!
# Fixes that come late

A fix is made for one document and may be applied to another.  Where the line that it
speaks of lies behind the last, it is stale and changes nothing, neither the lines nor a
newline; but a definition for the line right behind the last is appended.

A direction may be put into a header that has it already.  The fix is stale then if the
header text that it exchanged is gone from the line.  It is not gone where the direction
begins with the word it took the place of, as `TD` with `T`, nor where the old header text
is written again behind it.

Main statements: `apply_behind_last`, `direction_put_again`.
-/

namespace Flowchart

/-! ## Lines behind the last -/

/-- The line that a fix speaks of.  An ending has its place whatever the lines are. -/
def Fix.target? : Fix → Option Int
  | replace change => some change.line
  | appendEnd _ => none
  | defineNode definition => some definition.insertBeforeLine

/-- The fix changes no document of so many lines. -/
structure Fix.StaleFor (fix : Fix) (count : Nat) : Prop where
  /-- Such lines are given back as they are. -/
  lines : ∀ lines, lines.length = count →
    fix.applyToLines? lines = none ∧ fix.applyToLines lines = lines
  /-- A text of such lines is left alone, whatever its newlines. -/
  text : ∀ source, (splitLines source).length = count → fix.apply source = source

/-- The fix puts the line behind the last of every document of so many lines. -/
structure Fix.Appends (fix : Fix) (new : Text) (count : Nat) : Prop where
  /-- The line comes in behind such lines. -/
  lines : ∀ lines, lines.length = count → fix.applyToLines? lines = some (lines ++ [new])
  /-- It is joined to a text of such lines. -/
  text : ∀ source, (splitLines source).length = count →
    fix.apply source = joinLines (Newline.ofText source).text (splitLines source ++ [new])

/-- A fix that is stale for all such lines changes no such text. -/
theorem Fix.staleFor_of_lines {fix : Fix} {count : Nat}
    (h : ∀ lines, lines.length = count → fix.applyToLines? lines = none) :
    fix.StaleFor count where
  lines := fun lines hlines => ⟨h lines hlines, by rw [applyToLines, h lines hlines]; rfl⟩
  text := fun source hsource => by rw [apply, h _ hsource]

/-- A fix that appends a line to all such lines appends it to all such texts. -/
theorem Fix.appends_of_lines {fix : Fix} {new : Text} {count : Nat}
    (h : ∀ lines, lines.length = count → fix.applyToLines? lines = some (lines ++ [new])) :
    fix.Appends new count where
  lines := h
  text := fun source hsource => by rw [apply, h _ hsource]

/-- A replacement finds no line behind the last. -/
theorem Replacement.applyTo?_eq_none {change : Replacement} {lines : List Text}
    (h : (lines.length : Int) < change.line) : change.applyTo? lines = none := by
  have hplace : lines.length ≤ (change.line - 1).toNat := by omega
  have hline : lines[(change.line - 1).toNat]? = none := List.getElem?_eq_none hplace
  simp only [applyTo?, hline]
  split <;> rfl

/-- A definition finds its place as long as that is no further than right behind the last
line. -/
theorem Definition.applyTo?_eq_none_iff {definition : Definition} {lines : List Text} :
    definition.applyTo? lines = none ↔ (lines.length : Int) + 1 < definition.insertBeforeLine := by
  simp only [applyTo?]
  split
  · next hstale => exact iff_of_true rfl (by omega)
  · next hplace => exact iff_of_false (Option.some_ne_none _) (by omega)

/-- **A fix for a line behind the last changes nothing**, unless it is the definition for the
line right behind the last, which is appended. -/
theorem apply_behind_last {fix : Fix} {target : Int} (htarget : fix.target? = some target)
    {count : Nat} (hbehind : count < target) :
    fix.StaleFor count ∨
      ∃ id, fix = .defineNode ⟨id, count + 1⟩ ∧ fix.Appends (definitionLine id) count := by
  cases fix with
  | replace change =>
      obtain rfl := Option.some.inj htarget
      refine Or.inl (Fix.staleFor_of_lines fun lines hlines => ?_)
      exact change.applyTo?_eq_none (by omega)
  | appendEnd ending => cases htarget
  | defineNode definition =>
      obtain ⟨id, place⟩ := definition
      obtain rfl : place = target := Option.some.inj htarget
      by_cases hnext : place = count + 1
      · subst hnext
        refine Or.inr ⟨id, rfl, Fix.appends_of_lines fun lines hlines => ?_⟩
        have happlied := applyTo?_definition id lines []
        rwa [List.append_nil, hlines] at happlied
      · refine Or.inl (Fix.staleFor_of_lines fun lines hlines => ?_)
        refine Definition.applyTo?_eq_none_iff.mpr ?_
        change (lines.length : Int) + 1 < place
        omega

/-- A text of three lines with both newlines, the last of which is empty. -/
def mixedSource : Text :=
  "graph up\r\nA-->B\n".toList

/-- A replacement for the fourth line of three, and a definition for the fifth, leave the text
alone; a definition for the fourth is appended. -/
theorem apply_behind_last_mixed :
    (splitLines mixedSource).length = 3 ∧
      (Fix.replace ⟨4, [], "end".toList⟩).apply mixedSource = mixedSource ∧
      (Fix.defineNode ⟨"B".toList, 5⟩).apply mixedSource = mixedSource ∧
      (Fix.defineNode ⟨"B".toList, 4⟩).apply mixedSource
        = "graph up\r\nA-->B\r\n\r\n    B[B]".toList := by
  have hlength : (splitLines mixedSource).length = 3 := by decide
  have hlate : ∀ fix : Fix, ∀ target : Int, fix.target? = some target → 3 < target →
      (∀ id, fix ≠ .defineNode ⟨id, 4⟩) → fix.apply mixedSource = mixedSource := by
    intro fix target htarget hbehind hnext
    rcases @apply_behind_last fix target htarget 3 hbehind with hstale | ⟨id, hfix, _⟩
    · exact hstale.text mixedSource hlength
    · exact absurd hfix (hnext id)
  refine ⟨hlength, hlate _ 4 rfl (by decide) fun _ => nofun,
    hlate _ 5 rfl (by decide) fun id => by simp, ?_⟩
  rcases @apply_behind_last (.defineNode ⟨"B".toList, 4⟩) 4 rfl 3 (by decide) with hstale | happends
  · exact absurd (hstale.lines ["A".toList, [], []] rfl).1 nofun
  · obtain ⟨id, hid, happends⟩ := happends
    obtain rfl : "B".toList = id := by simpa using hid
    exact happends.text mixedSource hlength

/-- A definition whose line was deleted is appended to the one line that is left. -/
theorem apply_next_line :
    (Fix.defineNode ⟨"B".toList, 2⟩).target? = some 2 ∧
      (["A-->B".toList].length : Int) < 2 ∧
      (Fix.defineNode ⟨"B".toList, 2⟩).applyToLines ["A-->B".toList]
        = ["A-->B".toList, "    B[B]".toList] ∧
      (Fix.defineNode ⟨"B".toList, 2⟩).apply "A-->B".toList = "A-->B\n    B[B]".toList := by
  exact ⟨rfl, by decide, by decide, by decide⟩

/-! ## Directions put in again -/

/-- A word at the front of a word, with no word character behind that, is at its front. -/
theorem prefix_of_words {word name rest : Text} (hword : ∀ c ∈ word, isWord c = true)
    (hrest : ∀ c, rest.head? = some c → isWord c = false) (h : word <+: name ++ rest) :
    word <+: name := by
  rcases List.prefix_or_prefix_of_prefix h (List.prefix_append name rest) with hname | hlonger
  · exact hname
  · obtain ⟨more, rfl⟩ := hlonger
    obtain ⟨behind, hbehind⟩ := (List.prefix_append_right_inj name).mp h
    cases more with
    | nil => simp
    | cons c more =>
        have hc := hword c (by simp)
        rw [hrest c (by rw [← hbehind]; rfl)] at hc
        cases hc

/-- No direction has the first letter of a header word. -/
theorem Direction.not_mem_name {c : Char} (h : c.toLower = 'g' ∨ c.toLower = 'f')
    (direction : Direction) : c ∉ direction.name := by
  intro hmem
  have hlower : c.toLower ∈ direction.name.map Char.toLower := List.mem_map_of_mem hmem
  rcases h with h | h <;> rw [h] at hlower <;> revert hlower <;> cases direction <;> decide

/-- A replacement of one text by another leaves a text as it is exactly if the old one does not
stand on the line, as long as no break comes in with the new one.  The lines of both texts are known
then, and differ in what was exchanged. -/
theorem apply_replace_eq_self_iff {source : Text} {front back : List Text} {line : Text}
    (hlines : splitLines source = front ++ line :: back) {old new : Text} (hne : old ≠ new)
    (hjoinable : ∀ before behind, line = before ++ (old ++ behind) →
      Joinable (Newline.ofText source) (front ++ (before ++ (new ++ behind)) :: back)) :
    (Fix.replace ⟨(1 + front.length : Nat), old, new⟩).apply source = source
      ↔ ¬ old <:+: line := by
  have happlied := Replacement.applyTo?_append old new front back line
  rw [← hlines] at happlied
  cases hresult : replaceFirst? old new line with
  | none =>
      rw [hresult] at happlied
      refine iff_of_true ?_ (replaceFirst?_eq_none_iff.mp hresult)
      rw [Fix.apply, Fix.applyToLines?, happlied]
      rfl
  | some result =>
      rw [hresult] at happlied
      obtain ⟨before, behind, hline, rfl⟩ := exists_of_replaceFirst?_eq_some hresult
      refine iff_of_false (fun hsame => ?_) fun hgone => hgone ⟨before, behind, by simp [hline]⟩
      have hafter := @splitLines_apply (.replace _) _ _ happlied (hjoinable before behind hline)
      rw [hsame, hlines, hline] at hafter
      obtain ⟨hexchanged, _⟩ := List.cons.inj (List.append_cancel_left hafter)
      exact hne (List.append_cancel_right (List.append_cancel_left hexchanged))

namespace Header.Reads

variable {header : Header} {line rest : Text}

/-- The old header text stands in the line with another direction only at the keyword, where the
direction begins with the old word, or behind the direction.  At the keyword both texts have the
same keyword and the same gap. -/
theorem span_infix_redirectedLine_iff (h : header.Reads line rest) (direction : Direction) :
    header.span <:+: header.redirectedLine direction rest ↔
      header.direction <+: direction.name ∨ header.span <:+: rest := by
  obtain ⟨c, more, hkeyword, hc, honce⟩ := h.keyword.exists_cons
  have hsolid : isBlank c = false := h.keyword_solid [] c (by rw [hkeyword]; rfl)
  have hhead : header.span.head? = some c := by rw [Header.span, hkeyword]; rfl
  have hne : header.span ≠ [] := by
    intro hnil
    rw [hnil] at hhead
    cases hhead
  have hblank : ∀ {blanks : Text}, Blanks blanks → ∀ d ∈ blanks, header.span.head? ≠ some d := by
    intro blanks hblanks d hd hstart
    obtain rfl := Option.some.inj (hhead.symm.trans hstart)
    rw [hblanks c hd] at hsolid
    cases hsolid
  constructor
  · intro hwithin
    have hkept := infix_of_append hne (hblank h.indent) hwithin
    rw [hkeyword] at hkept
    rcases List.infix_cons_iff.mp hkept with hstart | hbehind
    · have hfront : header.keyword ++ header.gap ++ header.direction
          <+: header.keyword ++ header.gap ++ (direction.name ++ rest) := by
        simpa [Header.span, hkeyword] using hstart
      exact Or.inl (prefix_of_words h.direction h.rest
        ((List.prefix_append_right_inj (header.keyword ++ header.gap)).mp hfront))
    · refine Or.inr (infix_of_append hne ?_ hbehind)
      intro d hd hstart
      obtain rfl := Option.some.inj (hhead.symm.trans hstart)
      rcases List.mem_append.mp hd with hfront | hname
      · rcases List.mem_append.mp hfront with hmore | hgap
        · exact honce hmore
        · exact hblank h.gap c hgap hhead
      · exact direction.not_mem_name hc hname
  · rintro (⟨letters, hletters⟩ | hrest)
    · refine ⟨header.indent, letters ++ rest, ?_⟩
      simp [Header.span, redirectedLine, ← hletters]
    · exact hrest.trans ((List.suffix_append _ rest).trans (List.suffix_append _ _)).isInfix

/-- A header that has a direction already is left alone exactly if the old header text is gone
from its line. -/
theorem apply_redirect_eq_self_iff (h : header.Reads line rest) {direction : Direction}
    {source : Text} {front back : List Text}
    (hlines : splitLines source = front ++ header.redirectedLine direction rest :: back)
    (hother : header.direction ≠ direction.name) :
    (header.redirect (1 + front.length : Nat) direction).apply source = source
      ↔ ¬ header.direction <+: direction.name ∧ ¬ header.span <:+: rest := by
  have hspan : header.span ≠ header.keyword ++ header.gap ++ direction.name := fun hsame =>
    hother (List.append_cancel_left hsame)
  rw [← not_or, ← h.span_infix_redirectedLine_iff direction]
  refine apply_replace_eq_self_iff hlines hspan fun before behind hline => ?_
  have hjoinable := joinable_splitLines source
  have hparts : before ++ (header.span ++ behind)
      = (before ++ (header.keyword ++ header.gap)) ++ (header.direction ++ behind) := by
    simp [Header.span]
  rw [hlines, hline, hparts] at hjoinable
  simpa using hjoinable.exchange direction.name_ne_nil direction.unbroken_name

end Header.Reads

/-- The fix puts a direction into one header of the text.  To put it in again changes nothing
exactly if the header text that it exchanged is gone from the line: the direction does not begin
with the old word, and the old header text is not written again behind it. -/
def SettledOnce (source : Text) (issue : Issue) (fix : Fix) : Prop :=
  ∃ (front back : List Text) (line rest : Text) (header : Header) (direction : Direction),
    splitLines source = front ++ line :: back ∧ issue.line = front.length + 1 ∧
    header.Reads line rest ∧ fix = header.redirect issue.line direction ∧
    (fix.apply (fix.apply source) = fix.apply source ↔
      ¬ header.direction <+: direction.name ∧ ¬ header.span <:+: rest)

/-- **A direction that is put in again changes nothing, unless the old header text is still on
the line.** -/
theorem direction_put_again (limits : Limits) (source : Text) {issue : Issue}
    (hissue : issue ∈ analyze limits source) (hkind : issue.kind = .unknownDirection) {fix : Fix}
    (hfix : fix ∈ issue.candidates) : SettledOnce source issue fix := by
  rw [analyze_eq_analyzeLines] at hissue
  cases found_of_mem hissue with
  | unexpected _ => cases hkind
  | unclosed _ => cases hkind
  | misspelt _ _ _ => cases hkind
  | @astray line header _ hline hheader hmade =>
      obtain ⟨front, back, rest, direction, hlines, hnumber, hreads, rfl, hredirected⟩ :=
        redirected_of_mem_candidates hline hheader hmade hfix
      obtain ⟨_, hnone, hnumbered, _⟩ := of_issue?_eq_some hmade
      have hother : header.direction ≠ direction.name := by
        intro hsame
        rw [hsame] at hnone
        revert hnone
        cases direction <;> decide
      have hsettled := hreads.apply_redirect_eq_self_iff hredirected.lines hother
      rw [← hnumber] at hsettled
      exact ⟨front, back, line.text, rest, header, direction, hlines, by omega, hreads,
        by rw [hnumbered], hsettled⟩

/-- A header whose word begins two of the directions, with another header behind it. -/
def begunSource : Text :=
  "\r Graph\tT; graph T\r\nend\n".toList

/-- Put in again, the two directions that begin with the word change the text once more, and the
other three do not. -/
theorem direction_put_again_begun :
    (∀ issue ∈ analyze {} begunSource, issue.kind = .unknownDirection →
        (issue.candidates.map fun fix =>
            decide (fix.apply (fix.apply begunSource) = fix.apply begunSource))
          = [false, false, true, true, true]) ∧
      ∃ issue ∈ analyze {} begunSource, issue.kind = .unknownDirection ∧
        ∀ fix ∈ issue.candidates, SettledOnce begunSource issue fix := by
  have hreported : ∃ issue ∈ analyze {} begunSource, issue.kind = .unknownDirection := by decide
  obtain ⟨issue, hissue, hkind⟩ := hreported
  exact ⟨by decide, issue, hissue, hkind, fun fix hfix =>
    direction_put_again {} begunSource hissue hkind hfix⟩

/-- A direction that goes on the word it took the place of is put in behind its first letter when
it is put in again. -/
theorem direction_put_again_letter :
    ∃ issue ∈ analyze {} "graph T".toList, issue.kind = .unknownDirection ∧
      ∃ fix ∈ issue.candidates, fix.apply "graph T".toList = "graph TD".toList ∧
        fix.apply (fix.apply "graph T".toList) = "graph TDD".toList := by
  decide

end Flowchart
