import Flowchart.Proofs.Fix.Progress
import Flowchart.Proofs.Issues

/-!
# Fixes of lines and of texts

Lines without breaks are the lines of the text that they are joined to, and the
newline of that text is the one they are joined with, as soon as it occurs at all.  So
it makes no difference whether a fix is applied to the lines or to their text, and the
issues do not depend on the newline.

A fix changes no more than it says.  A replacement exchanges the first old text on its
line, and is stale where there is none; an ending and a definition bring in one line,
without which the lines are those before.

Main statement: `apply_joinLines_exact`.
-/

namespace Flowchart

/-! ## What a fix changes -/

/-- The result is the line with the new text in the place of the first old one, or the line
itself where there is no old text in it. -/
def ExchangesFirst (old new line result : Text) : Prop :=
  (∃ before behind, line = before ++ (old ++ behind) ∧ StandsFirst old line before.length ∧
      result = before ++ (new ++ behind)) ∨
    (¬ old <:+: line ∧ result = line)

/-- The lines `after` are the lines but for the one that is meant, on which the first old text
is exchanged. -/
structure Replacement.Exchanges (change : Replacement) (lines after : List Text) : Prop where
  /-- There are as many lines. -/
  length : after.length = lines.length
  /-- All lines but the one that is meant are the same. -/
  others : ∀ index : Nat, (index + 1 : Int) ≠ change.line → after[index]? = lines[index]?
  /-- Of the line that is meant, if there is one, the first old text is exchanged. -/
  target : ∀ (index : Nat) (line : Text), (index + 1 : Int) = change.line →
    lines[index]? = some line → ∃ result, after[index]? = some result ∧
      ExchangesFirst change.oldText change.newText line result

/-- The lines `after` have one line more, and without it they are the lines. -/
structure BringsIn (new : Text) (place : Nat) (lines after : List Text) : Prop where
  /-- The line stands at that place. -/
  stands : after[place]? = some new
  /-- Without it the lines are those before. -/
  erased : after.eraseIdx place = lines

/-- The place of a definition among the lines. -/
def Definition.place (definition : Definition) : Nat :=
  (definition.insertBeforeLine - 1).toNat

/-- What a fix makes of lines. -/
def Fix.Changes : Fix → List Text → List Text → Prop
  | replace change, lines, after => change.Exchanges lines after
  | appendEnd _, lines, after =>
    ∃ place, BringsIn "end".toList place lines after ∧ lines.length ≤ place + 1 ∧
      ∀ line ∈ lines.drop place, line = []
  | defineNode definition, lines, after =>
    if lines.length < definition.place then after = lines
    else BringsIn (definitionLine definition.nodeId) definition.place lines after

/-- The text that a fix writes into a document. -/
def Fix.written : Fix → Text
  | replace change => change.newText
  | appendEnd _ => "end".toList
  | defineNode definition => definition.nodeId

/-- A part that is exchanged is the first of its kind. -/
theorem exchangesFirst_of_replaceFirst? {old new line : Text} :
    ExchangesFirst old new line ((replaceFirst? old new line).getD line) := by
  rw [replaceFirst?_eq_map]
  cases hindex : indexOf? old line with
  | none =>
      refine Or.inr ⟨fun hwithin => ?_, rfl⟩
      have hcontains := contains_iff_infix.mpr hwithin
      rw [contains, hindex] at hcontains
      cases hcontains
  | some offset =>
      have hfirst := indexOf?_eq_some_iff.mp hindex
      obtain ⟨before, behind, rfl, rfl⟩ := hfirst.stands
      refine Or.inl ⟨before, behind, rfl, hfirst, ?_⟩
      simp [← List.drop_drop]

/-- A line is brought in behind a front part. -/
theorem BringsIn.of_append (new : Text) (front back : List Text) :
    BringsIn new front.length (front ++ back) (front ++ new :: back) where
  stands := by simp
  erased := by simp [List.eraseIdx_append_of_length_le]

/-- The line with the old text exchanged, if it is there. -/
def Replacement.onLine (change : Replacement) (line : Text) : Text :=
  (replaceFirst? change.oldText change.newText line).getD line

/-- A replacement is made on the line that is meant, if there is one. -/
theorem Replacement.getD_applyTo? (change : Replacement) (lines : List Text) :
    (change.applyTo? lines).getD lines
      = if change.line < 1 then lines
        else lines.modify (change.line - 1).toNat change.onLine := by
  unfold applyTo?
  split
  · rfl
  · generalize (change.line - 1).toNat = place
    cases hline : lines[place]? with
    | none =>
        rw [List.modify_eq_self (List.getElem?_eq_none_iff.mp hline)]
        simp [hline]
    | some line =>
        have hmodified : lines.modify place change.onLine
            = lines.set place (change.onLine line) := by
          rw [List.modify_eq_set, hline]
          rfl
        have hself : lines.set place line = lines := by
          obtain ⟨hplace, rfl⟩ := List.getElem?_eq_some_iff.mp hline
          exact List.set_getElem_self hplace
        rw [hmodified, onLine]
        cases hnew : replaceFirst? change.oldText change.newText line with
        | none => simp [hline, hnew, hself]
        | some new => simp [hline, hnew]

/-- A replacement changes its line alone, and none where no line has its number. -/
theorem Replacement.exchanges (change : Replacement) (lines : List Text) :
    change.Exchanges lines ((change.applyTo? lines).getD lines) := by
  rw [getD_applyTo?]
  split
  · exact ⟨rfl, fun _ _ => rfl, fun index line hindex _ => by omega⟩
  · refine ⟨List.length_modify .., fun index hindex => ?_, fun index line hindex hline => ?_⟩
    · have hother : (change.line - 1).toNat ≠ index := by omega
      exact List.getElem?_modify_ne _ lines hother
    · have hplace : (change.line - 1).toNat = index := by omega
      refine ⟨change.onLine line, ?_, exchangesFirst_of_replaceFirst?⟩
      rw [hplace, List.getElem?_modify_eq, hline]
      rfl

/-- A closing line comes in at the end, or before the empty line there. -/
theorem bringsIn_appendEndLine (lines : List Text) :
    ∃ place, BringsIn "end".toList place lines (appendEndLine lines) ∧
      lines.length ≤ place + 1 ∧ ∀ line ∈ lines.drop place, line = [] := by
  unfold appendEndLine
  split
  · rename_i hlast
    obtain ⟨front, rfl⟩ := List.getLast?_eq_some_iff.mp hlast.2
    rw [List.dropLast_concat]
    exact ⟨front.length, .of_append _ front [[]], by simp, by simp⟩
  · refine ⟨lines.length, ?_, by simp, by simp⟩
    have hend := BringsIn.of_append "end".toList lines []
    rwa [List.append_nil] at hend

/-- A definition comes in at its place, if that is no further than the end. -/
theorem Definition.getD_applyTo? (definition : Definition) (lines : List Text) :
    (definition.applyTo? lines).getD lines
      = if lines.length < definition.place then lines
        else lines.take definition.place
          ++ definitionLine definition.nodeId :: lines.drop definition.place := by
  rw [applyTo?, ← place]
  split <;> rfl

/-- A fix changes no more than it says. -/
theorem Fix.changes_applyToLines (fix : Fix) (lines : List Text) :
    fix.Changes lines (fix.applyToLines lines) := by
  cases fix with
  | replace change => exact change.exchanges lines
  | appendEnd ending => exact bringsIn_appendEndLine lines
  | defineNode definition =>
      rw [applyToLines, applyToLines?, definition.getD_applyTo?]
      by_cases hstale : lines.length < definition.place
      · simp [Changes, hstale]
      · have hlength : (lines.take definition.place).length = definition.place :=
          List.length_take_of_le (Nat.not_lt.mp hstale)
        have hin := BringsIn.of_append (definitionLine definition.nodeId)
          (lines.take definition.place) (lines.drop definition.place)
        rw [hlength, List.take_append_drop] at hin
        simpa [Changes, hstale] using hin

/-! ## Lines without breaks -/

/-- An exchange brings no break into a line if the new text has none. -/
theorem ExchangesFirst.unbroken {old new line result : Text}
    (h : ExchangesFirst old new line result) (hnew : Unbroken new) (hline : Unbroken line) :
    Unbroken result := by
  rcases h with ⟨before, behind, rfl, _, rfl⟩ | ⟨_, rfl⟩
  · obtain ⟨hbefore, hrest⟩ := List.forall_mem_append.mp hline
    obtain ⟨_, hbehind⟩ := List.forall_mem_append.mp hrest
    exact List.forall_mem_append.mpr ⟨hbefore, List.forall_mem_append.mpr ⟨hnew, hbehind⟩⟩
  · exact hline

/-- A replacement brings no break into the lines if its text has none. -/
theorem Replacement.Exchanges.unbroken {change : Replacement} {lines after : List Text}
    (h : change.Exchanges lines after) (hnew : Unbroken change.newText)
    (hlines : ∀ line ∈ lines, Unbroken line) : ∀ line ∈ after, Unbroken line := by
  intro result hresult
  obtain ⟨index, hshort, rfl⟩ := List.mem_iff_getElem.mp hresult
  have hbefore : index < lines.length := by rwa [← h.length]
  by_cases hindex : (index + 1 : Int) = change.line
  · obtain ⟨found, hfound, hexchanges⟩ :=
      h.target index lines[index] hindex (List.getElem?_eq_getElem hbefore)
    rw [List.getElem?_eq_getElem hshort] at hfound
    rw [Option.some.inj hfound]
    exact hexchanges.unbroken hnew (hlines _ (List.getElem_mem hbefore))
  · have hsame := h.others index hindex
    rw [List.getElem?_eq_getElem hshort, List.getElem?_eq_getElem hbefore] at hsame
    rw [Option.some.inj hsame]
    exact hlines _ (List.getElem_mem hbefore)

/-- A line without breaks brings none into the lines. -/
theorem BringsIn.unbroken {new : Text} {place : Nat} {lines after : List Text}
    (h : BringsIn new place lines after) (hnew : Unbroken new)
    (hlines : ∀ line ∈ lines, Unbroken line) : ∀ line ∈ after, Unbroken line := by
  intro line hline
  obtain ⟨index, hindex⟩ := List.mem_iff_getElem?.mp hline
  by_cases hplace : index = place
  · subst hplace
    rw [h.stands] at hindex
    exact Option.some.inj hindex ▸ hnew
  · refine hlines line ?_
    rw [← h.erased]
    exact List.mem_eraseIdx_iff_getElem?.mpr ⟨index, hplace, hindex⟩

/-- Where a line was brought in there is one. -/
theorem BringsIn.ne_nil {new : Text} {place : Nat} {lines after : List Text}
    (h : BringsIn new place lines after) : after ≠ [] := by
  rintro rfl
  exact absurd h.stands nofun

/-- A fix that writes no break leaves lines without breaks. -/
theorem Fix.Changes.joinable {fix : Fix} {lines after : List Text} (h : fix.Changes lines after)
    (newline : Newline) (hne : lines ≠ []) (hlines : ∀ line ∈ lines, Unbroken line)
    (hwritten : Unbroken fix.written) : Joinable newline after := by
  cases fix with
  | replace change =>
      have hexchanges : change.Exchanges lines after := h
      refine joinable_of_unbroken newline ?_ (hexchanges.unbroken hwritten hlines)
      rw [← List.length_pos_iff, hexchanges.length]
      exact List.length_pos_iff.mpr hne
  | appendEnd ending =>
      obtain ⟨place, hin, _⟩ := h
      exact joinable_of_unbroken newline hin.ne_nil (hin.unbroken hwritten hlines)
  | defineNode definition =>
      by_cases hstale : lines.length < definition.place
      · obtain rfl : after = lines := by simpa [Changes, hstale] using h
        exact joinable_of_unbroken newline hne hlines
      · have hin : BringsIn (definitionLine definition.nodeId) definition.place lines after := by
          simpa [Changes, hstale] using h
        exact joinable_of_unbroken newline hin.ne_nil
          (hin.unbroken (unbroken_definitionLine hwritten) hlines)

/-! ## The text of the lines -/

/-- The newline of a text is the one that its lines are joined with, unless there is but one
line. -/
theorem Newline.ofText_joinLines {newline : Newline} {lines : List Text}
    (hlines : ∀ line ∈ lines, Unbroken line) (hnewline : newline = .crlf → 2 ≤ lines.length) :
    ofText (joinLines newline.text lines) = newline := by
  cases newline with
  | lf =>
      refine if_neg fun hcontains => ?_
      have hpair := contains_iff_infix.mp hcontains
      have hreturn : '\r' ∈ joinLines lf.text lines := hpair.subset List.mem_cons_self
      rcases mem_joinWith hreturn with hfeed | ⟨line, hline, hmem⟩
      · exact absurd hfeed (by decide)
      · exact (hlines line hline _ hmem).2 rfl
  | crlf =>
      obtain ⟨line, next, lines, rfl⟩ : ∃ line next more, lines = line :: next :: more := by
        match lines, hnewline rfl with
        | line :: next :: more, _ => exact ⟨line, next, more, rfl⟩
      have hpair : crlf.text <:+: joinLines crlf.text (line :: next :: lines) := by
        rw [joinLines_cons_cons]
        exact ⟨line, joinLines crlf.text (next :: lines), List.append_assoc ..⟩
      exact if_pos <| contains_iff_infix.mpr hpair

/-- **A fix of a text is a fix of its lines, whatever their newline.** Lines without breaks are
found again in their text, also behind a fix that writes no break; the issues do not depend on
the newline; and the fix changes no more than it says. -/
theorem apply_joinLines_exact (fix : Fix) (newline : Newline) {lines : List Text}
    (hne : lines ≠ []) (hlines : ∀ line ∈ lines, Unbroken line)
    (hnewline : newline = .crlf → 2 ≤ lines.length) :
    splitLines (joinLines newline.text lines) = lines ∧
      fix.apply (joinLines newline.text lines)
        = joinLines newline.text (fix.applyToLines lines) ∧
      (Unbroken fix.written →
        splitLines (fix.apply (joinLines newline.text lines)) = fix.applyToLines lines) ∧
      (∀ limits (other : Newline), analyze limits (joinLines newline.text lines)
        = analyze limits (joinLines other.text lines)) ∧
      fix.Changes lines (fix.applyToLines lines) := by
  have hsplit := (joinable_of_unbroken newline hne hlines).splitLines_joinLines
  have hchanges := fix.changes_applyToLines lines
  have happlied : fix.apply (joinLines newline.text lines)
      = joinLines newline.text (fix.applyToLines lines) := by
    rw [Fix.apply, hsplit, Newline.ofText_joinLines hlines hnewline, Fix.applyToLines]
    cases fix.applyToLines? lines <;> rfl
  refine ⟨hsplit, happlied, fun hwritten => ?_, fun limits other => ?_, hchanges⟩
  · rw [happlied]
    exact (hchanges.joinable newline hne hlines hwritten).splitLines_joinLines
  · rw [analyze_joinLines limits newline hlines, analyze_joinLines limits other hlines]

/-- Lines with an empty one at the end, and a part that occurs twice. -/
def echoedLines : List Text :=
  ["graph up".toList, "A-->A-->B".toList, []]

/-- The first of the two parts is exchanged, the text ends in a newline as before, and a
definition behind the end is stale. -/
theorem apply_joinLines_exact_echoed :
    (∀ line ∈ echoedLines, Unbroken line) ∧
      (Fix.replace ⟨2, "A-->".toList, "C===".toList⟩).apply
          (joinLines Newline.crlf.text echoedLines)
        = joinLines Newline.crlf.text ["graph up".toList, "C===A-->B".toList, []] ∧
      (Fix.appendEnd ⟨0⟩).apply (joinLines Newline.crlf.text echoedLines)
        = joinLines Newline.crlf.text
            ["graph up".toList, "A-->A-->B".toList, "end".toList, []] ∧
      (Fix.defineNode ⟨"B".toList, 5⟩).apply (joinLines Newline.crlf.text echoedLines)
        = joinLines Newline.crlf.text echoedLines := by
  have hlines : ∀ line ∈ echoedLines, Unbroken line := forall_mem_of_all rfl
  have hexact : ∀ fix : Fix, fix.apply (joinLines Newline.crlf.text echoedLines)
      = joinLines Newline.crlf.text (fix.applyToLines echoedLines) := fun fix =>
    (apply_joinLines_exact fix .crlf (List.cons_ne_nil _ _) hlines fun _ => by decide).2.1
  exact ⟨hlines, hexact _, hexact _, hexact _⟩

end Flowchart
