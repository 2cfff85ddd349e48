import Flowchart.Proofs.Fix.Changing
import Flowchart.Proofs.Fix.Closing
import Flowchart.Proofs.Fix.Joined

/-!
# Structural fixes in either order

The fix of a header and the fix of a block that is never closed are made for one text, and
one of them may be applied to what the other left.  A direction changes a line in its place,
and a closing line comes in behind all lines that are not empty.  So each fix finds what it
was made for, wherever the two lines stand; and since the first fix leaves the newline of
the text as it is, the text is the same in either order.

Main statement: `structural_fixes_commute`.
-/

namespace Flowchart

/-- The issue is about a header or about a block that is never closed. -/
def Issue.IsStructural (issue : Issue) : Prop :=
  issue.kind = .unknownDirection ∨ issue.kind = .missingEnd
  deriving Decidable

/-- What a candidate for a structural issue of the lines does. -/
inductive StructuralFix (lines : List Text) (issue : Issue) : Fix → Prop
  /-- It gives the header of the issue a direction. -/
  | redirect {place : Nat} {line rest : Text} {header : Header} (direction : Direction) :
      lines[place]? = some line → header.Reads line rest →
      header.issue? (1 + place) = some issue →
      StructuralFix lines issue (header.redirect (1 + place : Nat) direction)
  /-- It closes a block. -/
  | close (ending : Ending) : StructuralFix lines issue (.appendEnd ending)

/-- In either order the fixes lead from the lines to the same lines, and neither is stale. -/
structure CommuteOnLines (lines : List Text) (fix next : Fix) (final : List Text) : Prop where
  /-- The lines with the first fix are given the second. -/
  forth : (fix.applyToLines? lines).bind next.applyToLines? = some final
  /-- The lines with the second fix are given the first. -/
  back : (next.applyToLines? lines).bind fix.applyToLines? = some final

/-- If two fixes commute, they do in the other order. -/
theorem CommuteOnLines.symm {lines final : List Text} {fix next : Fix}
    (h : CommuteOnLines lines fix next final) : CommuteOnLines lines next fix final :=
  ⟨h.back, h.forth⟩

/-! ## Lines -/

/-- A header is no empty line. -/
theorem Header.Reads.ne_nil {header : Header} {line rest : Text} (h : header.Reads line rest) :
    line ≠ [] := by
  simp [h.line_eq, Header.span, h.keyword.ne_nil]

/-- A direction is put into the line at its place. -/
theorem Header.Reads.applyToLines?_set {header : Header} {line rest : Text}
    (h : header.Reads line rest) {lines : List Text} {place : Nat}
    (hline : lines[place]? = some line) (direction : Direction) :
    (header.redirect (1 + place : Nat) direction).applyToLines? lines
      = some (lines.set place (header.redirectedLine direction rest)) := by
  have hindex : (((1 + place : Nat) : Int) - 1).toNat = place := by omega
  have hnot : ¬ ((1 + place : Nat) : Int) < 1 := by omega
  have hreplaced := h.replaceFirst?_redirect direction
  simp only [Header.redirect, Fix.applyToLines?, Replacement.applyTo?, hnot, if_false, hindex,
    hline, Option.bind_eq_bind, Option.bind_some, hreplaced]

/-- What a closing line leaves behind a line that is not empty does not depend on that. -/
theorem exists_appendEndLine_eq (front back : List Text) :
    ∃ ended, ∀ line, line ≠ [] →
      appendEndLine (front ++ line :: back) = front ++ line :: ended := by
  by_cases hlast : back.getLast? = some []
  · obtain ⟨front', rfl⟩ := List.getLast?_eq_some_iff.mp hlast
    refine ⟨front' ++ ["end".toList, []], fun line _ => ?_⟩
    have hend : front ++ line :: (front' ++ [[]]) = (front ++ line :: front') ++ [[]] := by simp
    have hlong : 1 < ((front ++ line :: front') ++ [[]]).length := by
      simp only [List.length_append, List.length_cons]
      omega
    rw [hend, appendEndLine, if_pos ⟨hlong, List.getLast?_concat⟩, List.dropLast_concat]
    simp
  · refine ⟨back ++ ["end".toList], fun line hne => ?_⟩
    have hkept : (front ++ line :: back).getLast? ≠ some [] := by
      cases back with
      | nil => simpa using hne
      | cons next back => simpa [List.getLast?_append, List.getLast?_cons_cons] using hlast
    rw [appendEndLine, if_neg fun h => hkept h.2]
    simp

/-- A line that is not empty may be changed before a closing line comes in or after that. -/
theorem appendEndLine_set {lines : List Text} {place : Nat} {line new : Text}
    (hline : lines[place]? = some line) (hne : line ≠ []) (hnew : new ≠ []) :
    appendEndLine (lines.set place new) = (appendEndLine lines).set place new ∧
      (appendEndLine lines)[place]? = some line := by
  obtain ⟨hplace, rfl⟩ := List.getElem?_eq_some_iff.mp hline
  obtain ⟨ended, hended⟩ := exists_appendEndLine_eq (lines.take place) (lines.drop (place + 1))
  have hlength : (lines.take place).length = place := List.length_take_of_le (Nat.le_of_lt hplace)
  have hset : ∀ other,
      lines.set place other = lines.take place ++ other :: lines.drop (place + 1) :=
    fun other => List.set_eq_take_cons_drop other hplace
  have hlines := hended _ hne
  rw [← hset, List.set_getElem_self] at hlines
  rw [hset, hended _ hnew, hlines]
  constructor
  · rw [List.set_append_right _ _ (Nat.le_of_eq hlength), hlength, Nat.sub_self]
    rfl
  · rw [List.getElem?_append_right (Nat.le_of_eq hlength), hlength, Nat.sub_self]
    rfl

namespace StructuralFix

variable {lines : List Text} {issue other : Issue} {fix next : Fix}

/-- Two headers are in different lines, and their directions stand beside each other. -/
theorem redirect_comm {place another : Nat} (hplaces : place ≠ another)
    {line line' rest rest' : Text}
    {header header' : Header} (hline : lines[place]? = some line) (hreads : header.Reads line rest)
    (hline' : lines[another]? = some line') (hreads' : header'.Reads line' rest')
    (direction direction' : Direction) :
    ∃ final, CommuteOnLines lines (header.redirect (1 + place : Nat) direction)
      (header'.redirect (1 + another : Nat) direction') final := by
  refine ⟨(lines.set place (header.redirectedLine direction rest)).set another
    (header'.redirectedLine direction' rest'), ?_, ?_⟩
  · rw [hreads.applyToLines?_set hline]
    exact hreads'.applyToLines?_set (by rwa [List.getElem?_set_ne hplaces]) direction'
  · rw [hreads'.applyToLines?_set hline', List.set_comm _ _ hplaces]
    exact hreads.applyToLines?_set (by rwa [List.getElem?_set_ne hplaces.symm]) direction

/-- A header stays in its line when a closing line comes in, and is in no last line that is
empty. -/
theorem redirect_close_comm {place : Nat} {line rest : Text} {header : Header}
    (hline : lines[place]? = some line) (hreads : header.Reads line rest) (direction : Direction)
    (ending : Ending) :
    ∃ final, CommuteOnLines lines (header.redirect (1 + place : Nat) direction)
      (.appendEnd ending) final := by
  obtain ⟨hset, hkept⟩ :=
    appendEndLine_set hline hreads.ne_nil (hreads.redirected direction).ne_nil
  refine ⟨(appendEndLine lines).set place (header.redirectedLine direction rest), ?_, ?_⟩
  · rw [hreads.applyToLines?_set hline]
    exact congrArg some hset
  · exact hreads.applyToLines?_set hkept direction

/-- The fixes of two issues can be made in either order.  Those of two headers are on two lines,
since one line has no more than one issue. -/
theorem commute (h : StructuralFix lines issue fix) (h' : StructuralFix lines other next)
    (hne : issue ≠ other) : ∃ final, CommuteOnLines lines fix next final := by
  cases h with
  | @redirect place line rest header direction hline hreads hissue =>
      cases h' with
      | @redirect another line' rest' header' direction' hline' hreads' hother =>
          refine redirect_comm ?_ hline hreads hline' hreads' direction direction'
          rintro rfl
          obtain rfl := Option.some.inj (hline.symm.trans hline')
          obtain rfl := Option.some.inj (hreads.ofLine?_eq.symm.trans hreads'.ofLine?_eq)
          exact hne (Option.some.inj (hissue.symm.trans hother))
      | close ending => exact redirect_close_comm hline hreads direction ending
  | close ending =>
      cases h' with
      | redirect direction hline hreads _ =>
          obtain ⟨final, hfinal⟩ := redirect_close_comm hline hreads direction ending
          exact ⟨final, hfinal.symm⟩
      | close => exact ⟨_, rfl, rfl⟩

/-- A structural fix leaves unbroken lines, and no fewer. -/
theorem exists_applied (h : StructuralFix lines issue fix)
    (hlines : ∀ line ∈ lines, Unbroken line) :
    ∃ applied, fix.applyToLines? lines = some applied ∧ (∀ line ∈ applied, Unbroken line) ∧
      lines.length ≤ applied.length := by
  cases h with
  | @redirect place line rest header direction hline hreads _ =>
      refine ⟨_, hreads.applyToLines?_set hline direction, fun other hother => ?_, ?_⟩
      · rcases List.mem_or_eq_of_mem_set hother with hmem | rfl
        · exact hlines other hmem
        · exact hreads.unbroken_redirected (hlines line (List.mem_of_getElem? hline)) direction
      · exact Nat.le_of_eq (List.length_set ..).symm
  | close ending =>
      obtain ⟨front, back, hlines', hended, _⟩ := appendEndLine_eq lines
      refine ⟨_, rfl, ?_, ?_⟩
      · rw [hended]
        rw [hlines'] at hlines
        exact unbroken_insert hlines (forall_mem_of_all rfl)
      · rw [hended, hlines']
        simp

end StructuralFix

/-! ## Texts -/

/-- Where the newline of a text is the longer one, there are two lines. -/
theorem two_le_length_of_ofText {source : Text} (h : Newline.ofText source = .crlf) :
    2 ≤ (splitLines source).length := by
  have hcontains : contains Newline.crlf.text source = true := by
    unfold Newline.ofText at h
    split at h
    · assumption
    · cases h
  have hpair := contains_iff_infix.mp hcontains
  have hfeed : '\n' ∈ source := hpair.subset (by decide)
  have hcount := List.count_pos_iff.mpr hfeed
  rw [length_splitLines]
  omega

/-- A fix of a text that was fixed is one of the lines that the first fix left, and they are
joined with the newline of the text before. -/
theorem apply_apply {source : Text} {applied final : List Text} {fix next : Fix}
    (happlied : fix.applyToLines? (splitLines source) = some applied)
    (hunbroken : ∀ line ∈ applied, Unbroken line)
    (hlength : (splitLines source).length ≤ applied.length)
    (hfinal : next.applyToLines? applied = some final) :
    splitLines (fix.apply source) = applied ∧
      next.apply (fix.apply source) = joinLines (Newline.ofText source).text final := by
  have hpositive := List.length_pos_iff.mpr (splitLines_ne_nil source)
  have hsplit := joinedLines_apply happlied (List.length_pos_iff.mp (by omega)) hunbroken
  have hnewline : Newline.ofText (fix.apply source) = Newline.ofText source := by
    have hjoined : fix.apply source = joinLines (Newline.ofText source).text applied := by
      rw [Fix.apply, happlied]
    rw [hjoined]
    refine Newline.ofText_joinLines hunbroken fun hcrlf => ?_
    exact Nat.le_trans (two_le_length_of_ofText hcrlf) hlength
  refine ⟨hsplit, ?_⟩
  rw [Fix.apply, hsplit, hfinal, hnewline]

/-- A candidate for a structural issue of a text is a structural fix of its lines. -/
theorem structuralFix_of_mem_candidates {limits : Limits} {source : Text} {issue : Issue}
    (hissue : issue ∈ analyze limits source) (hstructural : issue.IsStructural) {fix : Fix}
    (hfix : fix ∈ issue.candidates) : StructuralFix (splitLines source) issue fix := by
  rw [analyze_eq_analyzeLines] at hissue
  cases found_of_mem hissue with
  | @astray line header _ hline hheader hmade =>
      obtain ⟨_, front, back, hlines, hnumber⟩ := exists_of_mem_inspected hline
      obtain ⟨rest, hreads⟩ := Header.ofLine?_eq_some_iff.mp hheader
      obtain ⟨direction, rfl⟩ := hreads.of_mem_candidates hmade hfix
      rw [hnumber] at hmade ⊢
      exact .redirect direction (by simp [hlines]) hreads hmade
  | unexpected _ => rcases hstructural with hkind | hkind <;> cases hkind
  | unclosed _ =>
      obtain rfl := List.mem_singleton.mp hfix
      exact .close _
  | misspelt _ _ _ => rcases hstructural with hkind | hkind <;> cases hkind

/-- **Fixes of two structural issues can be made in either order.** Neither is stale behind the
other, and the text has the newline of the source in both orders. -/
theorem structural_fixes_commute {limits : Limits} {source : Text} (hpaired : Paired source)
    {issue other : Issue} (hissue : issue ∈ analyze limits source)
    (hother : other ∈ analyze limits source) (hne : issue ≠ other)
    (hstructural : issue.IsStructural) (hstructural' : other.IsStructural) {fix next : Fix}
    (hfix : fix ∈ issue.candidates) (hnext : next ∈ other.candidates) :
    next.apply (fix.apply source) = fix.apply (next.apply source) ∧
      ∃ final, next.applyToLines? (splitLines (fix.apply source)) = some final ∧
        fix.applyToLines? (splitLines (next.apply source)) = some final ∧
        next.apply (fix.apply source) = joinLines (Newline.ofText source).text final := by
  have hunbroken := unbroken_of_mem_splitLines hpaired
  have hfirst := structuralFix_of_mem_candidates hissue hstructural hfix
  have hsecond := structuralFix_of_mem_candidates hother hstructural' hnext
  obtain ⟨applied, happlied, hkept, hlonger⟩ := hfirst.exists_applied hunbroken
  obtain ⟨applied', happlied', hkept', hlonger'⟩ := hsecond.exists_applied hunbroken
  obtain ⟨final, hforth, hback⟩ := hfirst.commute hsecond hne
  rw [happlied, Option.bind_some] at hforth
  rw [happlied', Option.bind_some] at hback
  obtain ⟨hsplit, htext⟩ := apply_apply happlied hkept hlonger hforth
  obtain ⟨hsplit', htext'⟩ := apply_apply happlied' hkept' hlonger' hback
  exact ⟨htext.trans htext'.symm, final, by rw [hsplit, hforth], by rw [hsplit', hback], htext⟩

/-- A text with both newlines, with a block that is never closed between two headers. -/
def crossedSource : Text :=
  "graph up\nsubgraph x\r\nFlowChart l; l\n".toList

/-- The three issues of the text can be fixed in any order, and closing its block first leaves
the last header in its place. -/
theorem structural_fixes_commute_crossed :
    Paired crossedSource ∧
      (analyze {} crossedSource).map (fun issue => (issue.kind, issue.line))
        = [(.unknownDirection, 1), (.unknownDirection, 3), (.missingEnd, 2)] ∧
      (∀ issue ∈ analyze {} crossedSource, ∀ other ∈ analyze {} crossedSource, issue ≠ other →
        ∀ fix ∈ issue.candidates, ∀ next ∈ other.candidates,
          next.apply (fix.apply crossedSource) = fix.apply (next.apply crossedSource)) ∧
      (Fix.replace ⟨3, "FlowChart l".toList, "FlowChart RL".toList⟩).apply
          ((Fix.appendEnd ⟨4⟩).apply crossedSource)
        = "graph up\r\nsubgraph x\r\nFlowChart RL; l\r\nend\r\n".toList := by
  have hpaired : Paired crossedSource := by decide
  have hstructural : ∀ issue ∈ analyze {} crossedSource, issue.IsStructural := by decide
  refine ⟨hpaired, by decide,
    fun issue hissue other hother hne fix hfix next hnext => ?_, by decide⟩
  exact (structural_fixes_commute hpaired hissue hother hne (hstructural issue hissue)
    (hstructural other hother) hfix hnext).1

/-- A closing line behind a carriage return that stands alone makes a newline of it, with which
the other lines are joined then. -/
example :
    (Fix.replace ⟨1, "graph up".toList, "graph TD".toList⟩).apply
        ((Fix.appendEnd ⟨2⟩).apply "graph up\nsubgraph x\r".toList)
      ≠ (Fix.appendEnd ⟨2⟩).apply
        ((Fix.replace ⟨1, "graph up".toList, "graph TD".toList⟩).apply
          "graph up\nsubgraph x\r".toList) := by
  decide

end Flowchart
