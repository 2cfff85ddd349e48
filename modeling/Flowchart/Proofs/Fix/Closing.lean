import Flowchart.Proofs.Fix.Progress
import Flowchart.Proofs.Issues

/-!
# Closing the innermost block

The fix of a block that is never closed is one more closing line at the end of the
document, in front of the empty line behind its last newline.  There the line
closes the innermost block.  It is no header, and it names nothing; and a
reference that is found at all is found in a line before it, since it stands in
its own line, or holds a colon and is not found in the closing line either.  So
no other issue changes.

Main statement: `appendEnd_closes_innermost`.
-/

namespace Flowchart

/-- The fix in a document that has one more line at its end. -/
def Fix.lengthened : Fix → Fix
  | .appendEnd ending => .appendEnd ⟨ending.afterLine + 1⟩
  | fix => fix

/-- The issue in a document that has one more line at its end: the fix of a missing end
speaks of the last line. -/
def Issue.lengthened (issue : Issue) : Issue :=
  if issue.kind = .missingEnd then { issue with fix := issue.fix.map Fix.lengthened } else issue

/-- The issues are those before without the last missing end, which is the one of the
innermost block, in a document that has one more line. -/
def ClosesInnermost (before after : List Issue) : Prop :=
  ∃ front innermost back, before = front ++ innermost :: back ∧
    innermost.kind = .missingEnd ∧ (∀ issue ∈ back, issue.kind ≠ .missingEnd) ∧
    after = (front ++ back).map Issue.lengthened

/-- An issue keeps its kind. -/
theorem Issue.lengthened_kind (issue : Issue) : issue.lengthened.kind = issue.kind := by
  unfold Issue.lengthened
  split <;> rfl

/-- Only a missing end speaks of the last line. -/
theorem Issue.lengthened_eq {issue : Issue} (h : issue.kind ≠ .missingEnd) :
    issue.lengthened = issue :=
  if_neg h

/-- Issues without a missing end stay as they are. -/
theorem map_lengthened {issues : List Issue} (h : ∀ issue ∈ issues, issue.kind ≠ .missingEnd) :
    issues.map Issue.lengthened = issues := by
  have hsame : issues.map Issue.lengthened = issues.map id :=
    List.map_congr_left fun issue hissue => Issue.lengthened_eq (h issue hissue)
  rw [hsame, List.map_id]

/-! ## The lines of the closed document -/

section Closed

variable {limits : Limits} {front back : List Text}

/-- Numbered lines of empty lines are empty. -/
theorem text_of_mem_numberFrom (hback : ∀ line ∈ back, line = []) {number : Nat}
    {line : NumberedLine} (h : line ∈ numberFrom number back) : line.text = [] := by
  obtain ⟨before, behind, hlines, _⟩ := exists_of_mem_numberFrom h
  exact hback line.text (by simp [hlines])

/-- What is looked at of the document before and after is the same at the front; behind
that stand the closing line and empty lines. -/
theorem exists_inspectedLines (hroom : 3 ≤ limits.maxLineLength)
    (hback : ∀ line ∈ back, line = []) :
    ∃ kept closing rest more,
      inspectedLines limits (front ++ back) = kept ++ rest ∧
      inspectedLines limits (front ++ "end".toList :: back) = kept ++ closing :: more ∧
      closing.text = "end".toList ∧ ∀ line ∈ rest ++ more, line.text = [] := by
  have hclosed := inspectedLines_append limits front ("end".toList :: back)
  rw [inspectedFrom_cons, inspectedFrom_of_inspected (isInspected_end hroom)] at hclosed
  refine ⟨_, _, _, _, inspectedLines_append limits front back, hclosed, rfl, fun line hline => ?_⟩
  rcases List.mem_append.mp hline with hmem | hmem
  · exact text_of_mem_numberFrom hback (List.mem_filter.mp hmem).1
  · exact text_of_mem_numberFrom hback (List.mem_filter.mp hmem).1

/-- The closing line is no header. -/
theorem checkDirection_closed (hback : ∀ line ∈ back, line = []) :
    checkDirection limits (front ++ "end".toList :: back)
      = checkDirection limits (front ++ back) := by
  have hempty : ∀ line ∈ back, ∀ number,
      (NumberedLine.mk number line).directionIssue? = none := by
    intro line hline number
    rw [hback line hline]
    rfl
  have hend : ∀ number, (NumberedLine.mk number "end".toList).directionIssue? = none :=
    fun number => rfl
  rw [checkDirection_append, checkDirection_append, filterMap_directionIssue?_eq_nil hempty,
    filterMap_directionIssue?_eq_nil (List.forall_mem_cons.mpr ⟨hend, hempty⟩)]

/-- The closing line closes the innermost block. -/
theorem imbalance_closed (hroom : 3 ≤ limits.maxLineLength) (hback : ∀ line ∈ back, line = [])
    (hopen : (imbalanceFrom [] (inspectedLines limits (front ++ back))).unclosed ≠ []) :
    imbalanceFrom [] (inspectedLines limits (front ++ "end".toList :: back))
      = ⟨(imbalanceFrom [] (inspectedLines limits (front ++ back))).unexpected,
         (imbalanceFrom [] (inspectedLines limits (front ++ back))).unclosed.dropLast⟩ := by
  obtain ⟨kept, closing, rest, more, hbefore, hafter, hclosing, hempty⟩ :=
    @exists_inspectedLines limits front back hroom hback
  have hneither : ∀ line ∈ rest ++ more, Mark.ofLine line.text = .neither := by
    intro line hline
    rw [hempty line hline]
    rfl
  obtain ⟨hrest, hmore⟩ := List.forall_mem_append.mp hneither
  have hmark : Mark.ofLine closing.text = .closing := by
    rw [hclosing]
    rfl
  rw [hbefore, imbalanceFrom_append_neither hrest] at hopen ⊢
  rw [hafter, List.append_cons, imbalanceFrom_append_neither hmore,
    imbalanceFrom_append_closing hmark hopen]

/-- The closing line names nothing. -/
theorem extractNames_closed (limits : Limits) (front back : List Text) :
    extractNames limits (front ++ "end".toList :: back)
      = extractNames limits (front ++ back) :=
  extractNames_insert (by rfl) (by rfl) limits front back

/-- A reference is found in front of the closing line, or there is a colon in it and it
cannot be found in that line. -/
theorem locate?_closed (hback : ∀ line ∈ back, line = []) {id : Text}
    (hid : id ∈ (extractNames limits (front ++ back)).references) :
    locate? id (front ++ "end".toList :: back) = locate? id (front ++ back) := by
  obtain ⟨line, hline, hcomment, hreference⟩ := exists_line_of_mem_references hid
  have hne : id ≠ [] := (of_mem_references hreference).1.ne_nil
  unfold locate? numbered
  rw [numberFrom_append, numberFrom_append, locateFrom?_append, locateFrom?_append]
  by_cases hcolon : ':' ∈ id
  · have hend : ∀ number, locateFrom? id (numberFrom number ("end".toList :: back)) = none := by
      intro number
      refine locateFrom?_eq_none fun other hother hwithin => ?_
      have hmem := hwithin.subset hcolon
      have hnot : ':' ∉ "end".toList := by decide
      rcases List.mem_cons.mp hother with rfl | hrest
      · exact hnot hmem
      · rw [text_of_mem_numberFrom hback hrest] at hmem
        cases hmem
    have hempty : ∀ number, locateFrom? id (numberFrom number back) = none := by
      intro number
      refine locateFrom?_eq_none fun other hother hwithin => ?_
      rw [text_of_mem_numberFrom hback hother] at hwithin
      exact hne (List.infix_nil.mp hwithin)
    rw [hend, hempty]
  · have hwithin := infix_of_mem_lineReferences hreference hcolon
    have hfront : line ∈ front := by
      rcases List.mem_append.mp hline with hmem | hmem
      · exact hmem
      · rw [hback line hmem] at hwithin
        exact absurd (List.infix_nil.mp hwithin) hne
    have hfound := locate?_ne_none hfront hcomment hwithin
    obtain ⟨place, hplace⟩ := Option.ne_none_iff_exists'.mp hfound
    unfold locate? numbered at hplace
    rw [hplace]
    rfl

end Closed

/-! ## The issues of the closed document -/

/-- Only the place of a reference in the lines matters to what is reported of it. -/
theorem typoIssue?_congr {limits : Limits} {lines other : List Text} {id : Text}
    (h : locate? id lines = locate? id other) (nodes : List Text) :
    typoIssue? limits lines nodes id = typoIssue? limits other nodes id := by
  unfold typoIssue?
  rw [h]

/-- The references that look misspelt are the same, and stand where they stood. -/
theorem checkTypos_closed {limits : Limits} {front back : List Text}
    (hback : ∀ line ∈ back, line = []) :
    checkTypos limits (front ++ "end".toList :: back)
        (extractNames limits (front ++ "end".toList :: back))
      = checkTypos limits (front ++ back) (extractNames limits (front ++ back)) := by
  rw [extractNames_closed]
  exact List.filterMap_congr fun id hid => typoIssue?_congr (locate?_closed hback hid) _

/-- One more closing line takes the last missing end from the issues. -/
theorem analyzeLines_closed {limits : Limits} {lines : List Text}
    (hroom : 3 ≤ limits.maxLineLength)
    (hopen : (imbalanceFrom [] (inspectedLines limits lines)).unclosed ≠ []) :
    ClosesInnermost (analyzeLines limits lines) (analyzeLines limits (appendEndLine lines)) := by
  obtain ⟨front, back, rfl, hended, hback⟩ := appendEndLine_eq lines
  have hlength : (front ++ "end".toList :: back).length = (front ++ back).length + 1 := by
    simp only [List.length_append, List.length_cons]
    omega
  have hclosed := imbalance_closed hroom hback hopen
  obtain ⟨outer, innermost, hunclosed⟩ : ∃ outer innermost,
      (imbalanceFrom [] (inspectedLines limits (front ++ back))).unclosed = outer ++ [innermost] :=
    ⟨_, _, (List.dropLast_concat_getLast hopen).symm⟩
  have houter : (outer.map (Frame.missingEnd (front ++ back).length)).map Issue.lengthened
      = outer.map (Frame.missingEnd ((front ++ back).length + 1)) := by
    rw [List.map_map]
    rfl
  rw [hunclosed, List.dropLast_concat] at hclosed
  refine ⟨checkDirection limits (front ++ back)
      ++ ((imbalanceFrom [] (inspectedLines limits (front ++ back))).unexpected.map
          Frame.unexpectedEnd
        ++ outer.map (Frame.missingEnd (front ++ back).length)),
    innermost.missingEnd (front ++ back).length,
    checkTypos limits (front ++ back) (extractNames limits (front ++ back)), ?_, rfl,
    fun issue hissue => kind_of_mem_checkTypos hissue, ?_⟩
  · simp [analyzeLines, checkBalance, hunclosed]
  · rw [analyzeLines, checkBalance, hended, hlength, checkDirection_closed hback,
      checkTypos_closed hback, hclosed, List.map_append, List.map_append, List.map_append, houter,
      map_lengthened fun issue hissue => kind_of_mem_checkDirection hissue,
      map_lengthened fun issue hissue => kind_of_mem_unexpected hissue,
      map_lengthened fun issue hissue => kind_of_mem_checkTypos hissue]

/-! ## The closed text -/

/-- What closes the innermost block leaves one missing end less, and the other issues. -/
theorem ClosesInnermost.counts {before after : List Issue} (h : ClosesInnermost before after) :
    before.countP (·.kind = .missingEnd) = after.countP (·.kind = .missingEnd) + 1 ∧
      after.filter (·.kind ≠ .missingEnd) = before.filter (·.kind ≠ .missingEnd) := by
  obtain ⟨front, innermost, back, rfl, hkind, _, rfl⟩ := h
  constructor
  · have hcount : ((front ++ back).map Issue.lengthened).countP (·.kind = .missingEnd)
        = (front ++ back).countP (·.kind = .missingEnd) := by
      simp [List.countP_map, Function.comp_def, Issue.lengthened_kind]
    rw [hcount]
    simp only [List.countP_append, List.countP_cons, hkind]
    simp
    omega
  · have hothers : (fun issue : Issue => decide (issue.kind ≠ .missingEnd)) ∘ Issue.lengthened
        = fun issue => decide (issue.kind ≠ .missingEnd) := by
      funext issue
      simp [Issue.lengthened_kind]
    rw [List.filter_map, hothers, map_lengthened fun issue hissue => by
      simpa using (List.mem_filter.mp hissue).2]
    simp [List.filter_append, hkind]

/-- An appended closing line is the last line of the text, or the last before the empty
one behind its newline. -/
theorem splitLines_appendEnd {source : Text} (h : ∀ line ∈ splitLines source, Unbroken line)
    (ending : Ending) :
    splitLines ((Fix.appendEnd ending).apply source) = appendEndLine (splitLines source) ∧
      ∀ line ∈ appendEndLine (splitLines source), Unbroken line := by
  obtain ⟨front, back, hlines, hended, _⟩ := appendEndLine_eq (splitLines source)
  have hunbroken : ∀ line ∈ appendEndLine (splitLines source), Unbroken line := by
    rw [hlines] at h
    rw [hended]
    exact unbroken_insert h (forall_mem_of_all rfl)
  refine ⟨joinedLines_apply rfl ?_ hunbroken, hunbroken⟩
  rw [hended]
  simp

/-- Where a missing end is reported a block is open, and its fix is a closing line. -/
theorem of_missingEnd {limits : Limits} {source : Text} {issue : Issue}
    (hissue : issue ∈ analyze limits source) (hkind : issue.kind = .missingEnd) :
    (imbalanceFrom [] (inspectedLines limits (splitLines source))).unclosed ≠ [] ∧
      ∃ ending, issue.candidates = [.appendEnd ending] := by
  rw [analyze_eq_analyzeLines] at hissue
  cases found_of_mem hissue with
  | astray _ _ hmade =>
      rw [(of_issue?_eq_some hmade).1] at hkind
      cases hkind
  | unexpected _ => cases hkind
  | unclosed hframe => exact ⟨List.ne_nil_of_mem hframe, _, rfl⟩
  | misspelt _ _ _ => cases hkind

/-- A closing line takes the last missing end from the issues of a text that has one. -/
theorem closesInnermost_appendEnd {limits : Limits} {source : Text}
    (hroom : 3 ≤ limits.maxLineLength) (hlines : ∀ line ∈ splitLines source, Unbroken line)
    {issue : Issue} (hissue : issue ∈ analyze limits source) (hkind : issue.kind = .missingEnd)
    (ending : Ending) :
    ClosesInnermost (analyze limits source)
      (analyze limits ((Fix.appendEnd ending).apply source)) := by
  obtain ⟨hopen, _⟩ := of_missingEnd hissue hkind
  obtain ⟨hsplit, _⟩ := splitLines_appendEnd hlines ending
  rw [analyze_eq_analyzeLines, analyze_eq_analyzeLines, hsplit]
  exact analyzeLines_closed hroom hopen

/-- The text with a closing line appended for each of the endings. -/
def appendEnds (source : Text) (endings : List Ending) : Text :=
  endings.foldl (fun text ending => (Fix.appendEnd ending).apply text) source

/-- As many closing lines as there are missing ends leave the other issues alone. -/
theorem analyze_appendEnds {limits : Limits} (hroom : 3 ≤ limits.maxLineLength)
    {source : Text} (hlines : ∀ line ∈ splitLines source, Unbroken line) {endings : List Ending}
    (hcount : endings.length = (analyze limits source).countP (·.kind = .missingEnd)) :
    analyze limits (appendEnds source endings)
      = (analyze limits source).filter (·.kind ≠ .missingEnd) := by
  induction endings generalizing source with
  | nil =>
      refine (List.filter_eq_self.mpr fun issue hissue => ?_).symm
      have hnone := List.countP_eq_zero.mp hcount.symm issue hissue
      simpa using hnone
  | cons ending endings ih =>
      have hpositive : 0 < (analyze limits source).countP (·.kind = .missingEnd) := by
        rw [← hcount]
        exact Nat.succ_pos _
      obtain ⟨issue, hissue, hkind⟩ := List.countP_pos_iff.mp hpositive
      obtain ⟨hfewer, hothers⟩ :=
        (closesInnermost_appendEnd hroom hlines hissue (by simpa using hkind) ending).counts
      obtain ⟨hsplit, hunbroken⟩ := splitLines_appendEnd hlines ending
      rw [← hsplit] at hunbroken
      have hrest : endings.length
          = (analyze limits ((Fix.appendEnd ending).apply source)).countP
            (·.kind = .missingEnd) := by
        rw [List.length_cons] at hcount
        omega
      rw [← hothers]
      exact ih hunbroken hrest

/-- **The fix of a missing end takes the innermost one away and no other issue.** Whichever
of them it is made for, the appended line closes the innermost block; and as many such fixes
as there are missing ends, stale or not, leave none. -/
theorem appendEnd_closes_innermost (limits : Limits) (source : Text) (hreturns : Paired source)
    (hroom : 3 ≤ limits.maxLineLength) :
    (∀ issue ∈ analyze limits source, issue.kind = .missingEnd →
        ∃ ending, issue.candidates = [.appendEnd ending] ∧
          ClosesInnermost (analyze limits source)
            (analyze limits ((Fix.appendEnd ending).apply source))) ∧
      ∀ endings : List Ending,
        endings.length = (analyze limits source).countP (·.kind = .missingEnd) →
          analyze limits (appendEnds source endings)
            = (analyze limits source).filter (·.kind ≠ .missingEnd) := by
  have hlines := unbroken_of_mem_splitLines hreturns
  refine ⟨fun issue hissue hkind => ?_,
    fun endings hcount => analyze_appendEnds hroom hlines hcount⟩
  obtain ⟨_, ending, hcandidates⟩ := of_missingEnd hissue hkind
  exact ⟨ending, hcandidates, closesInnermost_appendEnd hroom hlines hissue hkind ending⟩

/-- A text with a block in another, neither of them closed. -/
def nestedSource : Text :=
  "graph up\nsubgraph one\n  subgraph two\nStep1-->Stpe1\n".toList

/-- Two closing lines are missing in the text, and leave its other issues alone. -/
theorem appendEnd_closes_innermost_nested :
    (analyze {} nestedSource).map (·.kind)
        = [.unknownDirection, .missingEnd, .missingEnd, .possibleTypo] ∧
      (∃ issue ∈ analyze {} nestedSource, ∃ ending, issue.candidates = [.appendEnd ending] ∧
        ClosesInnermost (analyze {} nestedSource)
          (analyze {} ((Fix.appendEnd ending).apply nestedSource))) ∧
      (analyze {} (appendEnds nestedSource [⟨5⟩, ⟨5⟩])).map (·.kind)
        = [.unknownDirection, .possibleTypo] := by
  obtain ⟨hone, hall⟩ := appendEnd_closes_innermost {} nestedSource
    (paired_of_not_mem (by decide)) (by decide)
  have hpositive : 0 < (analyze {} nestedSource).countP (·.kind = .missingEnd) := by decide
  obtain ⟨issue, hissue, hkind⟩ := List.countP_pos_iff.mp hpositive
  refine ⟨by decide, ⟨issue, hissue, hone issue hissue (by simpa using hkind)⟩, ?_⟩
  rw [hall [⟨5⟩, ⟨5⟩] (by decide)]
  decide

end Flowchart
