import Flowchart.Proofs.Direction
import Flowchart.Proofs.Fix.Progress
import Flowchart.Proofs.Issues

/-!
# The effect of a direction

A header without a direction can be given any of the five.  The fix finds the
header at its keyword, whatever its word is and wherever that occurs besides, so
the line keeps what stands before the keyword and behind the word, and the other
lines stay as they are.  The header is not reported any more, even where the
longer line is not looked at, and nothing else about blocks, names or directions
changes.

Main statement: `direction_fix_exact`.
-/

namespace Flowchart

/-- The issues are those before without the one. -/
def Mends (issue : Issue) (before after : List Issue) : Prop :=
  ∃ front back, before = front ++ issue :: back ∧ after = front ++ back

/-- The text `after` is `source` with a new line between `front` and `back`, and with
one issue less. -/
structure Redirected (limits : Limits) (source : Text) (issue : Issue) (front : List Text)
    (new : Text) (back : List Text) (after : Text) : Prop where
  /-- The text is changed. -/
  changed : after ≠ source
  /-- Its lines are the others and the new one. -/
  lines : splitLines after = front ++ new :: back
  /-- Of the unknown directions that one is not reported any more. -/
  directions : Mends issue (issuesOf .unknownDirection (analyze limits source))
    (issuesOf .unknownDirection (analyze limits after))
  /-- The issues of blocks are the same. -/
  balance : balanceIssues (analyze limits after) = balanceIssues (analyze limits source)
  /-- The names are the same. -/
  names : extractNames limits (splitLines after) = extractNames limits (splitLines source)

/-- The issue is about one header, of which its candidates change the word and nothing else:
they are the five directions in their order, the first of them the fix of the issue itself. -/
def MendedByDirections (limits : Limits) (source : Text) (issue : Issue) : Prop :=
  ∃ (front back : List Text) (line rest : Text) (header : Header),
    splitLines source = front ++ line :: back ∧ issue.line = front.length + 1 ∧
    header.Reads line rest ∧
    issue.candidates = Direction.all.map (header.redirect issue.line) ∧
    issue.candidates.head? = issue.fix ∧
    ∀ direction, Redirected limits source issue front (header.redirectedLine direction rest) back
      ((header.redirect issue.line direction).apply source)

/-! ## One line exchanged for another -/

section Exchanged

variable {limits : Limits} {line new : Text}

/-- Of two lines without marks either may stand among others. -/
theorem checkBalance_exchanged (hline : Mark.ofLine line = .neither)
    (hnew : Mark.ofLine new = .neither) (front back : List Text) :
    checkBalance limits (front ++ new :: back) = checkBalance limits (front ++ line :: back) := by
  have hidle : ∀ text : Text, Mark.ofLine text = .neither →
      ∀ found ∈ inspectedFrom limits (1 + front.length) [text],
        Mark.ofLine found.text = .neither := by
    intro text htext found hfound
    rw [text_of_mem_inspectedFrom hfound, htext]
  have hlength : (front ++ new :: back).length = (front ++ line :: back).length := by simp
  unfold checkBalance
  rw [inspectedLines_append, inspectedLines_append, inspectedFrom_cons, inspectedFrom_cons _ _ line,
    imbalanceFrom_append_append (hidle new hnew), imbalanceFrom_append_append (hidle line hline),
    hlength]

/-- A line that is reported is not reported any more when a line without an issue takes its
place. -/
theorem mends_checkDirection (hkept : isInspected limits line = true) {issue : Issue}
    {front : List Text}
    (hissue : (NumberedLine.mk (1 + front.length) line).directionIssue? = some issue)
    (hnew : ∀ number, (NumberedLine.mk number new).directionIssue? = none) (back : List Text) :
    Mends issue (checkDirection limits (front ++ line :: back))
      (checkDirection limits (front ++ new :: back)) := by
  refine ⟨checkDirection limits front,
    (inspectedFrom limits (1 + front.length + 1) back).filterMap (·.directionIssue?), ?_, ?_⟩
  · rw [checkDirection_insert, inspectedFrom_of_inspected hkept, List.filterMap_cons, hissue]
    rfl
  · rw [checkDirection_insert,
      filterMap_directionIssue?_eq_nil (List.forall_mem_singleton.mpr hnew), List.nil_append]

end Exchanged

/-! ## The redirected text -/

/-- A header with a direction has no issue. -/
theorem Header.Reads.directionIssue?_redirected {header : Header} {line rest : Text}
    (h : header.Reads line rest) (direction : Direction) (number : Nat) :
    (NumberedLine.mk number (header.redirectedLine direction rest)).directionIssue? = none := by
  rw [NumberedLine.directionIssue?, (h.redirected direction).ofLine?_eq]
  cases direction <;> rfl

/-- A redirected header changes one line of the text, and mends its issue.  Neither the old line nor
the new one has a mark or a name, so it does not matter whether the new one is looked at. -/
theorem redirected_apply {limits : Limits} {source : Text} {front back : List Text} {line : Text}
    (hlines : splitLines source = front ++ line :: back) (hkept : isInspected limits line = true)
    {header : Header} {rest : Text} (hreads : header.Reads line rest) {issue : Issue}
    (hissue : header.issue? (1 + front.length) = some issue) (direction : Direction) :
    Redirected limits source issue front (header.redirectedLine direction rest) back
      ((header.redirect (1 + front.length : Nat) direction).apply source) := by
  have hreported : (NumberedLine.mk (1 + front.length) line).directionIssue? = some issue := by
    rw [NumberedLine.directionIssue?, hreads.ofLine?_eq]
    exact hissue
  have hsilent := hreads.directionIssue?_redirected direction
  have hjoinable := joinable_splitLines source
  rw [hlines] at hjoinable
  have happlied := hreads.applyToLines?_redirect front back direction
  rw [← hlines] at happlied
  have hafter := splitLines_apply happlied (hreads.joinable_redirected hjoinable direction)
  have hidle := hreads.idle
  have hnewIdle := (hreads.redirected direction).idle
  refine ⟨fun hsame => ?_, hafter, ?_, ?_, ?_⟩
  · rw [hsame, hlines] at hafter
    obtain ⟨hline, _⟩ := List.cons.inj (List.append_cancel_left hafter)
    rw [hline, hsilent] at hreported
    cases hreported
  · rw [analyze_eq_analyzeLines, analyze_eq_analyzeLines, issuesOf_unknownDirection,
      issuesOf_unknownDirection, hafter, hlines]
    exact mends_checkDirection hkept hreported hsilent back
  · rw [analyze_eq_analyzeLines, analyze_eq_analyzeLines, balanceIssues_analyzeLines,
      balanceIssues_analyzeLines, hafter, hlines]
    exact checkBalance_exchanged hidle.mark hnewIdle.mark front back
  · rw [hafter, hlines, extractNames_insert hnewIdle.definitions hnewIdle.references,
      extractNames_insert hidle.definitions hidle.references]

/-- A candidate for a header of the text is one of the fixes that redirect it. -/
theorem redirected_of_mem_candidates {limits : Limits} {source : Text} {found : NumberedLine}
    (hfound : found ∈ inspectedLines limits (splitLines source)) {header : Header}
    (hheader : Header.ofLine? found.text = some header) {issue : Issue}
    (hmade : header.issue? found.number = some issue) {fix : Fix}
    (hfix : fix ∈ issue.candidates) :
    ∃ (front back : List Text) (rest : Text) (direction : Direction),
      splitLines source = front ++ found.text :: back ∧ found.number = 1 + front.length ∧
      header.Reads found.text rest ∧ fix = header.redirect found.number direction ∧
      Redirected limits source issue front (header.redirectedLine direction rest) back
        (fix.apply source) := by
  obtain ⟨hkept, front, back, hlines, hnumber⟩ := exists_of_mem_inspected hfound
  obtain ⟨rest, hreads⟩ := Header.ofLine?_eq_some_iff.mp hheader
  obtain ⟨direction, rfl⟩ := hreads.of_mem_candidates hmade hfix
  refine ⟨front, back, rest, direction, hlines, hnumber, hreads, rfl, ?_⟩
  rw [hnumber] at hmade ⊢
  exact redirected_apply hlines hkept hreads hmade direction

/-- **A direction is put in the place of the word of one header, and nothing else changes.** -/
theorem direction_fix_exact (limits : Limits) (source : Text) {issue : Issue}
    (hissue : issue ∈ analyze limits source) (hkind : issue.kind = .unknownDirection) :
    MendedByDirections limits source issue := by
  have hmem : issue ∈ checkDirection limits (splitLines source) := by
    rw [← issuesOf_unknownDirection, ← analyze_eq_analyzeLines]
    exact List.mem_filter.mpr ⟨hissue, by simpa using hkind⟩
  obtain ⟨found, hfound, hreported⟩ := List.mem_filterMap.mp hmem
  obtain ⟨header, hheader, hmade⟩ := Option.bind_eq_some_iff.mp hreported
  obtain ⟨hkept, front, back, hlines, hnumber⟩ := exists_of_mem_inspected hfound
  obtain ⟨rest, hreads⟩ := Header.ofLine?_eq_some_iff.mp hheader
  rw [hnumber] at hmade
  obtain ⟨_, _, hline, hfix⟩ := of_issue?_eq_some hmade
  have hcandidates := hreads.candidates_eq hmade
  rw [← hline] at hcandidates hfix
  refine ⟨front, back, found.text, rest, header, hlines, by omega, hreads, hcandidates, ?_,
    fun direction => ?_⟩
  · rw [hcandidates, hfix]
    rfl
  · rw [hline]
    exact redirected_apply hlines hkept hreads hmade direction

/-- A text whose second header is found in its own keyword, and again behind it. -/
def strayedSource : Text :=
  "graph up\r\n  FlowChart \tl; l-->B\r\nend".toList

/-- Both headers of the text can be mended, where the longer line is not looked at too. -/
theorem direction_fix_exact_strayed :
    (analyze { maxLineLength := 21 } strayedSource).map (fun issue => (issue.kind, issue.line))
        = [(.unknownDirection, 1), (.unknownDirection, 2), (.unexpectedEnd, 3)] ∧
      ∀ issue ∈ analyze { maxLineLength := 21 } strayedSource, issue.kind = .unknownDirection →
        MendedByDirections { maxLineLength := 21 } strayedSource issue :=
  ⟨by decide, fun _ hissue hkind => direction_fix_exact _ strayedSource hissue hkind⟩

end Flowchart
