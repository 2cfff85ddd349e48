import Flowchart.Proofs.Header
import Flowchart.Proofs.Height
import Flowchart.Proofs.Typo
import Mathlib.Data.List.Nodup

/-!
# What issues point at

The line and the column of an issue lead to what it is about: the direction of a
header, the word that opens or closes a block, or the name that is defined nowhere.
The three checks count columns in three ways, by the parts of a header, by the blanks
in front of a line, and by the place where a name first stands.  The fix of an issue
is meant for the same line.  And nothing is reported twice: a line has at most one
issue of its header and one of its block, and a name has at most one issue.

Main statement: `issues_point`.
-/

namespace Flowchart

/-- What stands in a line in front of the column of its issue, and from there on, in a document of
`count` lines: the whole word of a header, which names no direction; behind blanks only, the word
that opens a block, or the one that closes it; or the name that the fix defines. -/
def IsAbout (count : Nat) (issue : Issue) (front rest : Text) : Prop :=
  match issue.kind with
  | .unknownDirection =>
    ∃ (header : Header) (back : Text), header.Reads (front ++ rest) back ∧
      rest = header.direction ++ back ∧
      (∀ direction : Direction, header.direction.map Char.toUpper ≠ direction.name) ∧
      ∃ change, issue.fix = some (.replace change) ∧ change.line = issue.line
  | .missingEnd =>
    front = indentOf (front ++ rest) ∧
      (∃ keyword back, rest = keyword ++ back ∧ FoldsTo "subgraph".toList keyword ∧
        (∀ c, back.head? = some c → isWord c = false) ∧
        blockOpening? (front ++ rest) = some (front ++ keyword)) ∧
      issue.fix = some (.appendEnd ⟨count⟩)
  | .unexpectedEnd =>
    front = indentOf (front ++ rest) ∧
      (∃ keyword back, rest = keyword ++ back ∧ FoldsTo "end".toList keyword ∧
        isLineEnd back = true) ∧
      issue.fix = none
  | .possibleTypo =>
    ∃ id back, rest = id ++ back ∧ IsName id ∧ issue.fix = some (.defineNode ⟨id, issue.line⟩)

/-- The issue stands at a column of a line, and is about what stands there. -/
def PointsAt (lines : List Text) (issue : Issue) : Prop :=
  ∃ (i : Nat) (front rest : Text), lines[i]? = some (front ++ rest) ∧ issue.line = i + 1 ∧
    issue.column = front.length + 1 ∧ IsAbout lines.length issue front rest

/-- What an issue points at is in the document. -/
theorem PointsAt.line_mem {lines : List Text} {issue : Issue} (h : PointsAt lines issue) :
    1 ≤ issue.line ∧ issue.line ≤ lines.length := by
  obtain ⟨i, front, rest, hline, hnumber, _⟩ := h
  obtain ⟨hi, _⟩ := List.getElem?_eq_some_iff.mp hline
  omega

/-! ## Headers -/

/-- A word that names no direction is none of the five in either case. -/
theorem name_ne_of_ofName? {text : Text} (h : Direction.ofName? text = none)
    (direction : Direction) : text.map Char.toUpper ≠ direction.name := by
  have hmem : direction ∈ Direction.all := by cases direction <;> decide
  have hnot := List.find?_eq_none.mp h direction hmem
  simpa [eq_comm] using hnot

/-- The issue of a header stands at its direction. -/
theorem column_of_issue? {header : Header} {number : Nat} {issue : Issue}
    (h : header.issue? number = some issue) : issue.column = header.directionStart + 1 := by
  unfold Header.issue? at h
  split at h
  · cases h
  · obtain rfl := Option.some.inj h
    rfl

/-- The issue of a header points at its word. -/
theorem pointsAt_header {lines front back : List Text} {line : Text} {header : Header}
    {issue : Issue} (hlines : lines = front ++ line :: back)
    (hheader : Header.ofLine? line = some header)
    (hissue : header.issue? (1 + front.length) = some issue) : PointsAt lines issue := by
  obtain ⟨hkind, hdirection, hnumber, hfix⟩ := of_issue?_eq_some hissue
  obtain ⟨rest, hreads⟩ := Header.ofLine?_eq_some_iff.mp hheader
  have hsplit : line
      = (header.indent ++ header.keyword ++ header.gap) ++ (header.direction ++ rest) := by
    rw [hreads.line_eq, Header.span]
    simp only [List.append_assoc]
  refine ⟨front.length, header.indent ++ header.keyword ++ header.gap, header.direction ++ rest,
    by simp [hlines, hsplit], by omega, ?_, ?_⟩
  · rw [column_of_issue? hissue, Header.directionStart]
    simp [Int.add_assoc]
  · rw [hsplit] at hreads
    simp only [IsAbout, hkind]
    exact ⟨header, rest, hreads, rfl, name_ne_of_ofName? hdirection, _, hfix, hnumber.symm⟩

/-! ## Blocks -/

/-- A line that opens a block begins with the word for it. -/
theorem of_blockOpening? {line opening : Text} (h : blockOpening? line = some opening) :
    ∃ keyword back, trimStart line = keyword ++ back ∧ FoldsTo "subgraph".toList keyword ∧
      (∀ c, back.head? = some c → isWord c = false) ∧ opening = indentOf line ++ keyword := by
  unfold blockOpening? at h
  split at h
  · rename_i keyword back hsplit
    obtain ⟨htrim, hfolds⟩ := splitFolded?_eq_some_iff.mp hsplit
    split at h
    · cases h
    · rename_i hends
      refine ⟨keyword, back, htrim, hfolds, fun c hc => ?_, (Option.some.inj h).symm⟩
      simpa [hc] using hends
  · cases h

/-- A line that closes a block is the word for it. -/
theorem of_isBlockClosing {line : Text} (h : isBlockClosing line = true) :
    ∃ keyword back, trimStart line = keyword ++ back ∧ FoldsTo "end".toList keyword ∧
      isLineEnd back = true := by
  unfold isBlockClosing at h
  split at h
  · rename_i keyword back hsplit
    obtain ⟨htrim, hfolds⟩ := splitFolded?_eq_some_iff.mp hsplit
    exact ⟨keyword, back, htrim, hfolds, h⟩
  · cases h

/-- The issue of a block stands behind the blanks in front of its line. -/
theorem pointsAt_block {lines : List Text} {i : Nat} {line : Text} {issue : Issue}
    (hline : lines[i]? = some line) (hnumber : issue.line = ((1 + i : Nat) : Int))
    (hcolumn : issue.column = (((indentOf line).length + 1 : Nat) : Int))
    (habout : IsAbout lines.length issue (indentOf line) (trimStart line)) :
    PointsAt lines issue := by
  have hsplit := indentOf_append_trimStart line
  exact ⟨i, indentOf line, trimStart line, by rw [hsplit, hline], by omega, by omega, habout⟩

/-- A missing end points at the word that opens the block. -/
theorem pointsAt_missingEnd {limits : Limits} {lines : List Text} {i : Nat} {line : Text}
    (hline : lines[i]? = some line) (hopens : opensBlock limits line = true) :
    PointsAt lines ((Frame.ofLine ⟨1 + i, line⟩).missingEnd lines.length) := by
  obtain ⟨_, hopening⟩ := Bool.and_eq_true_iff.mp hopens
  obtain ⟨opening, hopening⟩ := Option.isSome_iff_exists.mp hopening
  obtain ⟨keyword, back, htrim, hfolds, hends, rfl⟩ := of_blockOpening? hopening
  have hsplit := indentOf_append_trimStart line
  refine pointsAt_block hline rfl rfl
    ⟨by rw [hsplit], ⟨keyword, back, htrim, hfolds, hends, ?_⟩, rfl⟩
  rw [hsplit, hopening]

/-- An unexpected end points at the word that closes no block. -/
theorem pointsAt_unexpectedEnd {limits : Limits} {lines : List Text} {i : Nat} {line : Text}
    (hline : lines[i]? = some line) (hcloses : closesBlock limits line = true) :
    PointsAt lines (Frame.ofLine ⟨1 + i, line⟩).unexpectedEnd := by
  obtain ⟨_, hclosing⟩ := Bool.and_eq_true_iff.mp hcloses
  obtain ⟨_, hclosing⟩ := Bool.and_eq_true_iff.mp hclosing
  have hsplit := indentOf_append_trimStart line
  exact pointsAt_block hline rfl rfl ⟨by rw [hsplit], of_isBlockClosing hclosing, rfl⟩

/-! ## References -/

/-- A misspelt name is pointed at where it first stands. -/
theorem pointsAt_typo {lines : List Text} {id node : Text} {number column : Nat}
    (hname : IsName id) (hplace : locate? id lines = some (number, column)) :
    PointsAt lines (typoIssue id node number column) := by
  obtain ⟨before, after, line, offset, rfl, rfl, rfl, _, ⟨⟨front, back, rfl, rfl⟩, _⟩, _⟩ :=
    firstPlace_of_locate? hplace
  exact ⟨before.length, front, id ++ back, by simp, rfl, rfl, id, back, rfl, hname, rfl⟩

/-! ## Nothing is reported twice -/

/-- The lines of the issues of headers increase. -/
theorem checkDirection_pairwise (limits : Limits) (lines : List Text) :
    ((checkDirection limits lines).map (·.line)).Pairwise (· < ·) := by
  have hnumbers := (numberFrom_pairwise 1 lines).filter fun line => isInspected limits line.text
  refine List.pairwise_map.mpr (List.pairwise_filterMap.mpr (hnumbers.imp ?_))
  intro line next hlt issue hissue other hother
  obtain ⟨header, _, hmade⟩ := Option.bind_eq_some_iff.mp hissue
  obtain ⟨another, _, hanother⟩ := Option.bind_eq_some_iff.mp hother
  obtain ⟨_, _, hnumber, _⟩ := of_issue?_eq_some hmade
  obtain ⟨_, _, hnext, _⟩ := of_issue?_eq_some hanother
  omega

/-- No name is reported twice. -/
theorem checkTypos_nodup (limits : Limits) (lines : List Text) :
    ((checkTypos limits lines (extractNames limits lines)).map Issue.reference?).Nodup := by
  have hreferences : (extractNames limits lines).references.Nodup := by
    rw [extractNames_eq]
    exact nodup_eraseDups _
  refine List.pairwise_map.mpr (List.pairwise_filterMap.mpr (hreferences.imp ?_))
  intro id next hne issue hissue other hother hsame
  obtain ⟨_, _, _, _, _, _, _, rfl⟩ := of_typoIssue?_eq_some hissue
  obtain ⟨_, _, _, _, _, _, _, rfl⟩ := of_typoIssue?_eq_some hother
  exact hne (Option.some.inj hsame)

/-! ## All issues -/

/-- Every issue points at what it is about. -/
theorem pointsAt_of_mem {limits : Limits} {lines : List Text} {issue : Issue}
    (h : issue ∈ analyzeLines limits lines) : PointsAt lines issue := by
  cases found_of_mem h with
  | @astray line header _ hline hheader hissue =>
      obtain ⟨_, front, back, hlines, hnumber⟩ := exists_of_mem_inspected hline
      rw [hnumber] at hissue
      exact pointsAt_header hlines hheader hissue
  | unexpected hframe =>
      obtain ⟨i, line, ⟨hline, hcloses, _⟩, rfl⟩ := mem_unexpected_iff.mp hframe
      exact pointsAt_unexpectedEnd hline hcloses
  | unclosed hframe =>
      rcases mem_unclosed_iff.mp hframe with ⟨_, hnone, _⟩ | ⟨i, line, ⟨hline, hopens, _⟩, rfl⟩
      · cases hnone
      · exact pointsAt_missingEnd hline hopens
  | misspelt hid _ hplace =>
      obtain ⟨line, _, _, hreference⟩ := exists_line_of_mem_references hid
      obtain ⟨hname, _⟩ := of_mem_references hreference
      exact pointsAt_typo hname hplace

/-- **Every issue points at what it is about, and nothing is reported twice.** Its line is one
of the text, what it is about stands at its column, and its fix is meant for that line; no line
has two issues of headers or two of blocks, and no name has two. -/
theorem issues_point (limits : Limits) (source : Text) :
    (∀ issue ∈ analyze limits source, 1 ≤ issue.line ∧
        issue.line ≤ (splitLines source).length ∧ PointsAt (splitLines source) issue) ∧
      ((issuesOf .unknownDirection (analyze limits source)).map (·.line)).Nodup ∧
      ((balanceIssues (analyze limits source)).map (·.line)).Nodup ∧
      ((issuesOf .possibleTypo (analyze limits source)).map Issue.reference?).Nodup := by
  rw [analyze_eq_analyzeLines, issuesOf_unknownDirection, balanceIssues_analyzeLines,
    issuesOf_possibleTypo]
  refine ⟨fun issue hissue => ?_, (checkDirection_pairwise limits _).nodup,
    (checkBalance_pairwise limits _).nodup, checkTypos_nodup limits _⟩
  have hpoints := pointsAt_of_mem hissue
  exact ⟨hpoints.line_mem.1, hpoints.line_mem.2, hpoints⟩

/-- A text with an issue of each kind, behind blanks of several kinds. -/
def crookedSource : Text :=
  "  graph\tup -->x\r\n\u00a0SUBGRAPH a\nEND ;\n\tend\nsubgraph b\n".toList
    ++ "Step1[\"Stpe1\"]-->Step2\nStep2-->Stpe1".toList

/-- The reference that looks misspelt is found at its place in the label. -/
theorem issues_point_crooked :
    (analyze {} crookedSource).map (fun issue => (issue.kind, issue.line, issue.column))
        = [(.unknownDirection, 1, 9), (.unexpectedEnd, 4, 2), (.missingEnd, 5, 1),
          (.possibleTypo, 6, 8)] ∧
      typoIssue "Stpe1".toList "Step1".toList 6 8 ∈ analyze {} crookedSource ∧
      PointsAt (splitLines crookedSource) (typoIssue "Stpe1".toList "Step1".toList 6 8) := by
  have hmem : typoIssue "Stpe1".toList "Step1".toList 6 8 ∈ analyze {} crookedSource := by decide
  obtain ⟨hpoints, _⟩ := issues_point {} crookedSource
  exact ⟨by decide, hmem, (hpoints _ hmem).2.2⟩

end Flowchart
