import Flowchart.Proofs.Carried
import Flowchart.Proofs.Indent
import Flowchart.Proofs.Issues

/-!
# Indented documents

Any line of a document may be indented by more blanks, as long as it is still looked
at.  What is read from the lines stays the same, and so do the names, the marks of the
blocks and the headers.  Only columns move, each by the blanks that came in front of
its line: that of a direction with the indent of its header, that of a block with the
blanks in front of it, and that of a reference with the place where it first stands.

Main statement: `analyze_indentLines`.
-/

namespace Flowchart

section Indented

variable (indents : Nat → Text)

/-- The line with the blanks for its number in front. -/
def NumberedLine.indented (line : NumberedLine) : NumberedLine :=
  ⟨line.number, indents line.number ++ line.text⟩

/-- The lines, each with the blanks for its number in front. -/
def indentLines (lines : List Text) : List Text :=
  (numbered lines).map fun line => (line.indented indents).text

/-- The issue with its column moved by the blanks for its line. -/
def Issue.shifted (issue : Issue) : Issue :=
  { issue with column := issue.column + (indents issue.line.toNat).length }

/-- The frame with its column moved by the blanks for its line. -/
def Frame.shifted (frame : Frame) : Frame :=
  { frame with column := frame.column + (indents frame.line).length }

/-- The place with its column moved by the blanks for its line. -/
def shiftedPlace (place : Nat × Nat) : Nat × Nat :=
  (place.1, place.2 + (indents place.1).length)

end Indented

variable {limits : Limits} {indents : Nat → Text} {lines : List Text}

/-! ## The lines that are looked at -/

/-- Indented lines have the numbers that they had. -/
theorem numberFrom_indented (number : Nat) (lines : List Text) :
    numberFrom number ((numberFrom number lines).map fun line => (line.indented indents).text)
      = (numberFrom number lines).map (NumberedLine.indented indents) := by
  induction lines generalizing number with
  | nil => rfl
  | cons line lines ih => rw [numberFrom, List.map_cons, numberFrom, ih, List.map_cons]; rfl

/-- The numbered lines of an indented document are the indented ones. -/
theorem numbered_indentLines :
    numbered (indentLines indents lines) = (numbered lines).map (NumberedLine.indented indents) :=
  numberFrom_indented 1 lines

/-- Indenting leaves as many lines. -/
theorem length_indentLines : (indentLines indents lines).length = lines.length := by
  have hnumbers := congrArg List.length (numberFrom_map 1 lines)
  rw [List.length_map] at hnumbers
  rw [indentLines, List.length_map, numbered, hnumbers]

/-- Indents without breaks bring none into the lines. -/
theorem unbroken_indentLines (hlines : ∀ line ∈ lines, Unbroken line)
    (hindents : ∀ number, Unbroken (indents number)) :
    ∀ line ∈ indentLines indents lines, Unbroken line := by
  intro line hline
  obtain ⟨numberedLine, hmem, rfl⟩ := List.mem_map.mp hline
  obtain ⟨front, back, hsplit, _⟩ := exists_of_mem_numberFrom hmem
  have htext : numberedLine.text ∈ lines := by
    rw [hsplit]
    exact List.mem_append_right front List.mem_cons_self
  exact List.forall_mem_append.mpr ⟨hindents numberedLine.number, hlines _ htext⟩

section Lines

variable (hindents : ∀ number, Blanks (indents number))
  (hroom : ∀ line ∈ indentLines indents lines, (line.length : Int) ≤ limits.maxLineLength)

include hindents

/-- A name stands behind the blanks in front of its line, as far on as before. -/
theorem locate?_indentLines {id : Text} (hname : IsName id) :
    locate? id (indentLines indents lines) = (locate? id lines).map (shiftedPlace indents) := by
  unfold locate?
  rw [numbered_indentLines]
  refine locateFrom?_map (fun line _ => (hindents line.number).isComment_append line.text)
    fun line _ => ?_
  have hindex := (hindents line.number).indexOf?_append hname line.text
  rw [NumberedLine.indented, hindex, Option.map_map]
  refine Option.map_congr fun offset _ => ?_
  simp only [Function.comp_apply, shiftedPlace, Nat.add_right_comm]

include hroom

/-- The lines that are looked at are the same ones. -/
theorem inspectedLines_indentLines :
    inspectedLines limits (indentLines indents lines)
      = (inspectedLines limits lines).map (NumberedLine.indented indents) := by
  have hkept : ∀ line ∈ numbered lines,
      isInspected limits (line.indented indents).text = isInspected limits line.text := by
    intro line hline
    have hlonger := hroom _ (List.mem_map_of_mem hline)
    have hshorter : (line.text.length : Int) ≤ limits.maxLineLength := by
      rw [NumberedLine.indented, List.length_append] at hlonger
      omega
    have hcomment := (hindents line.number).isComment_append line.text
    unfold isInspected
    rw [decide_eq_true hlonger, decide_eq_true hshorter]
    exact congrArg _ (congrArg _ hcomment)
  rw [inspectedLines, numbered_indentLines, List.filter_map]
  exact congrArg _ (List.filter_congr hkept)

/-- The names of a document do not depend on its indents. -/
theorem extractNames_indentLines :
    extractNames limits (indentLines indents lines) = extractNames limits lines := by
  simp only [extractNames, inspectedLines_indentLines hindents hroom, List.map_map,
    List.flatMap_map, Function.comp_apply, NumberedLine.indented,
    (hindents _).lineDefinitions_append, (hindents _).lineReferences_append]

end Lines

/-! ## The checks -/

/-- The issue of a header moves with its indent. -/
theorem issue?_indent (header : Header) (blanks : Text) (number : Nat) :
    Header.issue? { header with indent := blanks ++ header.indent } number
      = (header.issue? number).map fun issue =>
          { issue with column := issue.column + blanks.length } := by
  have hstart : Header.directionStart { header with indent := blanks ++ header.indent }
      = header.directionStart + blanks.length := by
    simp only [Header.directionStart, List.length_append]
    omega
  have hcolumn : ((header.directionStart + blanks.length : Nat) : Int) + 1
      = header.directionStart + 1 + blanks.length := by omega
  unfold Header.issue?
  rw [hstart, hcolumn]
  split <;> rfl

/-- The issue about the direction of a line moves with its indent. -/
theorem directionIssue?_indented {line : NumberedLine} (h : Blanks (indents line.number)) :
    (line.indented indents).directionIssue?
      = line.directionIssue?.map (Issue.shifted indents) := by
  unfold NumberedLine.directionIssue? NumberedLine.indented
  rw [h.headerOfLine?_append]
  cases Header.ofLine? line.text with
  | none => rfl
  | some header =>
      refine (issue?_indent header _ _).trans (Option.map_congr fun issue hissue => ?_)
      obtain ⟨_, _, hnumber, _⟩ := of_issue?_eq_some hissue
      rw [Issue.shifted, hnumber]
      rfl

/-- A frame moves with the blanks in front of its line. -/
theorem frameOfLine_indented {line : NumberedLine} (h : Blanks (indents line.number)) :
    Frame.ofLine (line.indented indents) = (Frame.ofLine line).shifted indents := by
  have hlength : (indentOf (indents line.number ++ line.text)).length + 1
      = (indentOf line.text).length + 1 + (indents line.number).length := by
    rw [h.indentOf_front, List.length_append]
    omega
  exact congrArg (Frame.mk line.number) hlength

section Checks

variable (hindents : ∀ number, Blanks (indents number))
  (hroom : ∀ line ∈ indentLines indents lines, (line.length : Int) ≤ limits.maxLineLength)

include hindents hroom

/-- The issues about directions move with the indents. -/
theorem checkDirection_indentLines :
    checkDirection limits (indentLines indents lines)
      = (checkDirection limits lines).map (Issue.shifted indents) := by
  have hissues := fun line : NumberedLine => directionIssue?_indented (hindents line.number)
  unfold checkDirection
  rw [inspectedLines_indentLines hindents hroom, List.filterMap_map, List.map_filterMap]
  exact List.filterMap_congr fun line _ => hissues line

/-- The issues about blocks move with the indents. -/
theorem checkBalance_indentLines :
    checkBalance limits (indentLines indents lines)
      = (checkBalance limits lines).map (Issue.shifted indents) := by
  have himbalance : imbalanceFrom [] (inspectedLines limits (indentLines indents lines))
      = (imbalanceFrom [] (inspectedLines limits lines)).moved (Frame.shifted indents) := by
    rw [inspectedLines_indentLines hindents hroom]
    exact imbalanceFrom_map (fun line _ => (hindents line.number).markOfLine_append line.text)
      (fun line _ => frameOfLine_indented (hindents line.number)) []
  refine checkBalance_carried himbalance (fun frame => rfl) fun frame => ?_
  rw [length_indentLines]
  rfl

/-- The issues about names move with the indents. -/
theorem checkTypos_indentLines :
    checkTypos limits (indentLines indents lines) (extractNames limits (indentLines indents lines))
      = (checkTypos limits lines (extractNames limits lines)).map (Issue.shifted indents) := by
  have hplace : ∀ id ∈ (extractNames limits lines).references,
      locate? id (indentLines indents lines) = (locate? id lines).map (shiftedPlace indents) := by
    intro id hid
    obtain ⟨_, _, _, hreference⟩ := exists_line_of_mem_references hid
    exact locate?_indentLines hindents (of_mem_references hreference).1
  rw [extractNames_indentLines hindents hroom]
  exact checkTypos_carried hplace fun id node place => rfl

end Checks

/-- **Blanks in front of lines move the columns of their issues and change nothing else.** -/
theorem analyze_indentLines (limits : Limits) (newline : Newline) {lines : List Text}
    {indents : Nat → Text} (hlines : ∀ line ∈ lines, Unbroken line)
    (hindents : ∀ number, Blanks (indents number) ∧ Unbroken (indents number))
    (hroom : ∀ line ∈ indentLines indents lines, (line.length : Int) ≤ limits.maxLineLength) :
    analyze limits (joinLines newline.text (indentLines indents lines))
      = (analyze limits (joinLines newline.text lines)).map (Issue.shifted indents) := by
  have hblanks : ∀ number, Blanks (indents number) := fun number => (hindents number).1
  have hindented := unbroken_indentLines hlines fun number => (hindents number).2
  rw [analyze_joinLines limits newline hindented, analyze_joinLines limits newline hlines,
    analyzeLines, checkDirection_indentLines hblanks hroom, checkBalance_indentLines hblanks hroom,
    checkTypos_indentLines hblanks hroom, ← List.map_append, ← List.map_append]
  rfl

/-- Lines with an issue of every kind but one, the last of them a comment. -/
def spacedLines : List Text :=
  ["flowchart up".toList, "subgraph a".toList, " Step1-->Step2".toList, "Step2-->Stpe1".toList,
    "%% Stpe1".toList]

/-- As many wide blanks as the number of the line says. -/
def spacing (number : Nat) : Text :=
  List.replicate number '\u2003'

/-- Wide blanks are blank, and hold no break. -/
theorem blanks_spacing (number : Nat) : Blanks (spacing number) ∧ Unbroken (spacing number) := by
  refine ⟨fun c hc => ?_, fun c hc => ?_⟩
  · rw [List.eq_of_mem_replicate hc]
    decide
  · rw [List.eq_of_mem_replicate hc]
    decide

/-- The direction, the keyword and the reference stand further on by the blanks of their lines. -/
theorem analyze_indentLines_spacing :
    analyze {} (joinLines ['\n'] (indentLines spacing spacedLines))
        = (analyze {} (joinLines ['\n'] spacedLines)).map (Issue.shifted spacing) ∧
      ((analyze {} (joinLines ['\n'] spacedLines)).map (Issue.shifted spacing)).map
          (fun issue => (issue.kind, issue.line, issue.column))
        = [(.unknownDirection, 1, 12), (.missingEnd, 2, 3), (.possibleTypo, 4, 13)] := by
  have hlines : ∀ line ∈ spacedLines, Unbroken line := forall_mem_of_all rfl
  have hroom : ∀ line ∈ indentLines spacing spacedLines,
      (line.length : Int) ≤ ({} : Limits).maxLineLength := forall_mem_of_all rfl
  exact ⟨analyze_indentLines {} .lf hlines blanks_spacing hroom, by decide⟩

end Flowchart
