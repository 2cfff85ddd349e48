import Flowchart.Proofs.Carried
import Flowchart.Proofs.Fix.Budget
import Flowchart.Proofs.Indent
import Flowchart.Proofs.Issues
import Flowchart.Proofs.Moved

/-!
# Comments and blank lines

A comment is not looked at, whatever stands in it and however long it is, and a blank
line says nothing.  So a document with one more such line has the issues that it had:
those of lines behind it have moved down by one, also where an issue speaks of its
line in its message or in its fix, and the end of the document has moved with them.

Main statement: `analyze_insert_silent`.
-/

namespace Flowchart

/-- The line is blank, or a comment. -/
def Silent (line : Text) : Prop :=
  Blanks line ∨ isComment line = true

/-! ## What a silent line says -/

/-- A comment begins with a percent sign, blanks apart. -/
theorem exists_of_isComment {line : Text} (h : isComment line = true) :
    ∃ rest, trimStart line = '%' :: rest := by
  obtain ⟨rest, hrest⟩ := List.isPrefixOf_iff_prefix.mp h
  exact ⟨'%' :: rest, hrest.symm⟩

namespace Silent

variable {line : Text}

/-- A silent line is no header. -/
theorem headerOfLine?_eq (h : Silent line) : Header.ofLine? line = none := by
  rcases h with hblank | hcomment
  · exact hblank.headerOfLine?_eq
  · obtain ⟨rest, hrest⟩ := exists_of_isComment hcomment
    unfold Header.ofLine?
    rw [hrest]
    rfl

/-- A silent line neither opens nor closes a block. -/
theorem mark_eq (h : Silent line) : Mark.ofLine line = .neither := by
  rcases h with hblank | hcomment
  · exact hblank.mark_eq
  · obtain ⟨rest, hrest⟩ := exists_of_isComment hcomment
    unfold Mark.ofLine blockOpening? isBlockClosing
    rw [hrest]
    rfl

/-- No name is found in the line: in a blank one it would stand behind the blanks, where there is
nothing. -/
theorem locateFrom?_cons (h : Silent line) {name : Text} (hname : IsName name) (number : Nat)
    (lines : List NumberedLine) :
    locateFrom? name (⟨number, line⟩ :: lines) = locateFrom? name lines := by
  rcases h with hblank | hcomment
  · have hnone : indexOf? name line = none := by
      have happend := hblank.indexOf?_append hname []
      rw [List.append_nil] at happend
      simpa [indexOf?, hname.ne_nil] using happend
    simp [locateFrom?, hnone]
  · simp [locateFrom?, hcomment]

/-- The line does not count for the names of a document. -/
theorem extractNames_insert (h : Silent line) (limits : Limits) (front back : List Text) :
    extractNames limits (front ++ line :: back) = extractNames limits (front ++ back) := by
  rcases h with hblank | hcomment
  · exact Flowchart.extractNames_insert hblank.lineDefinitions_eq hblank.lineReferences_eq
      limits front back
  · have hskipped : ¬ isInspected limits line = true := by simp [isInspected, hcomment]
    rw [extractNames_eq, extractNames_eq, List.filter_append, List.filter_append,
      List.filter_cons_of_neg hskipped]

end Silent

/-! ## Places behind the line -/

/-- What is said of a block that is opened on that line and never closed. -/
def unclosedMessage (line : Int) : Text :=
  "'subgraph' opened on line ".toList ++ intText line ++ " is never closed with 'end'".toList

/-- The issue when one more line stands before the line `place`: a missing end speaks of its
line in the message too. -/
def Issue.movedDown (place : Int) (issue : Issue) : Issue :=
  if issue.kind = .missingEnd then
    { issue.moved place with message := unclosedMessage (movedLine place issue.line) }
  else issue.moved place

/-- The number of a line of the document when one more line stands before the line `place`. -/
def movedNumber (place number : Nat) : Nat :=
  if number < place then number else number + 1

/-- The numbers of lines move as those in fixes do. -/
theorem movedLine_natCast (place number : Nat) :
    movedLine place number = movedNumber place number := by
  unfold movedLine movedNumber
  split <;> split <;> omega

/-- The line with its number moved. -/
def NumberedLine.moved (place : Nat) (line : NumberedLine) : NumberedLine :=
  ⟨movedNumber place line.number, line.text⟩

/-- The frame with its line moved. -/
def Frame.moved (place : Nat) (frame : Frame) : Frame :=
  ⟨movedNumber place frame.line, frame.column⟩

/-- The place with its line moved. -/
def movedPlace (place : Nat) (found : Nat × Nat) : Nat × Nat :=
  (movedNumber place found.1, found.2)

/-- The imbalance of moved lines is the moved one. -/
theorem imbalanceFrom_moved (place : Nat) (lines : List NumberedLine) :
    imbalanceFrom [] (lines.map (NumberedLine.moved place))
      = (imbalanceFrom [] lines).moved (Frame.moved place) :=
  @imbalanceFrom_map (NumberedLine.moved place) (Frame.moved place) lines (fun _ _ => rfl)
    (fun _ _ => rfl) []

/-- An unexpected end moves with its line. -/
theorem movedDown_unexpectedEnd (place : Nat) (frame : Frame) :
    frame.unexpectedEnd.movedDown place = (frame.moved place).unexpectedEnd :=
  congrArg (fun line => Issue.mk .unexpectedEnd line frame.column _ none none)
    (movedLine_natCast place frame.line)

/-- A missing end moves with its line and with the end of the document. -/
theorem movedDown_missingEnd (place count : Nat) (frame : Frame) :
    (frame.missingEnd count).movedDown place = (frame.moved place).missingEnd (count + 1) := by
  have hline := movedLine_natCast place frame.line
  simp only [Issue.movedDown, Issue.moved, Frame.missingEnd, if_pos, hline]
  rfl

/-- A misspelt name moves with its place. -/
theorem movedDown_typoIssue (place : Nat) (id node : Text) (found : Nat × Nat) :
    (typoIssue id node found.1 found.2).movedDown place
      = typoIssue id node (movedPlace place found).1 (movedPlace place found).2 := by
  have hline := movedLine_natCast place found.1
  simp [Issue.movedDown, Issue.moved, typoIssue, Fix.moved, movedPlace, hline]

/-! ## The lines beside it -/

variable {limits : Limits} {front back : List Text} {new : Text}

/-- The lines in front keep their numbers, and those behind have numbers one higher. -/
theorem numbered_map_moved (front back : List Text) :
    (numbered (front ++ back)).map (NumberedLine.moved (front.length + 1))
      = numberFrom 1 front ++ numberFrom (1 + front.length + 1) back := by
  have hfront : ∀ line ∈ numberFrom 1 front, line.moved (front.length + 1) = line := by
    intro line hline
    obtain ⟨before, after, rfl, hnumber⟩ := exists_of_mem_numberFrom hline
    have hbefore : line.number < (before ++ line.text :: after).length + 1 := by
      rw [List.length_append, List.length_cons]
      omega
    rw [NumberedLine.moved, movedNumber, if_pos hbefore]
  have hback : ∀ line ∈ numberFrom (1 + front.length) back,
      line.moved (front.length + 1) = ⟨line.number + 1, line.text⟩ := by
    intro line hline
    obtain ⟨_, _, _, hnumber⟩ := exists_of_mem_numberFrom hline
    rw [NumberedLine.moved, movedNumber, if_neg (by omega)]
  rw [numbered, numberFrom_append, List.map_append, numberFrom_succ (1 + front.length)]
  exact congr (congrArg _ ((List.map_congr_left hfront).trans (List.map_id _)))
    (List.map_congr_left hback)

/-- A line that is inserted has the next number, and those behind it have one more. -/
theorem numbered_insert (front back : List Text) (new : Text) :
    numbered (front ++ new :: back)
      = numberFrom 1 front
        ++ ⟨1 + front.length, new⟩ :: numberFrom (1 + front.length + 1) back := by
  rw [numbered, numberFrom_append, numberFrom]

/-- The lines that are looked at keep their numbers or move, as all others. -/
theorem inspectedLines_map_moved (limits : Limits) (front back : List Text) :
    (inspectedLines limits (front ++ back)).map (NumberedLine.moved (front.length + 1))
      = inspectedLines limits front ++ inspectedFrom limits (1 + front.length + 1) back := by
  have hkept : (inspectedLines limits (front ++ back)).map (NumberedLine.moved (front.length + 1))
      = ((numbered (front ++ back)).map (NumberedLine.moved (front.length + 1))).filter
          fun line => isInspected limits line.text := by
    rw [List.filter_map]
    rfl
  rw [hkept, numbered_map_moved, List.filter_append]
  rfl

/-- Blocks are out of balance as before. -/
theorem imbalanceFrom_insert (hnew : isInspected limits new = true → Mark.ofLine new = .neither) :
    imbalanceFrom [] (inspectedLines limits (front ++ new :: back))
      = (imbalanceFrom [] (inspectedLines limits (front ++ back))).moved
          (Frame.moved (front.length + 1)) := by
  have hidle : ∀ line ∈ inspectedFrom limits (1 + front.length) [new],
      Mark.ofLine line.text = .neither := by
    intro line hline
    have hkept := (List.mem_filter.mp hline).2
    rw [text_of_mem_inspectedFrom hline] at hkept ⊢
    exact hnew hkept
  rw [inspectedLines_append, inspectedFrom_cons, imbalanceFrom_append_append hidle,
    ← inspectedLines_map_moved]
  exact imbalanceFrom_moved _ _

/-- A name is found where it was before. -/
theorem locate?_insert (hnew : Silent new) {id : Text} (hname : IsName id) :
    locate? id (front ++ new :: back)
      = (locate? id (front ++ back)).map (movedPlace (front.length + 1)) := by
  have hmoved : locateFrom? id ((numbered (front ++ back)).map
        (NumberedLine.moved (front.length + 1)))
      = (locateFrom? id (numbered (front ++ back))).map (movedPlace (front.length + 1)) :=
    locateFrom?_map (fun line _ => rfl) fun line _ => rfl
  rw [locate?, locate?, numbered_insert, locateFrom?_append, hnew.locateFrom?_cons hname,
    ← locateFrom?_append, ← numbered_map_moved, hmoved]

/-! ## The issues beside it -/

/-- A silent line only moves the issues about directions. -/
theorem checkDirection_insert_silent (hnew : Silent new) :
    checkDirection limits (front ++ new :: back)
      = (checkDirection limits (front ++ back)).map (Issue.movedDown (front.length + 1)) := by
  have hnone : ∀ number, (NumberedLine.mk number new).directionIssue? = none := fun number =>
    NumberedLine.directionIssue?_of_ofLine? hnew.headerOfLine?_eq
  rw [checkDirection_moved hnone]
  refine List.map_congr_left fun issue hissue => ?_
  rw [Issue.movedDown, if_neg]
  rw [kind_eq_of_mem_checkDirection hissue]
  exact nofun

/-- A line without a mark, or one that is not looked at, moves the issues of blocks. -/
theorem checkBalance_insert_neither
    (hnew : isInspected limits new = true → Mark.ofLine new = .neither) :
    checkBalance limits (front ++ new :: back)
      = (checkBalance limits (front ++ back)).map (Issue.movedDown (front.length + 1)) := by
  refine checkBalance_carried (imbalanceFrom_insert hnew)
    (movedDown_unexpectedEnd (front.length + 1)) fun frame => ?_
  rw [List.length_append, List.length_append, List.length_cons]
  exact movedDown_missingEnd (front.length + 1) _ frame

/-- A silent line only moves the issues about blocks. -/
theorem checkBalance_insert_silent (hnew : Silent new) :
    checkBalance limits (front ++ new :: back)
      = (checkBalance limits (front ++ back)).map (Issue.movedDown (front.length + 1)) :=
  checkBalance_insert_neither fun _ => hnew.mark_eq

/-- A silent line only moves the issues about names. -/
theorem checkTypos_insert_silent (hnew : Silent new) :
    checkTypos limits (front ++ new :: back) (extractNames limits (front ++ back))
      = (checkTypos limits (front ++ back) (extractNames limits (front ++ back))).map
          (Issue.movedDown (front.length + 1)) := by
  have hplace : ∀ id ∈ (extractNames limits (front ++ back)).references,
      locate? id (front ++ new :: back)
        = (locate? id (front ++ back)).map (movedPlace (front.length + 1)) := by
    intro id hid
    obtain ⟨_, _, _, hreference⟩ := exists_line_of_mem_references hid
    exact locate?_insert hnew (of_mem_references hreference).1
  exact checkTypos_carried hplace (movedDown_typoIssue (front.length + 1))

/-- **A comment or a blank line moves the issues of the lines behind it, and changes nothing
else.** -/
theorem analyze_insert_silent (limits : Limits) (newline : Newline) {front back : List Text}
    {new : Text} (hlines : ∀ line ∈ front ++ back, Unbroken line) (hnew : Unbroken new)
    (hsilent : Silent new) :
    analyze limits (joinLines newline.text (front ++ new :: back))
      = (analyze limits (joinLines newline.text (front ++ back))).map
          (Issue.movedDown (front.length + 1)) := by
  obtain ⟨hfront, hback⟩ := List.forall_mem_append.mp hlines
  have hinserted : ∀ line ∈ front ++ new :: back, Unbroken line :=
    List.forall_mem_append.mpr ⟨hfront, List.forall_mem_cons.mpr ⟨hnew, hback⟩⟩
  rw [analyze_joinLines limits newline hinserted, analyze_joinLines limits newline hlines,
    analyzeLines, hsilent.extractNames_insert, checkDirection_insert_silent hsilent,
    checkBalance_insert_silent hsilent, checkTypos_insert_silent hsilent, ← List.map_append,
    ← List.map_append]
  rfl

/-- A document with an issue of each kind. -/
def turnedLines : List Text :=
  ["subgraph a".toList, "Step1-->Step2".toList, "Step2-->Stpe1".toList, "end".toList,
    "\tEND;".toList, "subgraph b".toList]

/-- A comment that names a wrong direction, opens a block and refers to nodes. -/
def loudComment : Text :=
  "\u2003%% graph up; subgraph a; Stpe1-->Stpe2 end".toList

/-- The comment moves all issues but that of the line in front, and counts for none. -/
theorem analyze_insert_silent_comment :
    isComment loudComment = true ∧
      analyze {} (joinLines ['\n'] ("flowchart up".toList :: loudComment :: turnedLines))
        = (analyze {} (joinLines ['\n'] ("flowchart up".toList :: turnedLines))).map
            (Issue.movedDown 2) ∧
      ((analyze {} (joinLines ['\n'] ("flowchart up".toList :: turnedLines))).map
          (Issue.movedDown 2)).map (fun issue => (issue.kind, issue.line, issue.column))
        = [(.unknownDirection, 1, 11), (.unexpectedEnd, 7, 2), (.missingEnd, 8, 1),
          (.possibleTypo, 5, 9)] := by
  have hlines : ∀ line ∈ ["flowchart up".toList] ++ turnedLines, Unbroken line :=
    forall_mem_of_all rfl
  have hnew : Unbroken loudComment := by decide
  have hcomment : isComment loudComment = true := by decide
  exact ⟨hcomment, analyze_insert_silent {} .lf hlines hnew (Or.inr hcomment), by decide⟩

end Flowchart
