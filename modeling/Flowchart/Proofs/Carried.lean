import Flowchart.Proofs.Analysis
import Flowchart.Proofs.Balance
import Flowchart.Proofs.Place
import Mathlib.Data.List.Basic

/-!
# Issues that are carried over

A document may be changed so that each line keeps what the checks read from it and
only stands elsewhere: on another line, or behind more blanks.  Then each check
reports what it reported, at the new places.  The checks of blocks and of references
are carried over here once for every such change; how a change moves a frame or a
place, and how an issue follows, are its parameters.

Main statements: `checkBalance_carried`, `checkTypos_carried`.
-/

namespace Flowchart

/-! ## Blocks -/

/-- The imbalance with all its frames moved. -/
def Imbalance.moved (move : Frame → Frame) (imbalance : Imbalance) : Imbalance :=
  ⟨imbalance.unexpected.map move, imbalance.unclosed.map move⟩

/-- Lines that keep their marks leave the frames that they left, each where it is moved.  The frames
are moved one by one, so none is open there where none was open here. -/
theorem imbalanceFrom_map {carry : NumberedLine → NumberedLine} {move : Frame → Frame}
    {lines : List NumberedLine}
    (hmark : ∀ line ∈ lines, Mark.ofLine (carry line).text = Mark.ofLine line.text)
    (hframe : ∀ line ∈ lines, Frame.ofLine (carry line) = move (Frame.ofLine line))
    (opened : List Frame) :
    imbalanceFrom (opened.map move) (lines.map carry)
      = (imbalanceFrom opened lines).moved move := by
  induction lines generalizing opened with
  | nil => simp [imbalanceFrom, Imbalance.moved]
  | cons line lines ih =>
      have hline := hmark line List.mem_cons_self
      have hplace := hframe line List.mem_cons_self
      have hrest := ih (fun other hother => hmark other (List.mem_cons_of_mem line hother))
        fun other hother => hframe other (List.mem_cons_of_mem line hother)
      rw [List.map_cons]
      cases hkind : Mark.ofLine line.text with
      | opening =>
          rw [hkind] at hline
          simp only [imbalanceFrom, hline, hkind, hplace, ← List.map_cons, hrest]
      | neither =>
          rw [hkind] at hline
          simp only [imbalanceFrom, hline, hkind, hrest]
      | closing =>
          rw [hkind] at hline
          cases opened with
          | cons frame opened => simp only [imbalanceFrom, hline, hkind, List.map_cons, hrest]
          | nil =>
              have hnone := hrest []
              rw [List.map_nil] at hnone
              simp [imbalanceFrom, hline, hkind, hnone, hplace, Imbalance.moved]

/-- The issues of blocks follow their frames. -/
theorem checkBalance_carried {limits : Limits} {lines other : List Text} {move : Frame → Frame}
    {change : Issue → Issue}
    (himbalance : imbalanceFrom [] (inspectedLines limits other)
      = (imbalanceFrom [] (inspectedLines limits lines)).moved move)
    (hunexpected : ∀ frame, change (Frame.unexpectedEnd frame) = (move frame).unexpectedEnd)
    (hmissing : ∀ frame, change (Frame.missingEnd lines.length frame)
      = (move frame).missingEnd other.length) :
    checkBalance limits other = (checkBalance limits lines).map change := by
  simp only [checkBalance, himbalance, Imbalance.moved, List.map_append, List.map_map]
  congr 1
  · exact List.map_congr_left fun frame _ => (hunexpected frame).symm
  · exact List.map_congr_left fun frame _ => (hmissing frame).symm

/-! ## References -/

/-- Where each line is carried over, a name is found at the place to which that is carried
where it was found. -/
theorem locateFrom?_map {name : Text} {carry : NumberedLine → NumberedLine}
    {move : Nat × Nat → Nat × Nat} {lines : List NumberedLine}
    (hcomment : ∀ line ∈ lines, isComment (carry line).text = isComment line.text)
    (hindex : ∀ line ∈ lines,
      (indexOf? name (carry line).text).map (fun offset => ((carry line).number, offset + 1))
        = (indexOf? name line.text).map fun offset => move (line.number, offset + 1)) :
    locateFrom? name (lines.map carry) = (locateFrom? name lines).map move := by
  induction lines with
  | nil => rfl
  | cons line lines ih =>
      have hline := hcomment line List.mem_cons_self
      have hplace := hindex line List.mem_cons_self
      have hrest := ih (fun other hother => hcomment other (List.mem_cons_of_mem line hother))
        fun other hother => hindex other (List.mem_cons_of_mem line hother)
      rw [List.map_cons, locateFrom?, locateFrom?, hline, hrest]
      split
      · rfl
      · cases hfound : indexOf? name line.text with
        | none =>
            rw [hfound, Option.map_none, Option.map_eq_none_iff] at hplace
            rw [hplace]
        | some offset =>
            rw [hfound, Option.map_some] at hplace
            obtain ⟨moved, hmoved, hsame⟩ := Option.map_eq_some_iff.mp hplace
            rw [hmoved]
            exact congrArg some hsame

/-- The issues of references follow the places where these first stand. -/
theorem checkTypos_carried {limits : Limits} {lines other : List Text}
    {move : Nat × Nat → Nat × Nat} {change : Issue → Issue} {names : Names}
    (hplace : ∀ id ∈ names.references, locate? id other = (locate? id lines).map move)
    (hissue : ∀ id node place, change (typoIssue id node place.1 place.2)
      = typoIssue id node (move place).1 (move place).2) :
    checkTypos limits other names = (checkTypos limits lines names).map change := by
  unfold checkTypos
  rw [List.map_filterMap]
  refine List.filterMap_congr fun id hid => ?_
  unfold typoIssue?
  rw [hplace id hid]
  split
  · rfl
  · split
    · rfl
    · cases closestDefinition? limits id names.nodes with
      | none => rfl
      | some node =>
          cases locate? id lines with
          | none => rfl
          | some place => exact congrArg some (hissue id node place).symm

end Flowchart
