import Flowchart.Proofs.Balance

/-!
# Blocks told by counting

The balance of blocks needs no stack.  Count the opening lines less the closing
ones along the document: a closing line has no block exactly where the count falls
below all that was counted before it, and a block is never closed exactly where the
count does not fall again below that behind its opening line.

A stack of `depth` frames stands for a document whose count begins there.  So the
step lemmas say how the frames and the count change together at each kind of line,
and the two characterisations follow by induction on the lines, for any stack.  The
frames that are reported are those of some lines in their order, so their numbers
increase.

Main statement: `checkBalance_heights`.
-/

namespace Flowchart

/-! ## Heights -/

section Heights

variable (limits : Limits)

/-- Is the line looked at, and does it open a block? -/
def opensBlock (line : Text) : Bool :=
  isInspected limits line && (blockOpening? line).isSome

/-- Is the line looked at, and does it close a block without opening one? -/
def closesBlock (line : Text) : Bool :=
  isInspected limits line && ((blockOpening? line).isNone && isBlockClosing line)

/-- The number of opening lines among the first ones, less that of closing lines. -/
def height (lines : List Text) (count : Nat) : Int :=
  ((lines.take count).countP (opensBlock limits) : Int)
    - (lines.take count).countP (closesBlock limits)

/-- Line `i + 1` closes a block, and brings the height below all before it. -/
def FallsBelow (lines : List Text) (i : Nat) (line : Text) : Prop :=
  lines[i]? = some line ∧ closesBlock limits line = true ∧
    ∀ k < i + 1, height limits lines (i + 1) < height limits lines k

/-- Line `i + 1` opens a block, and no height behind it is below the one that it brings. -/
def StaysAbove (lines : List Text) (i : Nat) (line : Text) : Prop :=
  lines[i]? = some line ∧ opensBlock limits line = true ∧
    ∀ j, i + 1 < j → j ≤ lines.length → height limits lines (i + 1) ≤ height limits lines j

/-- What a line adds to the height. -/
def rise (line : Text) : Int :=
  if opensBlock limits line then 1 else if closesBlock limits line then -1 else 0

end Heights

variable {limits : Limits}

/-- A line that opens a block does not close one. -/
theorem closesBlock_of_opensBlock {line : Text} (h : opensBlock limits line = true) :
    closesBlock limits line = false := by
  simp only [opensBlock, Bool.and_eq_true, Option.isSome_iff_ne_none] at h
  simp [closesBlock, h.2]

/-- Counting begins at zero. -/
@[simp] theorem height_zero (lines : List Text) : height limits lines 0 = 0 := rfl

/-- The height behind the first line is what that adds. -/
@[simp] theorem height_cons_succ (line : Text) (lines : List Text) (count : Nat) :
    height limits (line :: lines) (count + 1) = rise limits line + height limits lines count := by
  rw [height, height, rise, List.take_succ_cons, List.countP_cons, List.countP_cons]
  by_cases hopens : opensBlock limits line = true
  · simp only [hopens, closesBlock_of_opensBlock hopens, Bool.false_eq_true, if_true, if_false]
    omega
  · by_cases hcloses : closesBlock limits line = true
    · simp only [hopens, hcloses, Bool.false_eq_true, if_true, if_false]
      omega
    · simp only [hopens, hcloses, Bool.false_eq_true, if_false]
      omega

/-! ## One line -/

section Step

variable {line : Text} (number : Nat) (lines : List Text)

/-- An opening line puts a frame on the others. -/
theorem imbalanceFrom_opening (h : opensBlock limits line = true) (opened : List Frame) :
    imbalanceFrom opened (inspectedFrom limits number (line :: lines))
      = imbalanceFrom (Frame.ofLine ⟨number, line⟩ :: opened)
          (inspectedFrom limits (number + 1) lines) := by
  obtain ⟨hkept, hopening⟩ := Bool.and_eq_true_iff.mp h
  have hmark : Mark.ofLine line = .opening := by simp [Mark.ofLine, hopening]
  rw [inspectedFrom_cons, inspectedFrom_of_inspected hkept]
  simp [imbalanceFrom, hmark]

/-- A line that closes a block is looked at, and has the mark of one. -/
theorem mark_of_closesBlock (h : closesBlock limits line = true) :
    isInspected limits line = true ∧ Mark.ofLine line = .closing := by
  simp only [closesBlock, Bool.and_eq_true, Option.isNone_iff_eq_none] at h
  obtain ⟨hkept, hopening, hclosing⟩ := h
  exact ⟨hkept, by simp [Mark.ofLine, hopening, hclosing]⟩

/-- A closing line takes the innermost frame away. -/
theorem imbalanceFrom_closing (h : closesBlock limits line = true) (frame : Frame)
    (opened : List Frame) :
    imbalanceFrom (frame :: opened) (inspectedFrom limits number (line :: lines))
      = imbalanceFrom opened (inspectedFrom limits (number + 1) lines) := by
  obtain ⟨hkept, hmark⟩ := mark_of_closesBlock h
  rw [inspectedFrom_cons, inspectedFrom_of_inspected hkept]
  simp [imbalanceFrom, hmark]

/-- A closing line without a frame is unexpected. -/
theorem imbalanceFrom_stray (h : closesBlock limits line = true) :
    imbalanceFrom [] (inspectedFrom limits number (line :: lines))
      = ⟨Frame.ofLine ⟨number, line⟩
          :: (imbalanceFrom [] (inspectedFrom limits (number + 1) lines)).unexpected,
         (imbalanceFrom [] (inspectedFrom limits (number + 1) lines)).unclosed⟩ := by
  obtain ⟨hkept, hmark⟩ := mark_of_closesBlock h
  rw [inspectedFrom_cons, inspectedFrom_of_inspected hkept]
  simp [imbalanceFrom, hmark]

/-- Any other line changes nothing. -/
theorem imbalanceFrom_idle (hopens : opensBlock limits line = false)
    (hcloses : closesBlock limits line = false) (opened : List Frame) :
    imbalanceFrom opened (inspectedFrom limits number (line :: lines))
      = imbalanceFrom opened (inspectedFrom limits (number + 1) lines) := by
  have hidle : ∀ found ∈ inspectedFrom limits number [line],
      Mark.ofLine found.text = .neither := by
    intro found hfound
    have hkept := (List.mem_filter.mp hfound).2
    rw [text_of_mem_inspectedFrom hfound] at hkept ⊢
    cases hopening : blockOpening? line with
    | some opening => simp [opensBlock, hkept, hopening] at hopens
    | none =>
        cases hclosing : isBlockClosing line with
        | true => simp [closesBlock, hkept, hopening, hclosing] at hcloses
        | false => simp [Mark.ofLine, hopening, hclosing]
  rw [inspectedFrom_cons]
  exact imbalanceFrom_append_append hidle opened [] _

end Step

/-! ## Closing lines without a block -/

/-- Line `i + 1` closes a block where none of `depth` blocks is left, and none of those
that were opened since. -/
def StrayAt (limits : Limits) (depth : Nat) (lines : List Text) (i : Nat) (line : Text) : Prop :=
  lines[i]? = some line ∧ closesBlock limits line = true ∧
    depth + height limits lines (i + 1) < 0 ∧
    ∀ k < i + 1, height limits lines (i + 1) < height limits lines k

/-- A line that opens a block adds one to the height. -/
theorem rise_of_opensBlock {line : Text} (h : opensBlock limits line = true) :
    rise limits line = 1 := by
  simp [rise, h]

/-- A line that closes a block takes one from the height. -/
theorem rise_of_closesBlock {line : Text} (h : closesBlock limits line = true) :
    rise limits line = -1 := by
  cases hopens : opensBlock limits line with
  | false => simp [rise, hopens, h]
  | true =>
      rw [closesBlock_of_opensBlock hopens] at h
      cases h

/-- With no block before the first line, the height falls below all before it. -/
theorem strayAt_iff_fallsBelow {lines : List Text} {i : Nat} {line : Text} :
    StrayAt limits 0 lines i line ↔ FallsBelow limits lines i line := by
  constructor
  · rintro ⟨hline, hcloses, _, hall⟩
    exact ⟨hline, hcloses, hall⟩
  · rintro ⟨hline, hcloses, hall⟩
    have hbelow := hall 0 (Nat.succ_pos i)
    rw [height_zero] at hbelow
    exact ⟨hline, hcloses, by omega, hall⟩

/-- The first line is astray exactly if it is one that closes a block and none is open. -/
theorem strayAt_zero_iff {depth : Nat} {first line : Text} {lines : List Text} :
    StrayAt limits depth (first :: lines) 0 line
      ↔ first = line ∧ closesBlock limits line = true ∧ depth = 0 := by
  constructor
  · rintro ⟨hline, hcloses, hbelow, _⟩
    obtain rfl := Option.some.inj hline
    rw [height_cons_succ, height_zero, rise_of_closesBlock hcloses] at hbelow
    exact ⟨rfl, hcloses, by omega⟩
  · rintro ⟨rfl, hcloses, rfl⟩
    have hrise := rise_of_closesBlock hcloses
    refine ⟨rfl, hcloses, ?_, fun k hk => ?_⟩
    · rw [height_cons_succ, height_zero, hrise]
      decide
    · obtain rfl : k = 0 := by omega
      rw [height_cons_succ, height_zero, height_zero, hrise]
      decide

/-- Behind the first line the blocks are those that it leaves. -/
theorem strayAt_succ_iff {depth : Nat} {first line : Text} {lines : List Text} {i : Nat} :
    StrayAt limits depth (first :: lines) (i + 1) line
      ↔ StrayAt limits (depth + rise limits first).toNat lines i line := by
  unfold StrayAt
  rw [List.getElem?_cons_succ, height_cons_succ]
  refine and_congr_right fun _ => and_congr_right fun _ => ⟨?_, ?_⟩
  · rintro ⟨hdepth, hall⟩
    have hall' : ∀ k < i + 1, height limits lines (i + 1) < height limits lines k := by
      intro k hk
      have hlt := hall (k + 1) (by omega)
      rw [height_cons_succ] at hlt
      omega
    have hzero := hall' 0 (Nat.succ_pos i)
    rw [height_zero] at hzero
    exact ⟨by omega, hall'⟩
  · rintro ⟨hdepth, hall⟩
    have hzero := hall 0 (Nat.succ_pos i)
    rw [height_zero] at hzero
    refine ⟨by omega, fun k hk => ?_⟩
    cases k with
    | zero =>
        rw [height_zero]
        omega
    | succ k =>
        have hlt := hall k (by omega)
        rw [height_cons_succ]
        omega

/-- The frame of a line that is found is that of the first line, or that of one behind it. -/
theorem exists_frame_cons_iff {found : Nat → Text → Prop} {frame : Frame} {number : Nat} :
    (∃ i line, found i line ∧ frame = Frame.ofLine ⟨number + i, line⟩)
      ↔ (∃ line, found 0 line ∧ frame = Frame.ofLine ⟨number, line⟩)
        ∨ ∃ i line, found (i + 1) line ∧ frame = Frame.ofLine ⟨number + 1 + i, line⟩ := by
  constructor
  · rintro ⟨_ | i, line, hfound, rfl⟩
    · exact Or.inl ⟨line, hfound, rfl⟩
    · exact Or.inr ⟨i, line, hfound, by rw [Nat.add_assoc, Nat.add_comm 1]⟩
  · rintro (⟨line, hfound, rfl⟩ | ⟨i, line, hfound, rfl⟩)
    · exact ⟨0, line, hfound, rfl⟩
    · exact ⟨i + 1, line, hfound, by rw [Nat.add_assoc, Nat.add_comm 1]⟩

/-- A closing line is unexpected exactly where no block is left.  Any line changes the stack, so the
induction is over every stack, of which only the height counts. -/
theorem mem_unexpected_iff {frame : Frame} {opened : List Frame} {number : Nat}
    {lines : List Text} :
    frame ∈ (imbalanceFrom opened (inspectedFrom limits number lines)).unexpected
      ↔ ∃ i line, StrayAt limits opened.length lines i line ∧
          frame = Frame.ofLine ⟨number + i, line⟩ := by
  induction lines generalizing opened number with
  | nil =>
      refine ⟨nofun, ?_⟩
      rintro ⟨i, line, ⟨hline, _⟩, _⟩
      cases hline
  | cons first lines ih =>
      rw [exists_frame_cons_iff]
      simp only [strayAt_zero_iff, strayAt_succ_iff, and_assoc, exists_eq_left']
      by_cases hopens : opensBlock limits first = true
      · have hcloses := closesBlock_of_opensBlock hopens
        have hdepth : ((opened.length : Int) + rise limits first).toNat = opened.length + 1 := by
          rw [rise_of_opensBlock hopens]
          rfl
        rw [imbalanceFrom_opening number lines hopens, ih, hdepth, hcloses]
        simp
      · by_cases hcloses : closesBlock limits first = true
        · have hrise := rise_of_closesBlock hcloses
          cases opened with
          | nil =>
              rw [imbalanceFrom_stray number lines hcloses, List.mem_cons, ih, hrise, hcloses]
              simp
          | cons frame' opened =>
              have hdepth : (((frame' :: opened).length : Int) + rise limits first).toNat
                  = opened.length := by
                rw [hrise, List.length_cons]
                omega
              rw [imbalanceFrom_closing number lines hcloses, ih, hdepth]
              simp
        · rw [imbalanceFrom_idle number lines (by simpa using hopens) (by simpa using hcloses), ih]
          simp [rise, hopens, hcloses]

/-! ## Opening lines whose block is never closed -/

/-- The innermost of `depth + 1` blocks is never closed by the lines. -/
def Holds (limits : Limits) (depth : Nat) (lines : List Text) : Prop :=
  ∀ j ≤ lines.length, 0 ≤ depth + height limits lines j

/-- An opening line is never closed exactly where its block is held. -/
theorem staysAbove_zero_iff {first line : Text} {lines : List Text} :
    StaysAbove limits (first :: lines) 0 line
      ↔ first = line ∧ opensBlock limits line = true ∧ Holds limits 0 lines := by
  constructor
  · rintro ⟨hline, hopens, hall⟩
    obtain rfl := Option.some.inj hline
    refine ⟨rfl, hopens, fun j hj => ?_⟩
    cases j with
    | zero => simp
    | succ j =>
        have hle := hall (j + 2) (by omega) (by simpa using hj)
        rw [height_cons_succ, height_cons_succ, height_zero] at hle
        omega
  · rintro ⟨rfl, hopens, hall⟩
    refine ⟨rfl, hopens, fun j hlt hj => ?_⟩
    obtain ⟨k, rfl⟩ : ∃ k, j = k + 1 := ⟨j - 1, by omega⟩
    have hle := hall k (by simpa using hj)
    rw [height_cons_succ, height_cons_succ, height_zero]
    omega

/-- The first line does not matter to whether a later block is ever closed. -/
theorem staysAbove_succ_iff {first line : Text} {lines : List Text} {i : Nat} :
    StaysAbove limits (first :: lines) (i + 1) line ↔ StaysAbove limits lines i line := by
  unfold StaysAbove
  rw [List.getElem?_cons_succ, List.length_cons]
  refine and_congr_right fun _ => and_congr_right fun _ => ⟨fun hall j hlt hj => ?_, ?_⟩
  · have hle := hall (j + 1) (by omega) (by omega)
    rw [height_cons_succ, height_cons_succ] at hle
    omega
  · intro hall j hlt hj
    obtain ⟨k, rfl⟩ : ∃ k, j = k + 1 := ⟨j - 1, by omega⟩
    have hle := hall k (by omega) (by omega)
    rw [height_cons_succ, height_cons_succ]
    omega

/-- A line holds a block if it does not close it, and those behind it hold it. -/
theorem holds_cons_iff {depth : Nat} {first : Text} {lines : List Text} :
    Holds limits depth (first :: lines)
      ↔ 0 ≤ depth + rise limits first ∧ Holds limits (depth + rise limits first).toNat lines := by
  constructor
  · intro hall
    have hfirst := hall 1 (by simp)
    rw [height_cons_succ, height_zero, Int.add_zero] at hfirst
    refine ⟨hfirst, fun j hj => ?_⟩
    have hle := hall (j + 1) (by simpa using hj)
    rw [height_cons_succ] at hle
    omega
  · rintro ⟨hfirst, hall⟩ j hj
    cases j with
    | zero => simp
    | succ j =>
        have hle := hall j (by simpa using hj)
        rw [height_cons_succ]
        omega

/-- An element of a list with a first is that, or one of the others. -/
theorem exists_getElem?_cons_iff {α : Type} {first a : α} {list : List α} {p : Nat → Prop} :
    (∃ i, (first :: list)[i]? = some a ∧ p i)
      ↔ first = a ∧ p 0 ∨ ∃ i, list[i]? = some a ∧ p (i + 1) := by
  constructor
  · rintro ⟨_ | i, ha, hp⟩
    · exact Or.inl ⟨Option.some.inj ha, hp⟩
    · exact Or.inr ⟨i, ha, hp⟩
  · rintro (⟨rfl, hp⟩ | ⟨i, ha, hp⟩)
    · exact ⟨0, rfl, hp⟩
    · exact ⟨i + 1, ha, hp⟩

/-- The blocks that are never closed are those that were open before and are held, and those that
are opened and held.  The induction is over every stack, in which the places count too: a frame is
left if nothing reaches down to it. -/
theorem mem_unclosed_iff {frame : Frame} {opened : List Frame} {number : Nat}
    {lines : List Text} :
    frame ∈ (imbalanceFrom opened (inspectedFrom limits number lines)).unclosed
      ↔ (∃ depth, opened[depth]? = some frame ∧ Holds limits depth lines) ∨
        ∃ i line, StaysAbove limits lines i line ∧ frame = Frame.ofLine ⟨number + i, line⟩ := by
  induction lines generalizing opened number with
  | nil =>
      have hholds : ∀ depth, Holds limits depth [] := by
        intro depth j hj
        rw [Nat.le_zero.mp hj, height_zero]
        omega
      have hnone : ∀ i line, ¬ StaysAbove limits [] i line := fun i line h => nomatch h.1
      have hreverse : (imbalanceFrom opened (inspectedFrom limits number [])).unclosed
          = opened.reverse := rfl
      rw [hreverse, List.mem_reverse, List.mem_iff_getElem?]
      simp [hholds, hnone]
  | cons first lines ih =>
      rw [exists_frame_cons_iff]
      simp only [staysAbove_zero_iff, staysAbove_succ_iff, holds_cons_iff, and_assoc,
        exists_eq_left']
      by_cases hopens : opensBlock limits first = true
      · have hdepth : ∀ depth : Nat, ((depth : Int) + 1).toNat = depth + 1 := fun depth => rfl
        have hsome : ∀ depth : Nat, (0 : Int) ≤ depth + 1 := fun depth => by omega
        rw [imbalanceFrom_opening number lines hopens, ih, exists_getElem?_cons_iff,
          rise_of_opensBlock hopens]
        simp only [hopens, hdepth, hsome, true_and]
        grind
      · by_cases hcloses : closesBlock limits first = true
        · rw [rise_of_closesBlock hcloses]
          cases opened with
          | nil =>
              rw [imbalanceFrom_stray number lines hcloses, ih]
              simp [hopens]
          | cons frame' opened =>
              have hdepth : ∀ depth : Nat, (depth : Int) + 1 + -1 = depth := by omega
              rw [imbalanceFrom_closing number lines hcloses, ih, exists_getElem?_cons_iff]
              simp [hopens, hdepth]
        · rw [imbalanceFrom_idle number lines (by simpa using hopens) (by simpa using hcloses), ih]
          simp [rise, hopens, hcloses]

/-! ## The reported lines -/

/-- What is reported are frames that were open and frames of the lines, in their order. -/
theorem reported_sublist (opened : List Frame) (lines : List NumberedLine) :
    List.Sublist ((imbalanceFrom opened lines).unexpected ++ (imbalanceFrom opened lines).unclosed)
      (opened.reverse ++ lines.map Frame.ofLine) := by
  induction lines generalizing opened with
  | nil => simp [imbalanceFrom]
  | cons line lines ih =>
      cases hmark : Mark.ofLine line.text with
      | opening =>
          have hrest := ih (Frame.ofLine line :: opened)
          simpa [imbalanceFrom, hmark] using hrest
      | neither =>
          have hrest := (ih opened).trans
            ((List.sublist_cons_self (Frame.ofLine line) _).append_left opened.reverse)
          simpa [imbalanceFrom, hmark] using hrest
      | closing =>
          cases opened with
          | nil => simpa [imbalanceFrom, hmark] using ih []
          | cons frame opened =>
              have hmore : List.Sublist (lines.map Frame.ofLine)
                  ([frame] ++ (Frame.ofLine line :: lines.map Frame.ofLine)) :=
                (List.sublist_cons_self _ _).trans (List.sublist_cons_self _ _)
              have hrest := (ih opened).trans (hmore.append_left opened.reverse)
              simpa [imbalanceFrom, hmark] using hrest

/-- The numbers of lines increase. -/
theorem numberFrom_pairwise (number : Nat) (lines : List Text) :
    (numberFrom number lines).Pairwise fun line next => line.number < next.number := by
  induction lines generalizing number with
  | nil => exact List.Pairwise.nil
  | cons line lines ih =>
      refine List.Pairwise.cons (fun next hnext => ?_) (ih (number + 1))
      obtain ⟨front, _, _, hnumber⟩ := exists_of_mem_numberFrom hnext
      have hlt : number < next.number := by omega
      exact hlt

/-- The lines of the issues of blocks increase. -/
theorem checkBalance_pairwise (limits : Limits) (lines : List Text) :
    ((checkBalance limits lines).map (·.line)).Pairwise (· < ·) := by
  have hnumbers : ((inspectedLines limits lines).map Frame.ofLine).Pairwise
      fun frame next => frame.line < next.line :=
    List.pairwise_map.mpr ((numberFrom_pairwise 1 lines).filter _)
  have hframes := hnumbers.sublist (reported_sublist [] (inspectedLines limits lines))
  have hlines : (checkBalance limits lines).map (·.line)
      = ((imbalanceFrom [] (inspectedLines limits lines)).unexpected
        ++ (imbalanceFrom [] (inspectedLines limits lines)).unclosed).map
          fun frame => (frame.line : Int) := by
    simp [checkBalance, Frame.unexpectedEnd, Frame.missingEnd, Function.comp_def]
  rw [hlines]
  exact List.pairwise_map.mpr (hframes.imp fun hlt => Int.ofNat_lt.mpr hlt)

/-- The issues of the frames of some lines stand at these lines. -/
theorem exists_line_eq_iff {frames : List Frame} {found : Nat → Text → Prop}
    {report : Frame → Issue}
    (hframes : ∀ frame, frame ∈ frames ↔ ∃ i line, found i line ∧
      frame = Frame.ofLine ⟨1 + i, line⟩)
    (hreport : ∀ frame, (report frame).line = frame.line) (number : Int) :
    (∃ issue ∈ frames.map report, issue.line = number)
      ↔ ∃ (i : Nat) (line : Text), number = i + 1 ∧ found i line := by
  constructor
  · rintro ⟨issue, hissue, rfl⟩
    obtain ⟨frame, hframe, rfl⟩ := List.mem_map.mp hissue
    obtain ⟨i, line, hfound, rfl⟩ := (hframes frame).mp hframe
    refine ⟨i, line, ?_, hfound⟩
    rw [hreport]
    show ((1 + i : Nat) : Int) = i + 1
    omega
  · rintro ⟨i, line, rfl, hfound⟩
    refine ⟨_, List.mem_map_of_mem ((hframes _).mpr ⟨i, line, hfound, rfl⟩), ?_⟩
    rw [hreport]
    show ((1 + i : Nat) : Int) = i + 1
    omega

/-- **The issues of blocks are told by counting.** An unexpected end is reported exactly at
the closing lines where the height falls below all heights before, and a missing end exactly
at the opening lines whose height no line behind falls below.  Unexpected ends are reported
first, and the lines of all that is reported increase. -/
theorem checkBalance_heights (limits : Limits) (lines : List Text) :
    ∃ unexpected missing, checkBalance limits lines = unexpected ++ missing ∧
      (∀ issue ∈ unexpected, issue.kind = .unexpectedEnd) ∧
      (∀ issue ∈ missing, issue.kind = .missingEnd) ∧
      (∀ number : Int, (∃ issue ∈ unexpected, issue.line = number)
        ↔ ∃ (i : Nat) (line : Text), number = i + 1 ∧ FallsBelow limits lines i line) ∧
      (∀ number : Int, (∃ issue ∈ missing, issue.line = number)
        ↔ ∃ (i : Nat) (line : Text), number = i + 1 ∧ StaysAbove limits lines i line) ∧
      ((checkBalance limits lines).map (·.line)).Pairwise (· < ·) := by
  have hunexpected : ∀ frame,
      frame ∈ (imbalanceFrom [] (inspectedLines limits lines)).unexpected
        ↔ ∃ i line, FallsBelow limits lines i line ∧ frame = Frame.ofLine ⟨1 + i, line⟩ := by
    intro frame
    simp only [← strayAt_iff_fallsBelow]
    exact mem_unexpected_iff
  have hmissing : ∀ frame,
      frame ∈ (imbalanceFrom [] (inspectedLines limits lines)).unclosed
        ↔ ∃ i line, StaysAbove limits lines i line ∧ frame = Frame.ofLine ⟨1 + i, line⟩ := by
    intro frame
    refine mem_unclosed_iff.trans (or_iff_right ?_)
    rintro ⟨depth, hframe, _⟩
    cases hframe
  refine ⟨_, _, rfl, fun issue hissue => ?_, fun issue hissue => ?_,
    exists_line_eq_iff hunexpected fun _ => rfl, exists_line_eq_iff hmissing fun _ => rfl,
    checkBalance_pairwise limits lines⟩
  · obtain ⟨frame, _, rfl⟩ := List.mem_map.mp hissue
    rfl
  · obtain ⟨frame, _, rfl⟩ := List.mem_map.mp hissue
    rfl

/-- A document with an end too many, and a block in another that lacks its own. -/
example :
    (checkBalance {}
        ["end".toList, "subgraph a".toList, "subgraph b".toList, "end".toList]).map
      (fun issue => (issue.kind, issue.line)) = [(.unexpectedEnd, 1), (.missingEnd, 2)] := by
  decide

end Flowchart
