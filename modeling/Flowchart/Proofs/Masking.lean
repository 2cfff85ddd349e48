import Flowchart.Proofs.Shape
import Mathlib.Logic.ExistsUnique

/-!
# What masking keeps

A line falls into parts at whose ends no group is open: characters outside of all
groups, among them closing brackets that close nothing, and groups that are closed.
Behind the last of them the line is at its end, or an opening bracket stands there
that nothing closes.  The line falls apart in this way alone, since a balanced text
cannot go on into another one across the bracket that closes the group around it.

Masking empties the groups among the parts and keeps all else, and so it keeps a line
whose groups are empty.

Main statement: `maskShapes_division`.
-/

namespace Flowchart

/-! ## Groups that are closed -/

/-- A group is closed where a balanced label and a closing bracket stand at its front.  A bracket
that opens a group inside is passed together with the one that closes it, and the induction goes on
with what stands behind that one, which is shorter. -/
theorem exists_of_closes {depth : Nat} {text : Text} (h : closes (depth + 1) text = true) :
    ∃ label closer rest, text = label ++ closer :: rest ∧ Balanced label ∧
      isCloser closer = true ∧ closes depth rest = true := by
  induction hlength : text.length using Nat.strongRecOn generalizing text depth with
  | ind length ih =>
      cases text with
      | nil => cases h
      | cons c text =>
          have hshort : text.length < length := by
            rw [← hlength]
            exact Nat.lt_succ_self _
          unfold closes at h
          by_cases hopener : isOpener c = true
          · rw [if_pos hopener] at h
            obtain ⟨inner, closer, rest, rfl, hinner, hcloser, hrest⟩ := ih _ hshort h rfl
            have hshorter : rest.length < length := by
              simp only [List.length_append, List.length_cons] at hshort
              omega
            obtain ⟨label, last, behind, rfl, hlabel, hlast, hbehind⟩ := ih _ hshorter hrest rfl
            exact ⟨c :: inner ++ closer :: label, last, behind, by simp,
              Balanced.group hopener hcloser hinner hlabel, hlast, hbehind⟩
          · rw [if_neg hopener] at h
            by_cases hcloser : isCloser c = true
            · rw [if_pos hcloser] at h
              exact ⟨[], c, text, rfl, Balanced.nil, hcloser, h⟩
            · rw [if_neg hcloser] at h
              obtain ⟨label, last, rest, rfl, hlabel, hlast, hrest⟩ := ih _ hshort h rfl
              have hplain : isBracket c = false := by simp [isBracket, hopener, hcloser]
              exact ⟨c :: label, last, rest, rfl, Balanced.plain hplain hlabel, hlast, hrest⟩

namespace Balanced

variable {label : Text} (h : Balanced label)

include h

/-- Behind a balanced text the next closing bracket closes the group around it. -/
theorem closes_closer {closer : Char} (hcloser : isCloser closer = true) (rest : Text) :
    closes 1 (label ++ closer :: rest) = true := by
  simp [h.closes_append, closes, hcloser, isOpener_of_isCloser hcloser]

/-- A balanced text does not close the group around it. -/
theorem closes_eq_false : closes 1 label = false := by
  have hend := h.closes_append 0 []
  rw [List.append_nil] at hend
  exact hend

/-- A balanced text does not go on behind the bracket that closes the group around it. -/
theorem not_append_closer {front rest : Text} {closer : Char} (hfront : Balanced front)
    (hcloser : isCloser closer = true) : label ≠ front ++ closer :: rest := by
  intro hlabel
  have hclosed := hfront.closes_closer hcloser rest
  rw [← hlabel, h.closes_eq_false] at hclosed
  cases hclosed

/-- Where a group ends, and what is in it, is not open to choice. -/
theorem append_closer_inj {other rest behind : Text} {closer last : Char}
    (hother : Balanced other) (hcloser : isCloser closer = true) (hlast : isCloser last = true)
    (heq : label ++ closer :: rest = other ++ last :: behind) :
    label = other ∧ closer = last ∧ rest = behind := by
  rcases List.append_eq_append_iff.mp heq with ⟨more, hmore, hrest⟩ | ⟨more, hmore, hrest⟩
  · cases more with
    | nil => exact ⟨by simpa using hmore.symm, List.cons.inj hrest⟩
    | cons c more =>
        obtain ⟨rfl, _⟩ := List.cons.inj hrest
        exact absurd hmore (hother.not_append_closer h hcloser)
  · cases more with
    | nil =>
        obtain ⟨hchar, htail⟩ := List.cons.inj hrest
        exact ⟨by simpa using hmore, hchar.symm, htail.symm⟩
    | cons c more =>
        obtain ⟨rfl, _⟩ := List.cons.inj hrest
        exact absurd hmore (h.not_append_closer hother hlast)

end Balanced

/-! ## Parts of a line -/

/-- A part of a line at whose ends no group is open. -/
inductive Part where
  /-- A character outside of all groups. -/
  | outside (c : Char) (hplain : isOpener c = false)
  /-- A group that is closed. -/
  | group (opener : Char) (label : Text) (closer : Char) (hopener : isOpener opener = true)
      (hlabel : Balanced label) (hcloser : isCloser closer = true)

namespace Part

/-- The characters of the part. -/
def text : Part → Text
  | outside c _ => [c]
  | group opener label closer .. => opener :: label ++ [closer]

/-- The part with nothing left of a group but its two delimiters. -/
def emptied : Part → Part
  | outside c hplain => outside c hplain
  | group opener _ closer hopener _ hcloser =>
    group opener [] closer hopener Balanced.nil hcloser

/-- An emptied part has nothing left to empty. -/
theorem emptied_emptied (part : Part) : part.emptied.emptied = part.emptied := by
  cases part <;> rfl

/-- A part has a character at least. -/
theorem text_ne_nil (part : Part) : part.text ≠ [] := by
  cases part <;> exact List.cons_ne_nil _ _

/-- A part is masked by itself. -/
theorem maskShapes_append (part : Part) (rest : Text) :
    maskShapes (part.text ++ rest) = part.emptied.text ++ maskShapes rest := by
  cases part with
  | outside c hplain =>
      have hone : ∀ d ∈ [c], isOpener d = false := by
        intro d hd
        obtain rfl := List.mem_singleton.mp hd
        exact hplain
      exact Flowchart.maskShapes_append hone rest
  | group opener label closer hopener hlabel hcloser =>
      have hmask := hlabel.maskShapes_group hopener hcloser rest
      have htext : (group opener label closer hopener hlabel hcloser).text ++ rest
          = opener :: label ++ closer :: rest := by simp [text]
      rw [htext, hmask]
      rfl

/-- Of two parts at the front of one text neither goes further than the other. -/
theorem append_inj {part other : Part} {rest behind : Text}
    (h : part.text ++ rest = other.text ++ behind) : part = other ∧ rest = behind := by
  cases part with
  | outside c hplain =>
      cases other with
      | outside d hother =>
          obtain ⟨rfl, hrest⟩ := List.cons.inj h
          exact ⟨rfl, hrest⟩
      | group opener label closer hopener =>
          obtain ⟨rfl, _⟩ := List.cons.inj h
          rw [hplain] at hopener
          cases hopener
  | group opener label closer hopener hlabel hcloser =>
      cases other with
      | outside d hother =>
          obtain ⟨rfl, _⟩ := List.cons.inj h
          rw [hother] at hopener
          cases hopener
      | group first inner last hfirst hinner hlast =>
          obtain ⟨rfl, hbehind⟩ := List.cons.inj h
          have hsplit : label ++ closer :: rest = inner ++ last :: behind := by
            simpa using hbehind
          obtain ⟨rfl, rfl, rfl⟩ := hlabel.append_closer_inj hinner hcloser hlast hsplit
          exact ⟨rfl, rfl⟩

end Part

/-- The characters of some parts. -/
def partsText (parts : List Part) : Text :=
  parts.flatMap Part.text

/-- The characters of the first part come first. -/
theorem partsText_cons (part : Part) (parts : List Part) :
    partsText (part :: parts) = part.text ++ partsText parts :=
  List.flatMap_cons

/-- Parts are masked by themselves. -/
theorem maskShapes_partsText (parts : List Part) (rest : Text) :
    maskShapes (partsText parts ++ rest)
      = partsText (parts.map Part.emptied) ++ maskShapes rest := by
  induction parts with
  | nil => rfl
  | cons part parts ih =>
      rw [List.map_cons, partsText_cons, partsText_cons, List.append_assoc, List.append_assoc,
        part.maskShapes_append, ih]

/-! ## The group that nothing closes -/

/-- The text begins with an opening bracket that no bracket behind it closes: whatever balanced
text stands behind it, no closing bracket follows. -/
def NeverClosed (text : Text) : Prop :=
  ∃ opener rest, text = opener :: rest ∧ isOpener opener = true ∧
    ∀ label closer behind, rest = label ++ closer :: behind → Balanced label →
      isCloser closer = false

/-- A bracket is never closed if the depth behind it does not come back to zero. -/
theorem neverClosed_of_closes {opener : Char} {rest : Text} (hopener : isOpener opener = true)
    (h : closes 1 rest = false) : NeverClosed (opener :: rest) := by
  refine ⟨opener, rest, rfl, hopener, ?_⟩
  intro label closer behind hrest hlabel
  by_cases hcloser : isCloser closer = true
  · have hclosed := hlabel.closes_closer hcloser behind
    rw [← hrest, h] at hclosed
    cases hclosed
  · simpa using hcloser

namespace NeverClosed

variable {tail : Text} (h : NeverClosed tail)

include h

/-- It is kept as it is. -/
theorem maskShapes_eq : maskShapes tail = tail := by
  obtain ⟨opener, rest, rfl, hopener, hnever⟩ := h
  have hopen : closes 1 rest = false := by
    by_cases hclosed : closes 1 rest = true
    · obtain ⟨label, closer, behind, hrest, hlabel, hcloser, _⟩ := exists_of_closes hclosed
      rw [hnever label closer behind hrest hlabel] at hcloser
      cases hcloser
    · simpa using hclosed
  simp [maskShapes, maskFrom, hopener, hopen]

/-- No part of a line stands at its front. -/
theorem ne_append (part : Part) (rest : Text) : tail ≠ part.text ++ rest := by
  intro htail
  obtain ⟨opener, behind, rfl, hopener, hnever⟩ := h
  cases part with
  | outside c hplain =>
      obtain ⟨rfl, _⟩ := List.cons.inj htail
      rw [hplain] at hopener
      cases hopener
  | group first label closer _ hlabel hcloser =>
      obtain ⟨_, hbehind⟩ := List.cons.inj htail
      have hclosed := hnever label closer rest (by simpa using hbehind) hlabel
      rw [hcloser] at hclosed
      cases hclosed

end NeverClosed

/-! ## The division of a line -/

/-- The parts of a line, and the group behind them that nothing closes. -/
structure Division where
  /-- The parts in front, in which no group is left open. -/
  head : List Part
  /-- All that stands behind them. -/
  tail : Text
  /-- The tail is empty, or begins at the outermost bracket that is never closed. -/
  tail_open : tail = [] ∨ NeverClosed tail

namespace Division

/-- The line. -/
def text (division : Division) : Text :=
  partsText division.head ++ division.tail

/-- The division with nothing left of the groups of its head but their delimiters. -/
def emptied (division : Division) : Division :=
  { division with head := division.head.map Part.emptied }

/-- An emptied division has nothing left to empty. -/
theorem emptied_emptied (division : Division) :
    division.emptied.emptied = division.emptied := by
  have hparts : (division.head.map Part.emptied).map Part.emptied
      = division.head.map Part.emptied := by
    rw [List.map_map]
    exact List.map_congr_left fun part _ => part.emptied_emptied
  simp only [emptied, hparts]

/-- A group that is never closed is not masked. -/
theorem maskShapes_tail (division : Division) : maskShapes division.tail = division.tail := by
  rcases division.tail_open with htail | htail
  · rw [htail]
    rfl
  · exact htail.maskShapes_eq

/-- Masking empties the groups of the head. -/
theorem maskShapes_text (division : Division) :
    maskShapes division.text = division.emptied.text := by
  rw [text, maskShapes_partsText, maskShapes_tail]
  rfl

/-- The head of a division is masked by itself. -/
theorem maskShapes_head (division : Division) :
    maskShapes (partsText division.head) = partsText division.emptied.head := by
  have hmask := maskShapes_partsText division.head []
  have hnil : maskShapes [] = [] := rfl
  rw [hnil, List.append_nil, List.append_nil] at hmask
  exact hmask

/-- No part stands at the front of the tail. -/
theorem tail_ne_append (division : Division) (part : Part) (rest : Text) :
    division.tail ≠ part.text ++ rest := by
  intro htail
  rcases division.tail_open with hnil | hopen
  · rw [hnil] at htail
    exact part.text_ne_nil (List.append_eq_nil_iff.mp htail.symm).1
  · exact hopen.ne_append part rest htail

/-- A line has one division only. -/
theorem text_inj {division other : Division} (h : division.text = other.text) :
    division = other := by
  obtain ⟨head, tail, htail⟩ := division
  induction head generalizing other with
  | nil =>
      obtain ⟨parts, behind, hbehind⟩ := other
      cases parts with
      | nil =>
          obtain rfl : tail = behind := h
          rfl
      | cons part parts =>
          refine absurd ?_ (tail_ne_append ⟨[], tail, htail⟩ part (partsText parts ++ behind))
          rw [← List.append_assoc, ← partsText_cons]
          exact h
  | cons first head ih =>
      obtain ⟨parts, behind, hbehind⟩ := other
      cases parts with
      | nil =>
          refine absurd ?_ (tail_ne_append ⟨[], behind, hbehind⟩ first (partsText head ++ tail))
          rw [← List.append_assoc, ← partsText_cons]
          exact h.symm
      | cons part parts =>
          simp only [text, partsText_cons, List.append_assoc] at h
          obtain ⟨rfl, hrest⟩ := Part.append_inj h
          have hsame := @ih ⟨parts, behind, hbehind⟩ hrest
          obtain ⟨rfl, rfl⟩ := Division.mk.inj hsame
          rfl

/-- Put a part in front. -/
def cons (part : Part) (division : Division) : Division :=
  { division with head := part :: division.head }

/-- A part that is put in front has its characters in front. -/
theorem text_cons (part : Part) (division : Division) :
    (division.cons part).text = part.text ++ division.text := by
  rw [text, text, cons, partsText_cons, List.append_assoc]

end Division

/-- Every line has a division. -/
theorem exists_division (line : Text) : ∃ division : Division, division.text = line := by
  induction hlength : line.length using Nat.strongRecOn generalizing line with
  | ind length ih =>
      cases line with
      | nil => exact ⟨⟨[], [], Or.inl rfl⟩, rfl⟩
      | cons c rest =>
          by_cases hopener : isOpener c = true
          · by_cases hclosed : closes 1 rest = true
            · obtain ⟨label, closer, behind, rfl, hlabel, hcloser, _⟩ := exists_of_closes hclosed
              have hshort : behind.length < length := by
                simp only [List.length_append, List.length_cons] at hlength
                omega
              obtain ⟨division, hdivision⟩ := ih _ hshort behind rfl
              refine ⟨division.cons (.group c label closer hopener hlabel hcloser), ?_⟩
              rw [Division.text_cons, hdivision]
              simp [Part.text]
            · have hopen : closes 1 rest = false := by simpa using hclosed
              exact ⟨⟨[], c :: rest, Or.inr (neverClosed_of_closes hopener hopen)⟩, rfl⟩
          · have hshort : rest.length < length := by
              rw [← hlength]
              exact Nat.lt_succ_self _
            obtain ⟨division, hdivision⟩ := ih _ hshort rest rfl
            refine ⟨division.cons (.outside c (by simpa using hopener)), ?_⟩
            rw [Division.text_cons, hdivision]
            rfl

/-- **Masking is idempotent and keeps what is never closed.** A line has one division into closed
parts and a tail, which is empty or begins at the outermost bracket that is never closed.  Masking
keeps the tail as it is, and of the head it keeps each character outside of the groups, in order,
and the two delimiters of each group. -/
theorem maskShapes_division (line : Text) :
    maskShapes (maskShapes line) = maskShapes line ∧
      (∃! division : Division, division.text = line) ∧
      ∀ division : Division, division.text = line →
        maskShapes line = maskShapes (partsText division.head) ++ division.tail ∧
          maskShapes (partsText division.head)
            = partsText (division.head.map Part.emptied) := by
  obtain ⟨division, rfl⟩ := exists_division line
  refine ⟨?_, ⟨division, rfl, ?_⟩, ?_⟩
  · rw [division.maskShapes_text, Division.maskShapes_text, division.emptied_emptied]
  · intro other hother
    exact Division.text_inj hother
  · intro other hother
    obtain rfl := Division.text_inj hother
    rw [Division.maskShapes_text, Division.maskShapes_head]
    exact ⟨rfl, rfl⟩

/-- A stray bracket and a closed group in front of a group that stays open around a closed one. -/
example : maskShapes "x) A[a (b)] --> B[c (d) e".toList = "x) A[] --> B[c (d) e".toList := by
  decide

end Flowchart
