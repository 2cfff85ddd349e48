import Flowchart.Proofs.Arrow
import Flowchart.Proofs.Chain.Prepared

/-!
# Arrows in place

The arrow of a leg is found where it stands, and found whole: behind its stroke
comes a label, a blank or the letter of the next name, none of which goes on a
stroke, and behind its label or instead of one there is no bar.
-/

namespace Flowchart

/-- In the text blanks lead to a letter. -/
def LeadsToName (text : Text) : Prop :=
  ∃ blanks c rest, text = blanks ++ c :: rest ∧ Blanks blanks ∧ c.isAlpha = true

/-- The text does not begin with a character that goes on a stroke. -/
structure EndsStroke (text : Text) : Prop where
  /-- No hyphen follows. -/
  hyphen : text.head? ≠ some '-'
  /-- No equals sign follows. -/
  equals : text.head? ≠ some '='
  /-- No head follows. -/
  head : text.head? ≠ some '>'

/-! ## Strokes -/

/-- A stroke of one character is found as long as it is, if the character does not go on behind it:
with its head where it has two characters, and without one where it has three. -/
theorem solidLine?_append (ink : Char) (count : Nat) {rest : Text}
    (h : rest.head? ≠ some ink) :
    solidLine? ink (List.replicate count ink ++ rest)
      = if 2 ≤ count && rest.head? == some '>' then some (List.replicate count ink ++ ['>'])
        else if 3 ≤ count then some (List.replicate count ink)
        else none := by
  have htake : rest.takeWhile (· = ink) = [] := by
    cases rest with
    | nil => rfl
    | cons c rest =>
        have hc : c ≠ ink := by simpa using h
        simp [hc]
  have hdrop : rest.dropWhile (· = ink) = rest := by
    cases rest with
    | nil => rfl
    | cons c rest =>
        have hc : c ≠ ink := by simpa using h
        simp [hc]
  have hink : ∀ c ∈ List.replicate count ink, decide (c = ink) = true := by simp
  have hspan : (List.replicate count ink ++ rest).span (· = ink)
      = (List.replicate count ink, rest) := by
    rw [List.span_eq_takeWhile_dropWhile, List.takeWhile_append_of_pos hink,
      List.dropWhile_append_of_pos hink, htake, hdrop, List.append_nil]
  simp only [solidLine?, hspan, List.length_replicate]

/-- No other stroke begins with equals signs. -/
theorem arrowLine?_equals (rest : Text) :
    arrowLine? ('=' :: rest) = solidLine? '=' ('=' :: rest) := by
  have hhyphen : solidLine? '-' ('=' :: rest) = none := by
    simp [solidLine?, List.span_eq_takeWhile_dropWhile]
  simp [arrowLine?, hhyphen, dottedLine?]

/-- A solid stroke is long enough to be found. -/
theorem solidLine?_stroke {ink : Char} {headed : Bool} {count : Nat} {rest : Text}
    (hlong : (if headed then 2 else 3) ≤ count) (hhead : rest.head? ≠ some '>')
    (hends : rest.head? ≠ some ink) (hink : ink ≠ '>') :
    solidLine? ink (List.replicate count ink ++ (if headed then ['>'] else []) ++ rest)
      = some (List.replicate count ink ++ if headed then ['>'] else []) := by
  rw [List.append_assoc]
  cases headed with
  | true =>
      have hlong : 2 ≤ count := hlong
      have hends : (['>'] ++ rest).head? ≠ some ink := by simpa using hink.symm
      rw [if_pos rfl, solidLine?_append ink count hends]
      simp [hlong]
  | false =>
      have hlong : 3 ≤ count := hlong
      rw [if_neg Bool.false_ne_true, List.nil_append, solidLine?_append ink count hends]
      simp [hlong, hhead]

/-- A dotted stroke is found. -/
theorem dottedLine?_stroke {headed : Bool} {count : Nat} {rest : Text} (hlong : 1 ≤ count)
    (hhead : rest.head? ≠ some '>') :
    dottedLine? ('-' :: List.replicate count '.' ++ '-' :: (if headed then ['>'] else []) ++ rest)
      = some ('-' :: List.replicate count '.' ++ '-' :: if headed then ['>'] else []) := by
  obtain ⟨more, rfl⟩ := Nat.exists_eq_add_of_le' hlong
  cases headed with
  | true => simp [List.replicate_succ, dottedLine?]
  | false =>
      cases rest with
      | nil => simp [List.replicate_succ, dottedLine?]
      | cons c rest =>
          have hc : c ≠ '>' := by simpa using hhead
          simp [List.replicate_succ, dottedLine?, hc]

/-- A stroke is found whole in front of a text that does not go it on. -/
theorem Stroke.arrowLine?_append (stroke : Stroke) {rest : Text} (hends : EndsStroke rest) :
    arrowLine? (stroke.text ++ rest) = some stroke.text := by
  cases stroke with
  | solid thick headed count long =>
      cases thick with
      | false =>
          have hsolid := solidLine?_stroke long hends.head hends.hyphen (by decide)
          unfold arrowLine?
          simp only [Stroke.text, Bool.false_eq_true, if_false, hsolid]
          rfl
      | true =>
          have hsolid := solidLine?_stroke long hends.head hends.equals (by decide)
          obtain ⟨more, rfl⟩ := Nat.exists_eq_add_of_le' (two_le_of_long long)
          simp only [Stroke.text, if_true]
          rw [← hsolid]
          exact arrowLine?_equals _
  | dotted headed count long =>
      have hdotted := @dottedLine?_stroke headed count rest long hends.head
      have hsolid : solidLine? '-' ((Stroke.dotted headed count long).text ++ rest) = none := by
        obtain ⟨more, rfl⟩ := Nat.exists_eq_add_of_le' long
        simp [Stroke.text, solidLine?, List.span_eq_takeWhile_dropWhile, List.replicate_succ]
      unfold arrowLine?
      rw [hsolid, Stroke.text, hdotted]
      rfl

/-! ## Labels and whole arrows -/

/-- Blanks do not go on a stroke, nor does another character than those of strokes. -/
theorem Blanks.endsStroke_append {blanks : Text} (h : Blanks blanks) {c : Char}
    (hc : c ∉ ['-', '=', '>']) (rest : Text) : EndsStroke (blanks ++ c :: rest) := by
  have hhead : ∀ d ∈ ['-', '=', '>'], isBlank d = false →
      (blanks ++ c :: rest).head? ≠ some d := by
    intro d hmem hsolid hd
    cases blanks with
    | nil =>
        obtain rfl := Option.some.inj hd
        exact hc hmem
    | cons b blanks =>
        obtain rfl := Option.some.inj hd
        rw [h b List.mem_cons_self] at hsolid
        cases hsolid
  exact ⟨hhead '-' (by decide) rfl, hhead '=' (by decide) rfl, hhead '>' (by decide) rfl⟩

/-- A letter or a blank does not go on a stroke. -/
theorem LeadsToName.endsStroke {text : Text} (h : LeadsToName text) : EndsStroke text := by
  obtain ⟨blanks, c, rest, rfl, hblanks, halpha⟩ := h
  have hall : ∀ d ∈ ['-', '=', '>'], d.isAlpha = false := forall_mem_of_all rfl
  refine hblanks.endsStroke_append (fun hmem => ?_) rest
  rw [hall c hmem] at halpha
  cases halpha

/-- Where a name follows there is no label. -/
theorem LeadsToName.edgeLabel_eq {text : Text} (h : LeadsToName text) :
    edgeLabel text = [] := by
  obtain ⟨blanks, c, rest, rfl, hblanks, halpha⟩ := h
  have hsolid : Solid (c :: rest) := Solid.cons (isBlank_of_isAlpha halpha) rest
  have hbar : c ≠ '|' := by
    rintro rfl
    exact absurd halpha (by decide)
  unfold edgeLabel
  rw [hblanks.trimStart_append, hsolid.trimStart_eq]
  split
  · rename_i heq
    exact absurd (List.cons.inj heq).1 hbar
  · rfl

/-- A label is found whole between two bars, whatever follows. -/
theorem edgeLabel_bars {gap label : Text} (hgap : Blanks gap) (hlabel : ∀ c ∈ label, c ≠ '|')
    (rest : Text) :
    edgeLabel (gap ++ '|' :: (label ++ '|' :: rest)) = gap ++ '|' :: label ++ ['|'] := by
  have hsolid : Solid ('|' :: (label ++ '|' :: rest)) := Solid.cons rfl _
  have hunbarred : ∀ c ∈ label, decide (c ≠ '|') = true := by
    intro c hc
    simpa using hlabel c hc
  have hspan : (label ++ '|' :: rest).span (· ≠ '|') = (label, '|' :: rest) := by
    rw [List.span_eq_takeWhile_dropWhile, List.takeWhile_append_of_pos hunbarred,
      List.dropWhile_append_of_pos hunbarred]
    simp
  unfold edgeLabel
  rw [hgap.trimStart_append, hsolid.trimStart_eq, hgap.indentOf_append hsolid]
  simp only [hspan]
  rfl

/-- A label is found whole, whatever follows it. -/
theorem EdgeLabel.edgeLabel_append (label : EdgeLabel) (rest : Text) :
    edgeLabel (label.text ++ rest) = label.text := by
  rw [label.text_append]
  exact edgeLabel_bars label.blankGap label.unbarred rest

/-- The label of an arrow is found whole where a name follows. -/
theorem Arrow.edgeLabel_append (a : Arrow) {rest : Text} (h : LeadsToName rest) :
    edgeLabel (a.labelText ++ rest) = a.labelText := by
  unfold Arrow.labelText
  cases a.label with
  | none => exact h.edgeLabel_eq
  | some label => exact label.edgeLabel_append rest

/-- The label of an arrow does not go on its stroke, nor does what follows it. -/
theorem Arrow.endsStroke (a : Arrow) {rest : Text} (h : LeadsToName rest) :
    EndsStroke (a.labelText ++ rest) := by
  unfold Arrow.labelText
  cases a.label with
  | none => exact h.endsStroke
  | some label =>
      have hbar : '|' ∉ ['-', '=', '>'] := by decide
      rw [Option.map_some, Option.getD_some, label.text_append]
      exact label.blankGap.endsStroke_append hbar _

/-- Strokes begin with a hyphen or an equals sign. -/
theorem Stroke.exists_cons (stroke : Stroke) :
    ∃ c more, stroke.text = c :: more ∧ (c = '-' ∨ c = '=') := by
  cases stroke with
  | dotted headed count long => exact ⟨'-', _, rfl, Or.inl rfl⟩
  | solid thick headed count long =>
      obtain ⟨more, rfl⟩ := Nat.exists_eq_add_of_le' (two_le_of_long long)
      cases thick with
      | false => exact ⟨'-', _, rfl, Or.inl rfl⟩
      | true => exact ⟨'=', _, rfl, Or.inr rfl⟩

/-- An arrow is found with the label behind its stroke, if nothing goes on the stroke. -/
theorem Arrow.arrow_label (a : Arrow) (before : Option Char) {label rest : Text}
    (hends : EndsStroke (label ++ rest)) (hlabel : edgeLabel (label ++ rest) = label) :
    arrow before (a.tailText ++ a.stroke.text ++ (label ++ rest))
      = some (a.tailText ++ a.stroke.text ++ label) := by
  have hfound : unheadedArrow? (a.stroke.text ++ (label ++ rest))
      = some (a.stroke.text ++ label) := by
    unfold unheadedArrow?
    rw [a.stroke.arrowLine?_append hends, Option.map_some, List.drop_left, hlabel]
  unfold Arrow.tailText
  cases a.tailed with
  | true =>
      simp only [if_true, List.cons_append, List.nil_append, arrow, hfound, Option.map_some]
  | false =>
      obtain ⟨c, more, hstroke, hc⟩ := a.stroke.exists_cons
      have htail : c ≠ '<' := by
        rcases hc with rfl | rfl <;> decide
      rw [hstroke] at hfound ⊢
      simpa [arrow, htail] using hfound

/-- An arrow is found whole where a name follows. -/
theorem Arrow.arrow_append (a : Arrow) (before : Option Char) {rest : Text}
    (h : LeadsToName rest) : arrow before (a.text ++ rest) = some a.text := by
  rw [Arrow.text, List.append_assoc _ a.labelText]
  exact a.arrow_label before (a.endsStroke h) (a.edgeLabel_append h)

end Flowchart
