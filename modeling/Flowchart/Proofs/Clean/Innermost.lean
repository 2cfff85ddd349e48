import Flowchart.Clean.Label
import Flowchart.Proofs.Lexeme
import Flowchart.Proofs.Shape
import Mathlib.Data.List.TakeDrop
import Mathlib.Data.List.TakeWhile

/-!
# Innermost groups

A group is innermost if neither of its two brackets stands inside.  Two such groups have no
character in common, so all of them are found from left to right, and a text is taken apart
into innermost groups and the characters between them.

A pair of brackets around an innermost group is told by its two places in the text.  The
pairs of a text are known from those of its parts in the same way: what stands in front only
moves them, and no other pair reaches into a group.
-/

namespace Flowchart

namespace Bracket

/-- Is `c` one of the two brackets? -/
def isMark (bracket : Bracket) (c : Char) : Bool :=
  c = bracket.opener || c = bracket.closer

/-- Neither of the two brackets is in the text. -/
def Absent (bracket : Bracket) (text : Text) : Prop :=
  ∀ c ∈ text, bracket.isMark c = false

instance (bracket : Bracket) (text : Text) : Decidable (bracket.Absent text) :=
  List.decidableBAll _ text

/-- What finds the innermost groups in the brackets. -/
abbrev groups (bracket : Bracket) : Recogniser :=
  innermost bracket.opener bracket.closer

/-- The bracket that opens is one of the two. -/
theorem isMark_opener (bracket : Bracket) : bracket.isMark bracket.opener = true := by
  simp [isMark]

/-- The bracket that closes is one of the two. -/
theorem isMark_closer (bracket : Bracket) : bracket.isMark bracket.closer = true := by
  simp [isMark]

/-- The two brackets differ. -/
theorem closer_ne_opener (bracket : Bracket) : bracket.closer ≠ bracket.opener := by
  cases bracket <;> decide

/-- A character is neither of the two brackets exactly if it differs from both. -/
theorem isMark_eq_false_iff {bracket : Bracket} {c : Char} :
    bracket.isMark c = false ↔ c ≠ bracket.opener ∧ c ≠ bracket.closer := by
  simp [isMark]

/-! ## Finding groups -/

section Groups

variable {bracket : Bracket} {inside rest : Text}

/-- What stands before a group does not matter to it. -/
theorem groups_blind : bracket.groups.Blind := by
  intro before text
  cases text <;> rfl

/-- A group begins with an opening bracket if the next of the two brackets closes it. -/
theorem groups_cons (before : Option Char) (c : Char) (rest : Text) :
    bracket.groups before (c :: rest)
      = if c = bracket.opener ∧ rest.find? bracket.isMark = some bracket.closer then
          some (c :: (rest.takeWhile fun d => !bracket.isMark d) ++ [bracket.closer])
        else none := by
  have hother : (fun d => decide (d ≠ bracket.opener) && decide (d ≠ bracket.closer))
      = fun d => !bracket.isMark d := by
    funext d
    simp [isMark]
  rw [List.find?_eq_head?_dropWhile_not]
  unfold groups innermost
  simp only [hother, List.span_eq_takeWhile_dropWhile]
  split <;> simp_all

/-- No group begins at a character exactly if it opens none, or the next of the two brackets does
not close it. -/
theorem groups_eq_none_iff {c : Char} :
    bracket.groups none (c :: rest) = none ↔
      (c = bracket.opener → rest.find? bracket.isMark ≠ some bracket.closer) := by
  rw [groups_cons]
  simp

/-- A text without the two brackets is passed by in the search for one. -/
theorem Absent.find?_append (h : bracket.Absent inside) (rest : Text) :
    (inside ++ rest).find? bracket.isMark = rest.find? bracket.isMark := by
  have hnone : inside.find? bracket.isMark = none :=
    List.find?_eq_none.mpr fun c hc => by rw [h c hc]; exact Bool.false_ne_true
  rw [List.find?_append, hnone, Option.none_or]

/-- What stands in front of the first closing bracket is read up to it. -/
theorem Absent.takeWhile_append (h : bracket.Absent inside) (rest : Text) :
    (inside ++ bracket.closer :: rest).takeWhile (fun d => !bracket.isMark d) = inside := by
  have hinside : ∀ c ∈ inside, (!bracket.isMark c) = true := by
    intro c hc
    rw [h c hc]
    rfl
  rw [List.takeWhile_append_of_pos hinside,
    List.takeWhile_cons_of_neg (by simp [bracket.isMark_closer]), List.append_nil]

/-- A group is found with anything behind it. -/
theorem Absent.groups_append (h : bracket.Absent inside) (before : Option Char) (rest : Text) :
    bracket.groups before (bracket.opener :: inside ++ bracket.closer :: rest)
      = some (bracket.opener :: inside ++ [bracket.closer]) := by
  have hnext : (inside ++ bracket.closer :: rest).find? bracket.isMark = some bracket.closer := by
    rw [h.find?_append, List.find?_cons_of_pos bracket.isMark_closer]
  rw [List.cons_append, groups_cons, if_pos ⟨rfl, hnext⟩, h.takeWhile_append, List.cons_append]

/-- What stands in front of the first closing bracket is told by the whole text. -/
theorem Absent.append_closer_inj {inside' rest' : Text} (h : bracket.Absent inside)
    (h' : bracket.Absent inside') :
    inside ++ bracket.closer :: rest = inside' ++ bracket.closer :: rest' ↔
      inside = inside' ∧ rest = rest' := by
  constructor
  · intro heq
    obtain rfl : inside = inside' := by
      have hfront := congrArg (List.takeWhile fun d => !bracket.isMark d) heq
      rwa [h.takeWhile_append, h'.takeWhile_append] at hfront
    exact ⟨rfl, (List.cons.inj (List.append_cancel_left heq)).2⟩
  · rintro ⟨rfl, rfl⟩
    rfl

/-- A group that was found is an opening bracket, a text without the two brackets, and a
closing one. -/
theorem exists_of_groups {before : Option Char} {text group : Text}
    (h : bracket.groups before text = some group) :
    ∃ inside rest, bracket.Absent inside ∧
      text = bracket.opener :: inside ++ bracket.closer :: rest ∧
      group = bracket.opener :: inside ++ [bracket.closer] := by
  cases text with
  | nil => cases h
  | cons c text =>
      have hfound := h
      rw [groups_cons] at hfound
      split at hfound
      · next hgroup =>
          obtain ⟨rfl, hnext⟩ := hgroup
          obtain ⟨_, inside, rest, rfl, hinside⟩ := List.find?_eq_some_iff_append.mp hnext
          have habsent : bracket.Absent inside := fun c hc => by simpa using hinside c hc
          have hagain := habsent.groups_append before rest
          rw [List.cons_append] at hagain
          exact ⟨inside, rest, habsent, rfl, Option.some.inj (h.symm.trans hagain)⟩
      · cases hfound

/-- A group is a front part of the text in which it is found. -/
theorem groups_sound : bracket.groups.Sound := by
  intro before text group h
  obtain ⟨inside, rest, _, rfl, rfl⟩ := exists_of_groups h
  exact ⟨rest, by simp⟩

/-- To prove something of a text, take it apart into characters with which no group begins,
and innermost groups. -/
theorem groups_induction (bracket : Bracket) {motive : Text → Prop} (nil : motive [])
    (plain : ∀ c rest, bracket.groups none (c :: rest) = none → motive rest → motive (c :: rest))
    (group : ∀ inside rest, bracket.Absent inside → motive rest →
      motive (bracket.opener :: inside ++ bracket.closer :: rest))
    (text : Text) : motive text := by
  refine groups_sound.induction (fun _ _ h => ?_) nil plain (fun found rest h hrest => ?_) text
  · obtain ⟨inside, rest, _, _, rfl⟩ := exists_of_groups h
    exact List.cons_ne_nil _ _
  · obtain ⟨inside, behind, habsent, htext, rfl⟩ := exists_of_groups h
    have hbehind : rest = behind := by simpa using htext
    rw [htext, ← hbehind]
    exact group inside rest habsent hrest

end Groups

/-- The inside of a group is what stands between its two brackets. -/
theorem insideOf_group (bracket : Bracket) (inside : Text) :
    insideOf (bracket.opener :: inside ++ [bracket.closer]) = inside := by
  rw [insideOf, List.cons_append, List.drop_one, List.tail_cons, List.dropLast_concat]

/-! ## Exchanging groups -/

section Replacing

variable {bracket : Bracket} (change : Text → Text)

/-- A character at which no group begins stays. -/
theorem replaceEach_plain {c : Char} {rest : Text}
    (h : bracket.groups none (c :: rest) = none) :
    replaceEach bracket.groups change (c :: rest)
      = c :: replaceEach bracket.groups change rest :=
  groups_blind.replaceEach_plain change h

/-- An innermost group is exchanged where it is found, and the rest by itself. -/
theorem Absent.replaceEach_group {inside : Text} (h : bracket.Absent inside) (rest : Text) :
    replaceEach bracket.groups change (bracket.opener :: inside ++ bracket.closer :: rest)
      = change (bracket.opener :: inside ++ [bracket.closer])
        ++ replaceEach bracket.groups change rest := by
  have htext : bracket.opener :: inside ++ bracket.closer :: rest
      = (bracket.opener :: inside ++ [bracket.closer]) ++ rest := by simp
  have hfound := h.groups_append none rest
  rw [htext] at hfound ⊢
  exact groups_blind.replaceEach_lexeme change (List.cons_ne_nil _ _) hfound

end Replacing

end Bracket

/-! ## Pairs of brackets -/

/-- In the text an opening bracket and a closing one stand at two places, and neither of the
two brackets between them. -/
structure PairAt (bracket : Bracket) (text : Text) (first last : Nat) : Prop where
  /-- One place is in front of the other. -/
  ordered : first < last
  /-- The group is opened. -/
  opens : text[first]? = some bracket.opener
  /-- The group is closed. -/
  closes : text[last]? = some bracket.closer
  /-- The group is innermost. -/
  between : ∀ place, first < place → place < last →
    text[place]? ≠ some bracket.opener ∧ text[place]? ≠ some bracket.closer

instance (bracket : Bracket) (text : Text) (first last : Nat) :
    Decidable (PairAt bracket text first last) :=
  decidable_of_iff
    (first < last ∧ text[first]? = some bracket.opener ∧ text[last]? = some bracket.closer ∧
      ∀ place < last, first < place →
        text[place]? ≠ some bracket.opener ∧ text[place]? ≠ some bracket.closer)
    ⟨fun ⟨hordered, hopens, hcloses, hbetween⟩ =>
      ⟨hordered, hopens, hcloses, fun place hfirst hlast => hbetween place hlast hfirst⟩,
     fun h =>
      ⟨h.ordered, h.opens, h.closes, fun place hlast hfirst => h.between place hfirst hlast⟩⟩

/-- The character at a place has a text in front and one behind. -/
theorem exists_append_of_getElem? {text : Text} {place : Nat} {c : Char}
    (h : text[place]? = some c) :
    ∃ front back, text = front ++ c :: back ∧ front.length = place := by
  obtain ⟨hlt, rfl⟩ := List.getElem?_eq_some_iff.mp h
  refine ⟨text.take place, text.drop (place + 1), ?_, List.length_take_of_le (Nat.le_of_lt hlt)⟩
  rw [List.getElem_cons_drop, List.take_append_drop]

namespace PairAt

variable {bracket : Bracket} {text front rest inside : Text} {first last : Nat}

/-- The second place of a pair is in the text. -/
theorem last_lt (h : PairAt bracket text first last) : last < text.length :=
  (List.getElem?_eq_some_iff.mp h.closes).1

/-- The first place of a pair is in the text. -/
theorem first_lt (h : PairAt bracket text first last) : first < text.length :=
  Nat.lt_trans h.ordered h.last_lt

/-- What stands in front moves the pairs. -/
theorem append_iff (bracket : Bracket) (front rest : Text) (first last : Nat) :
    PairAt bracket (front ++ rest) (front.length + first) (front.length + last)
      ↔ PairAt bracket rest first last := by
  have hat : ∀ place, (front ++ rest)[front.length + place]? = rest[place]? := by
    intro place
    rw [List.getElem?_append_right (Nat.le_add_right _ _), Nat.add_sub_cancel_left]
  constructor
  · intro h
    refine ⟨by have := h.ordered; omega, hat first ▸ h.opens, hat last ▸ h.closes, ?_⟩
    intro place hfirst hlast
    exact hat place ▸ h.between (front.length + place) (by omega) (by omega)
  · intro h
    refine ⟨by have := h.ordered; omega, (hat first).trans h.opens, (hat last).trans h.closes, ?_⟩
    intro place hfirst hlast
    obtain ⟨more, rfl⟩ := Nat.exists_eq_add_of_le (show front.length ≤ place by omega)
    rw [hat]
    exact h.between more (by omega) (by omega)

/-- What stands behind changes nothing. -/
theorem append_left_iff (hlast : last < front.length) :
    PairAt bracket (front ++ rest) first last ↔ PairAt bracket front first last := by
  have hat : ∀ place, place ≤ last → (front ++ rest)[place]? = front[place]? := by
    intro place hplace
    exact List.getElem?_append_left (by omega)
  constructor
  · intro h
    have hordered := h.ordered
    refine ⟨hordered, hat first (by omega) ▸ h.opens, hat last (by omega) ▸ h.closes, ?_⟩
    intro place hfirst hplace
    exact hat place (by omega) ▸ h.between place hfirst hplace
  · intro h
    have hordered := h.ordered
    refine ⟨hordered, (hat first (by omega)).trans h.opens,
      (hat last (by omega)).trans h.closes, ?_⟩
    intro place hfirst hplace
    rw [hat place (by omega)]
    exact h.between place hfirst hplace

/-- A pair that begins behind a front part is a pair of the rest. -/
theorem exists_of_append (h : PairAt bracket (front ++ rest) first last)
    (hle : front.length ≤ first) :
    ∃ first' last', first = front.length + first' ∧ last = front.length + last' ∧
      PairAt bracket rest first' last' := by
  have hordered := h.ordered
  obtain ⟨first', rfl⟩ := Nat.exists_eq_add_of_le hle
  obtain ⟨last', rfl⟩ := Nat.exists_eq_add_of_le (show front.length ≤ last by omega)
  exact ⟨first', last', rfl, rfl, (append_iff bracket front rest first' last').mp h⟩

/-- Two pairs of which one begins inside the other are the same. -/
theorem eq_of_le {first' last' : Nat} (h : PairAt bracket text first last)
    (h' : PairAt bracket text first' last') (hle : first ≤ first') (hlt : first' < last) :
    first' = first ∧ last' = last := by
  have hfirst : first' = first := by
    by_contra hne
    exact (h.between first' (by omega) hlt).1 h'.opens
  refine ⟨hfirst, ?_⟩
  have hordered := h'.ordered
  rcases Nat.lt_trichotomy last' last with hless | heq | hgreater
  · exact absurd h'.closes (h.between last' (by omega) hless).2
  · exact heq
  · exact absurd h.closes (h'.between last (by omega) hgreater).2

/-- A pair around an innermost group. -/
theorem of_absent (h : bracket.Absent inside) (rest : Text) :
    PairAt bracket (bracket.opener :: inside ++ bracket.closer :: rest) 0 (inside.length + 1) where
  ordered := Nat.succ_pos _
  opens := rfl
  closes := by simp
  between := by
    intro place hfirst hlast
    obtain ⟨more, rfl⟩ := Nat.exists_eq_add_of_le' hfirst
    have hat : (bracket.opener :: inside ++ bracket.closer :: rest)[more + 1]? = inside[more]? := by
      rw [List.cons_append, List.getElem?_cons_succ, List.getElem?_append_left (by omega)]
    rw [hat]
    have hnone : ∀ c, bracket.isMark c = true → inside[more]? ≠ some c := by
      intro c hc hmem
      rw [h c (List.mem_of_getElem? hmem)] at hc
      cases hc
    exact ⟨hnone _ bracket.isMark_opener, hnone _ bracket.isMark_closer⟩

/-- A pair is an innermost group with a text in front and one behind. -/
theorem exists_append (h : PairAt bracket text first last) :
    ∃ front inside back, text = front ++ (bracket.opener :: inside ++ bracket.closer :: back) ∧
      bracket.Absent inside ∧ first = front.length ∧ last = front.length + (inside.length + 1) := by
  obtain ⟨front, tail, rfl, hfront⟩ := exists_append_of_getElem? h.opens
  have hordered := h.ordered
  obtain ⟨more, hmore⟩ := Nat.exists_eq_add_of_le (show front.length + 1 ≤ last by omega)
  have hat : ∀ place, (front ++ bracket.opener :: tail)[front.length + 1 + place]?
      = tail[place]? := by
    intro place
    rw [List.getElem?_append_right (by omega), Nat.add_assoc, Nat.add_sub_cancel_left,
      Nat.add_comm 1 place, List.getElem?_cons_succ]
  have hcloses := h.closes
  rw [hmore, hat] at hcloses
  obtain ⟨inside, back, rfl, hinside⟩ := exists_append_of_getElem? hcloses
  refine ⟨front, inside, back, rfl, ?_, hfront.symm, by omega⟩
  intro c hc
  obtain ⟨place, hplace, hmem⟩ := List.getElem_of_mem hc
  have hsame : (front ++ bracket.opener :: (inside ++ bracket.closer :: back))[
      front.length + 1 + place]? = some c := by
    rw [hat, List.getElem?_append_left hplace, List.getElem?_eq_getElem hplace, hmem]
  have hbetween := h.between (front.length + 1 + place) (by omega) (by omega)
  rw [hsame] at hbetween
  exact Bracket.isMark_eq_false_iff.mpr (by simpa using hbetween)

/-- In front of a character with which no group begins, pairs are those behind it. -/
theorem cons_iff {c : Char} (h : bracket.groups none (c :: rest) = none) :
    PairAt bracket (c :: rest) first last ↔
      ∃ first' last', first = first' + 1 ∧ last = last' + 1 ∧ PairAt bracket rest first' last' := by
  constructor
  · intro hpair
    cases first with
    | zero =>
        obtain ⟨front, inside, back, htext, habsent, hfront, _⟩ := hpair.exists_append
        obtain rfl := List.length_eq_zero_iff.mp hfront.symm
        rw [htext, List.nil_append, habsent.groups_append] at h
        cases h
    | succ first =>
        have hfront : PairAt bracket ([c] ++ rest) (first + 1) last := hpair
        obtain ⟨first', last', hfirst, hlast, hrest⟩ :=
          hfront.exists_of_append (Nat.succ_le_succ (Nat.zero_le first))
        rw [List.length_singleton] at hfirst hlast
        exact ⟨first', last', hfirst.trans (Nat.add_comm 1 first'),
          hlast.trans (Nat.add_comm 1 last'), hrest⟩
  · rintro ⟨first, last, rfl, rfl, hpair⟩
    have hmoved := (append_iff bracket [c] rest first last).mpr hpair
    rwa [List.length_singleton, Nat.add_comm 1 first, Nat.add_comm 1 last] at hmoved

/-- In front of a group, pairs are the one around it and those behind it. -/
theorem group_iff (h : bracket.Absent inside) :
    PairAt bracket (bracket.opener :: inside ++ bracket.closer :: rest) first last ↔
      first = 0 ∧ last = inside.length + 1 ∨
      ∃ first' last', first = inside.length + 2 + first' ∧ last = inside.length + 2 + last' ∧
        PairAt bracket rest first' last' := by
  have htext : bracket.opener :: inside ++ bracket.closer :: rest
      = (bracket.opener :: inside ++ [bracket.closer]) ++ rest := by simp
  have hlength : (bracket.opener :: inside ++ [bracket.closer]).length = inside.length + 2 := by
    simp
  have hown := of_absent h rest
  rw [htext] at hown ⊢
  constructor
  · intro hpair
    by_cases hlt : first < inside.length + 1
    · exact Or.inl (hown.eq_of_le hpair (Nat.zero_le _) hlt)
    · have hne : first ≠ inside.length + 1 := by
        rintro rfl
        exact bracket.closer_ne_opener (Option.some.inj (hown.closes.symm.trans hpair.opens))
      have hbehind := exists_of_append hpair (by rw [hlength]; omega)
      rw [hlength] at hbehind
      exact Or.inr hbehind
  · rintro (⟨rfl, rfl⟩ | ⟨first', last', rfl, rfl, hpair⟩)
    · exact hown
    · rw [← hlength]
      exact (append_iff _ _ _ _ _).mpr hpair

end PairAt

/-! ## The two cleanings -/

section Cleaning

variable {c : Char} {inside rest : Text}

/-- A text is taken apart into pairs of parentheses and the characters between them. -/
theorem parentheses_induction {motive : Text → Prop} (nil : motive [])
    (plain : ∀ c rest, Bracket.round.groups none (c :: rest) = none → motive rest →
      motive (c :: rest))
    (group : ∀ inside rest, Bracket.round.Absent inside → motive rest →
      motive ('(' :: inside ++ ')' :: rest))
    (text : Text) : motive text :=
  Bracket.groups_induction .round nil plain group text

/-- A text is taken apart into labels and the characters between them. -/
theorem labels_induction {motive : Text → Prop} (nil : motive [])
    (plain : ∀ c rest, Bracket.square.groups none (c :: rest) = none → motive rest →
      motive (c :: rest))
    (label : ∀ inside rest, Bracket.square.Absent inside → motive rest →
      motive ('[' :: inside ++ ']' :: rest))
    (text : Text) : motive text :=
  Bracket.groups_induction .square nil plain label text

/-- A character at which no pair of parentheses begins is kept. -/
theorem dropParentheses_plain (h : Bracket.round.groups none (c :: rest) = none) :
    dropParentheses (c :: rest) = c :: dropParentheses rest :=
  Bracket.replaceEach_plain insideOf h

/-- The two parentheses of an innermost pair are dropped. -/
theorem dropParentheses_group (h : Bracket.round.Absent inside) (rest : Text) :
    dropParentheses ('(' :: inside ++ ')' :: rest) = inside ++ dropParentheses rest := by
  have hgroup := h.replaceEach_group insideOf rest
  rw [Bracket.insideOf_group] at hgroup
  exact hgroup

/-- A character at which no label begins is kept. -/
theorem cleanLabels_plain (h : Bracket.square.groups none (c :: rest) = none) :
    cleanLabels (c :: rest) = c :: cleanLabels rest :=
  Bracket.replaceEach_plain _ h

/-- A label loses its parentheses, and the rest is cleaned by itself. -/
theorem cleanLabels_group (h : Bracket.square.Absent inside) (rest : Text) :
    cleanLabels ('[' :: inside ++ ']' :: rest)
      = '[' :: dropParentheses inside ++ ']' :: cleanLabels rest := by
  have hgroup := h.replaceEach_group
    (fun label => '[' :: dropParentheses (insideOf label) ++ [']']) rest
  rw [Bracket.insideOf_group] at hgroup
  rw [List.append_assoc] at hgroup
  exact hgroup

end Cleaning

end Flowchart
