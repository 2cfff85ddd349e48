import Flowchart.Proofs.Clean.Label

/-!
# What one cleaning leaves behind

A label is settled if no closing parenthesis follows an opening one; these are the labels that
cleaning leaves as they are.  Of a run of parentheses that open in front of a run of those that
close, one cleaning takes one from each.  So it settles a label exactly if the parentheses of
the label, the other characters apart, do not double: if no two that open in a row come before
two that close in a row.

The labels of a cleaned text are the labels of the text, cleaned one by one.  The same condition
therefore says when all labels are settled and when a second cleaning changes nothing.

Main statement: `cleanLabels_settles_iff`.
-/

namespace Flowchart

/-- A label of the text: what stands between two square brackets with none between. -/
def IsLabel (label text : Text) : Prop :=
  ∃ front back, text = front ++ ('[' :: label ++ ']' :: back) ∧ Bracket.square.Absent label

/-- No closing parenthesis follows an opening one. -/
def Settled (label : Text) : Prop :=
  ¬ List.Sublist ['(', ')'] label

/-- Two parentheses that open in a row come before two that close in a row. -/
def Doubles (word : Text) : Prop :=
  ∃ before inside behind,
    word = before ++ ['(', '('] ++ inside ++ [')', ')'] ++ behind

/-- The parentheses of a text, in their order. -/
def parentheses (text : Text) : Text :=
  text.filter Bracket.round.isMark

/-! ## Settled labels -/

section Settled

variable {c : Char} {text inside rest : Text}

/-- The round brackets are the two parentheses. -/
theorem isMark_round_iff : Bracket.round.isMark c = true ↔ c = '(' ∨ c = ')' := by
  unfold Bracket.isMark
  rw [Bool.or_eq_true, decide_eq_true_iff, decide_eq_true_iff]
  rfl

/-- An opening parenthesis comes before a closing one behind the first character, or that
character opens and a closing one is behind it. -/
theorem pair_sublist_cons_iff :
    List.Sublist ['(', ')'] (c :: text) ↔
      List.Sublist ['(', ')'] text ∨ c = '(' ∧ ')' ∈ text := by
  simp [List.sublist_cons_iff, eq_comm]

/-- Characters that are no parentheses do not matter. -/
theorem Bracket.Absent.pair_sublist_append_iff (h : Bracket.round.Absent inside) :
    List.Sublist ['(', ')'] (inside ++ rest) ↔ List.Sublist ['(', ')'] rest := by
  induction inside with
  | nil => rfl
  | cons c inside ih =>
      obtain ⟨hc, hinside⟩ := List.forall_mem_cons.mp h
      have hopen : c ≠ '(' := (Bracket.isMark_eq_false_iff.mp hc).1
      rw [List.cons_append, pair_sublist_cons_iff, ih hinside]
      simp [hopen]

/-- A closing parenthesis that is not the first of the parentheses follows an opening one. -/
theorem pair_sublist_of_mem (hmem : ')' ∈ text)
    (hnext : text.find? Bracket.round.isMark ≠ some ')') : List.Sublist ['(', ')'] text := by
  induction text with
  | nil => cases hmem
  | cons c text ih =>
      rw [pair_sublist_cons_iff]
      by_cases hc : Bracket.round.isMark c
      · rw [List.find?_cons_of_pos hc] at hnext
        have hclose : ')' ≠ c := fun h => hnext (congrArg some h.symm)
        exact Or.inr ⟨(isMark_round_iff.mp hc).resolve_right hclose.symm,
          (List.mem_cons.mp hmem).resolve_left hclose⟩
      · rw [List.find?_cons_of_neg hc] at hnext
        have hclose : ')' ≠ c := by
          rintro rfl
          exact hc Bracket.round.isMark_closer
        exact Or.inl (ih ((List.mem_cons.mp hmem).resolve_left hclose) hnext)

/-- Removing parentheses changes exactly the labels that are not settled. -/
theorem dropParentheses_eq_self_iff (label : Text) :
    dropParentheses label = label ↔ Settled label := by
  unfold Settled
  induction label using parentheses_induction with
  | nil => exact iff_of_true rfl (by simp)
  | plain c rest h ih =>
      rw [dropParentheses_plain h, List.cons_inj_right, ih, not_iff_not, pair_sublist_cons_iff]
      refine ⟨Or.inl, fun hpair => hpair.elim id fun ⟨hopen, hmem⟩ => ?_⟩
      exact pair_sublist_of_mem hmem (Bracket.groups_eq_none_iff.mp h hopen)
  | group inside rest h ih =>
      have hshorter : (dropParentheses ('(' :: inside ++ ')' :: rest)).length
          < ('(' :: inside ++ ')' :: rest).length := by
        have hrest := (dropParentheses_sublist rest).length_le
        rw [dropParentheses_group h]
        simp only [List.length_append, List.length_cons]
        omega
      have hpair : List.Sublist ['(', ')'] ('(' :: inside ++ ')' :: rest) := by
        rw [List.cons_append, pair_sublist_cons_iff]
        exact Or.inr ⟨rfl, List.mem_append_right _ List.mem_cons_self⟩
      exact iff_of_false (fun heq => absurd (congrArg List.length heq) hshorter.ne)
        (fun hsettled => hsettled hpair)

end Settled

/-! ## Runs of parentheses -/

section Runs

variable {c : Char} {word text inside rest : Text}

/-- Two parentheses that close in a row stand at the front, or behind the first character. -/
theorem double_close_cons_iff :
    [')', ')'] <:+: c :: word ↔ c = ')' ∧ word.head? = some ')' ∨ [')', ')'] <:+: word := by
  rw [List.infix_cons_iff, List.cons_prefix_cons, eq_comm]
  cases word with
  | nil => simp
  | cons d word => simp [@eq_comm Char d]

/-- What doubles begins with two that open, or doubles behind the first. -/
theorem doubles_cons_iff :
    Doubles (c :: word) ↔
      c = '(' ∧ (∃ rest, word = '(' :: rest ∧ [')', ')'] <:+: rest) ∨ Doubles word := by
  constructor
  · intro h
    obtain ⟨before, inside, behind, hword⟩ := h
    cases before with
    | nil =>
        obtain ⟨rfl, rfl⟩ := List.cons.inj hword
        exact Or.inl ⟨rfl, _, rfl, inside, behind, rfl⟩
    | cons d before =>
        obtain ⟨rfl, rfl⟩ := List.cons.inj hword
        exact Or.inr ⟨before, inside, behind, rfl⟩
  · intro h
    rcases h with ⟨rfl, _, rfl, inside, behind, rfl⟩ | ⟨before, inside, behind, rfl⟩
    · exact ⟨[], inside, behind, rfl⟩
    · exact ⟨c :: before, inside, behind, rfl⟩

/-- The empty text does not double. -/
theorem not_doubles_nil : ¬ Doubles [] := by
  intro h
  obtain ⟨before, inside, behind, hword⟩ := h
  simp at hword

/-- What doubles has two in a row that close. -/
theorem Doubles.double_close (h : Doubles word) : [')', ')'] <:+: word := by
  obtain ⟨before, inside, behind, rfl⟩ := h
  exact ⟨before ++ ['(', '('] ++ inside, behind, rfl⟩

/-- In front of an opening parenthesis, one that opens doubles with any two that close. -/
theorem doubles_open_iff (hword : word.head? ≠ some ')') (hmarks : ∀ c ∈ word, c = '(' ∨ c = ')') :
    Doubles ('(' :: word) ↔ [')', ')'] <:+: word := by
  cases word with
  | nil =>
      rw [doubles_cons_iff]
      simp [not_doubles_nil]
  | cons c word =>
      obtain rfl : c = '(' :=
        (hmarks c List.mem_cons_self).resolve_right fun hclose => hword (congrArg some hclose)
      rw [doubles_cons_iff, double_close_cons_iff]
      constructor
      · rintro (⟨_, rest, hrest, hclose⟩ | hdoubles)
        · obtain ⟨_, rfl⟩ := List.cons.inj hrest
          exact Or.inr hclose
        · exact double_close_cons_iff.mp hdoubles.double_close
      · rintro (⟨hopen, _⟩ | hclose)
        · cases hopen
        · exact Or.inl ⟨rfl, word, rfl, hclose⟩

/-! ## What is left of a run -/

/-- Only parentheses are among the parentheses of a text. -/
theorem mem_parentheses (h : c ∈ parentheses text) : c = '(' ∨ c = ')' :=
  isMark_round_iff.mp (List.mem_filter.mp h).2

/-- The parentheses of an innermost pair come first, and then those behind it. -/
theorem parentheses_group (h : Bracket.round.Absent inside) (rest : Text) :
    parentheses ('(' :: inside ++ ')' :: rest) = '(' :: ')' :: parentheses rest := by
  have hinside : inside.filter Bracket.round.isMark = [] :=
    List.filter_eq_nil_iff.mpr fun c hc => by simp [h c hc]
  unfold parentheses
  rw [List.cons_append, List.filter_cons_of_pos rfl, List.filter_append, hinside,
    List.nil_append, List.filter_cons_of_pos rfl]

/-- A character with which no pair begins is no parenthesis, or it closes, or it opens and the
next parenthesis does not close. -/
theorem parentheses_plain (h : Bracket.round.groups none (c :: rest) = none) :
    (parentheses (c :: rest) = parentheses rest ∧ c ≠ '(' ∧ c ≠ ')') ∨
      (c = ')' ∧ parentheses (c :: rest) = ')' :: parentheses rest) ∨
      (c = '(' ∧ parentheses (c :: rest) = '(' :: parentheses rest ∧
        (parentheses rest).head? ≠ some ')') := by
  unfold parentheses
  by_cases hmark : Bracket.round.isMark c
  · rw [List.filter_cons_of_pos hmark, List.head?_filter]
    rcases isMark_round_iff.mp hmark with rfl | rfl
    · exact Or.inr (Or.inr ⟨rfl, rfl, Bracket.groups_eq_none_iff.mp h rfl⟩)
    · exact Or.inr (Or.inl ⟨rfl, rfl⟩)
  · rw [List.filter_cons_of_neg hmark]
    exact Or.inl ⟨rfl, not_or.mp (mt isMark_round_iff.mpr hmark)⟩

/-- A closing parenthesis is left if it is the first of the parentheses, or another closes
right behind it. -/
theorem close_mem_dropParentheses (text : Text) :
    ')' ∈ dropParentheses text ↔
      (parentheses text).head? = some ')' ∨ [')', ')'] <:+: parentheses text := by
  induction text using parentheses_induction with
  | nil => simp [parentheses, show dropParentheses [] = [] from rfl]
  | plain c rest h ih =>
      rw [dropParentheses_plain h, List.mem_cons, ih]
      rcases parentheses_plain h with ⟨hsame, _, hclose⟩ | ⟨rfl, hword⟩ | ⟨rfl, hword, hnext⟩
      · rw [hsame]
        simp [hclose.symm]
      · simp [hword]
      · rw [hword, double_close_cons_iff]
        simp [hnext]
  | group inside rest h ih =>
      have hinside : ')' ∉ inside := by
        intro hmem
        exact (Bracket.isMark_eq_false_iff.mp (h _ hmem)).2 rfl
      rw [dropParentheses_group h, parentheses_group h, List.mem_append, ih,
        double_close_cons_iff, double_close_cons_iff]
      simp [hinside]

/-- Removing parentheses leaves a pair if the parentheses double. -/
theorem settled_dropParentheses_iff (text : Text) :
    Settled (dropParentheses text) ↔ ¬ Doubles (parentheses text) := by
  unfold Settled
  rw [not_iff_not]
  induction text using parentheses_induction with
  | nil => exact iff_of_false (by simp [show dropParentheses [] = [] from rfl]) not_doubles_nil
  | plain c rest h ih =>
      rw [dropParentheses_plain h, pair_sublist_cons_iff, ih]
      rcases parentheses_plain h with ⟨hsame, hopen, _⟩ | ⟨rfl, hword⟩ | ⟨rfl, hword, hnext⟩
      · rw [hsame]
        simp [hopen]
      · rw [hword, doubles_cons_iff]
        simp
      · rw [hword, doubles_open_iff hnext fun c => mem_parentheses, close_mem_dropParentheses]
        simp only [hnext, false_or, true_and]
        exact or_iff_right_of_imp Doubles.double_close
  | group inside rest h ih =>
      rw [dropParentheses_group h, h.pair_sublist_append_iff, ih, parentheses_group h,
        doubles_cons_iff, doubles_cons_iff]
      simp

end Runs

/-! ## Labels of a cleaned text -/

section Labels

variable {c : Char} {text inside label rest : Text}

/-- In front of a character with which no label begins, the labels are those behind it. -/
theorem isLabel_cons (h : Bracket.square.groups none (c :: rest) = none) :
    IsLabel label (c :: rest) ↔ IsLabel label rest := by
  constructor
  · intro hlabel
    obtain ⟨front, back, htext, habsent⟩ := hlabel
    cases front with
    | nil =>
        rw [htext, List.nil_append] at h
        cases (habsent.groups_append none back).symm.trans h
    | cons d front =>
        obtain ⟨rfl, rfl⟩ := List.cons.inj htext
        exact ⟨front, back, rfl, habsent⟩
  · intro hlabel
    obtain ⟨front, back, rfl, habsent⟩ := hlabel
    exact ⟨c :: front, back, rfl, habsent⟩

/-- In front of a label, the labels are this one and those behind it. -/
theorem isLabel_group (h : Bracket.square.Absent inside) :
    IsLabel label ('[' :: inside ++ ']' :: rest) ↔ label = inside ∨ IsLabel label rest := by
  constructor
  · intro hlabel
    obtain ⟨front, back, htext, habsent⟩ := hlabel
    cases front with
    | nil =>
        obtain ⟨_, hbehind⟩ := List.cons.inj htext
        exact Or.inl ((h.append_closer_inj habsent).mp hbehind).1.symm
    | cons d front =>
        obtain ⟨_, hbehind⟩ := List.cons.inj htext
        rcases List.append_eq_append_iff.mp hbehind with ⟨between, _, hrest⟩ | ⟨tail, hsplit, hopen⟩
        · cases between with
          | nil => cases hrest
          | cons d between =>
              obtain ⟨_, hrest⟩ := List.cons.inj hrest
              exact Or.inr ⟨between, back, hrest, habsent⟩
        · cases tail with
          | nil => cases hopen
          | cons d tail =>
              obtain ⟨rfl, _⟩ := List.cons.inj hopen
              have hmem : '[' ∈ inside := hsplit ▸ List.mem_append_right _ List.mem_cons_self
              exact absurd rfl (Bracket.isMark_eq_false_iff.mp (h _ hmem)).1
  · intro hlabel
    rcases hlabel with rfl | ⟨front, back, rfl, habsent⟩
    · exact ⟨[], rest, rfl, h⟩
    · exact ⟨'[' :: inside ++ ']' :: front, back, by simp, habsent⟩

/-- Cleaning keeps the first of the square brackets. -/
theorem find?_cleanLabels (text : Text) :
    (cleanLabels text).find? Bracket.square.isMark = text.find? Bracket.square.isMark := by
  induction text using labels_induction with
  | nil => rfl
  | plain c rest h ih => rw [cleanLabels_plain h, List.find?_cons, List.find?_cons, ih]
  | label inside rest h ih =>
      rw [cleanLabels_group h, List.cons_append, List.cons_append,
        List.find?_cons_of_pos rfl, List.find?_cons_of_pos rfl]

/-- Dropping parentheses brings in no square brackets. -/
theorem Bracket.Absent.dropParentheses (h : Bracket.square.Absent inside) :
    Bracket.square.Absent (dropParentheses inside) :=
  fun c hc => h c ((dropParentheses_sublist inside).subset hc)

/-- The labels of a cleaned text are the labels of the text without their pairs. -/
theorem isLabel_cleanLabels (text : Text) :
    IsLabel label (cleanLabels text) ↔
      ∃ inside, IsLabel inside text ∧ label = dropParentheses inside := by
  induction text using labels_induction with
  | nil => simp [show cleanLabels [] = [] from rfl, IsLabel]
  | plain c rest h ih =>
      have hcleaned : Bracket.square.groups none (c :: cleanLabels rest) = none := by
        rw [Bracket.groups_eq_none_iff] at h ⊢
        rwa [find?_cleanLabels]
      rw [cleanLabels_plain h, isLabel_cons hcleaned, ih]
      simp only [isLabel_cons h]
  | label inside rest h ih =>
      rw [cleanLabels_group h, isLabel_group h.dropParentheses, ih]
      simp only [isLabel_group h, or_and_right, exists_or, exists_eq_left]

/-- Cleaning changes nothing exactly if no label has a pair. -/
theorem cleanLabels_eq_self_iff (text : Text) :
    cleanLabels text = text ↔ ∀ label, IsLabel label text → Settled label := by
  induction text using labels_induction with
  | nil => exact iff_of_true rfl (by simp [IsLabel])
  | plain c rest h ih =>
      rw [cleanLabels_plain h, List.cons_inj_right, ih]
      simp only [isLabel_cons h]
  | label inside rest h ih =>
      have hparts : dropParentheses inside ++ ']' :: cleanLabels rest = inside ++ ']' :: rest ↔
          dropParentheses inside = inside ∧ cleanLabels rest = rest :=
        h.dropParentheses.append_closer_inj h
      rw [cleanLabels_group h, List.cons_append, List.cons_append, List.cons_inj_right, hparts,
        dropParentheses_eq_self_iff, ih]
      simp only [← List.cons_append, isLabel_group h, forall_eq_or_imp]

end Labels

/-- **One cleaning settles the labels whose parentheses do not double.** All labels of the
cleaned text are settled exactly if no label of the text has two parentheses that open in a row
before two that close in a row, other characters apart; and under the same condition a second
cleaning changes nothing. -/
theorem cleanLabels_settles_iff (text : Text) :
    ((∀ label, IsLabel label (cleanLabels text) → Settled label) ↔
        ∀ label, IsLabel label text → ¬ Doubles (parentheses label)) ∧
      (cleanLabels (cleanLabels text) = cleanLabels text ↔
        ∀ label, IsLabel label text → ¬ Doubles (parentheses label)) := by
  have hsettled : (∀ label, IsLabel label (cleanLabels text) → Settled label) ↔
      ∀ label, IsLabel label text → ¬ Doubles (parentheses label) := by
    constructor
    · intro h inside hinside
      have hlabel := (isLabel_cleanLabels text).mpr ⟨inside, hinside, rfl⟩
      exact (settled_dropParentheses_iff inside).mp (h _ hlabel)
    · intro h label hlabel
      obtain ⟨inside, hinside, rfl⟩ := (isLabel_cleanLabels text).mp hlabel
      exact (settled_dropParentheses_iff inside).mpr (h inside hinside)
  exact ⟨hsettled, (cleanLabels_eq_self_iff _).trans hsettled⟩

/-- Of two pairs of parentheses around one word, one is left, and a second cleaning takes it. -/
theorem cleanLabels_twice :
    ¬ (∀ label, IsLabel label (cleanLabels "A[((x))]".toList) → Settled label) ∧
      cleanLabels (cleanLabels "A[((x))]".toList) ≠ cleanLabels "A[((x))]".toList := by
  have hlabel : IsLabel "(x)".toList (cleanLabels "A[((x))]".toList) :=
    ⟨['A'], [], by decide, by decide⟩
  have hpair : List.Sublist ['(', ')'] "(x)".toList :=
    .cons_cons '(' (.cons 'x' (.refl [')']))
  exact ⟨fun h => h _ hlabel hpair, by decide⟩

end Flowchart
