import Flowchart.Proofs.Clean.Innermost

/-!
# Which parentheses are removed

Cleaning removes the two parentheses of a pair if no parenthesis stands between them and if
one label holds both, a label being what stands between two square brackets with none
between.  All other characters are kept in their order.  Since the parentheses are removed in
pairs, each label loses as many that open as that close.

A text is taken apart into its labels and the characters between them, and a label into its
pairs of parentheses and the characters between those; at each step the places that are lost
are known from those of the parts.

Main statement: `cleanLabels_exact`.
-/

namespace Flowchart

/-! ## Characters at places -/

/-- The characters of a text at the places with a property, in their order. -/
def atPlaces (p : Nat → Prop) [DecidablePred p] (text : Text) : Text :=
  (text.zipIdx.filter fun found => p found.2).map Prod.fst

section Places

variable {p q : Nat → Prop} [DecidablePred p] [DecidablePred q]

/-- The first character is kept if its place is, and the others by their own places. -/
theorem atPlaces_cons (c : Char) (text : Text) :
    atPlaces p (c :: text)
      = (if p 0 then [c] else []) ++ atPlaces (fun place => p (place + 1)) text := by
  unfold atPlaces
  rw [List.zipIdx_cons, List.zipIdx_succ, List.filter_cons, List.filter_map]
  split <;> simp_all [Function.comp_def]

/-- The characters behind a front part are kept by their places in the whole. -/
theorem atPlaces_append (front rest : Text) :
    atPlaces p (front ++ rest)
      = atPlaces p front ++ atPlaces (fun place => p (front.length + place)) rest := by
  induction front generalizing p with
  | nil => simp [atPlaces]
  | cons c front ih =>
      have hplace : ∀ place, (c :: front).length + place = front.length + place + 1 := by
        intro place
        rw [List.length_cons]
        omega
      rw [List.cons_append, atPlaces_cons, atPlaces_cons, ih, List.append_assoc]
      simp only [hplace]

/-- The characters depend on the places inside the text alone. -/
theorem atPlaces_congr {text : Text} (h : ∀ place < text.length, p place ↔ q place) :
    atPlaces p text = atPlaces q text := by
  unfold atPlaces
  congr 1
  refine List.filter_congr fun found hfound => ?_
  have hlt : found.2 < text.length := by
    simpa using List.snd_lt_of_mem_zipIdx hfound
  simp [h found.2 hlt]

/-- Where all places have the property, all characters are kept. -/
theorem atPlaces_of_forall {text : Text} (h : ∀ place < text.length, p place) :
    atPlaces p text = text := by
  unfold atPlaces
  rw [List.filter_eq_self.mpr, List.zipIdx_map_fst]
  intro found hfound
  exact decide_eq_true (h found.2 (by simpa using List.snd_lt_of_mem_zipIdx hfound))

/-- Where no place has the property, no character is kept. -/
theorem atPlaces_of_forall_not {text : Text} (h : ∀ place < text.length, ¬ p place) :
    atPlaces p text = [] := by
  rw [atPlaces_congr (q := fun _ => False) fun place hplace => iff_false_intro (h place hplace)]
  simp [atPlaces]

/-- What is kept stands in the text in the same order. -/
theorem atPlaces_sublist (text : Text) : (atPlaces p text).Sublist text := by
  have hkept := (List.filter_sublist (p := fun found : Char × Nat => decide (p found.2))
    (l := text.zipIdx)).map Prod.fst
  rwa [List.zipIdx_map_fst] at hkept

/-- The brackets of a group, the characters between them and those behind are apart. -/
theorem atPlaces_group (opener closer : Char) (inside rest : Text) :
    atPlaces p (opener :: inside ++ closer :: rest)
      = (if p 0 then [opener] else []) ++ (atPlaces (fun place => p (place + 1)) inside
        ++ ((if p (inside.length + 1) then [closer] else [])
          ++ atPlaces (fun place => p (inside.length + (place + 1) + 1)) rest)) := by
  rw [List.cons_append, atPlaces_cons, atPlaces_append, atPlaces_cons]

end Places

/-! ## Places that are lost -/

/-- At the place stands a parenthesis of a pair with none between. -/
def PairedAt (text : Text) (place : Nat) : Prop :=
  ∃ first last, PairAt .round text first last ∧ (place = first ∨ place = last)

/-- At the place stands a parenthesis of a pair with none between, and both are in one label. -/
def LostAt (text : Text) (place : Nat) : Prop :=
  ∃ start stop, PairAt .square text start stop ∧
    ∃ first last, PairAt .round text first last ∧ start < first ∧ last < stop ∧
      (place = first ∨ place = last)

instance (text : Text) : DecidablePred (PairedAt text) := fun place =>
  decidable_of_iff
    (∃ first < text.length, ∃ last < text.length,
      PairAt .round text first last ∧ (place = first ∨ place = last))
    ⟨fun ⟨first, _, last, _, h⟩ => ⟨first, last, h⟩,
     fun ⟨first, last, h⟩ => ⟨first, h.1.first_lt, last, h.1.last_lt, h⟩⟩

instance (text : Text) : DecidablePred (LostAt text) := fun place =>
  decidable_of_iff
    (∃ start < text.length, ∃ stop < text.length, PairAt .square text start stop ∧
      ∃ first < text.length, ∃ last < text.length,
        PairAt .round text first last ∧ start < first ∧ last < stop ∧
          (place = first ∨ place = last))
    ⟨fun ⟨start, _, stop, _, hlabel, first, _, last, _, h⟩ => ⟨start, stop, hlabel, first, last, h⟩,
     fun ⟨start, stop, hlabel, first, last, h⟩ =>
      ⟨start, hlabel.first_lt, stop, hlabel.last_lt, hlabel,
        first, h.1.first_lt, last, h.1.last_lt, h⟩⟩

section Parts

variable {c : Char} {text inside rest : Text} {place : Nat}

/-- In front of a character with which no pair begins, the pairs are those behind it. -/
theorem pairedAt_cons (h : Bracket.round.groups none (c :: rest) = none) :
    PairedAt (c :: rest) place ↔ ∃ more, place = more + 1 ∧ PairedAt rest more := by
  constructor
  · rintro ⟨first, last, hpair, hplace⟩
    obtain ⟨first, last, rfl, rfl, hrest⟩ := (PairAt.cons_iff h).mp hpair
    rcases hplace with rfl | rfl
    · exact ⟨first, rfl, first, last, hrest, Or.inl rfl⟩
    · exact ⟨last, rfl, first, last, hrest, Or.inr rfl⟩
  · rintro ⟨more, rfl, first, last, hpair, hplace⟩
    exact ⟨first + 1, last + 1, (PairAt.cons_iff h).mpr ⟨first, last, rfl, rfl, hpair⟩,
      by omega⟩

/-- In front of a pair, the pairs are this one and those behind it. -/
theorem pairedAt_group (h : Bracket.round.Absent inside) :
    PairedAt ('(' :: inside ++ ')' :: rest) place ↔
      place = 0 ∨ place = inside.length + 1 ∨
      ∃ more, place = inside.length + 2 + more ∧ PairedAt rest more := by
  constructor
  · rintro ⟨first, last, hpair, hplace⟩
    rcases (PairAt.group_iff h).mp hpair with ⟨rfl, rfl⟩ | ⟨first, last, rfl, rfl, hrest⟩
    · exact hplace.imp_right Or.inl
    · rcases hplace with rfl | rfl
      · exact Or.inr (Or.inr ⟨first, rfl, first, last, hrest, Or.inl rfl⟩)
      · exact Or.inr (Or.inr ⟨last, rfl, first, last, hrest, Or.inr rfl⟩)
  · rintro (rfl | rfl | ⟨more, rfl, first, last, hpair, hplace⟩)
    · exact ⟨0, inside.length + 1, PairAt.of_absent h rest, Or.inl rfl⟩
    · exact ⟨0, inside.length + 1, PairAt.of_absent h rest, Or.inr rfl⟩
    · exact ⟨_, _, (PairAt.group_iff h).mpr (Or.inr ⟨first, last, rfl, rfl, hpair⟩), by omega⟩

/-- Behind a pair, the pairs are those of the rest. -/
theorem pairedAt_group_behind (h : Bracket.round.Absent inside) :
    PairedAt ('(' :: inside ++ ')' :: rest) (inside.length + (place + 1) + 1)
      ↔ PairedAt rest place := by
  rw [pairedAt_group h]
  constructor
  · rintro (hplace | hplace | ⟨more, hplace, hrest⟩)
    · omega
    · omega
    · obtain rfl : more = place := by omega
      exact hrest
  · intro hrest
    exact Or.inr (Or.inr ⟨place, by omega, hrest⟩)

/-- Between the two parentheses of a pair there is no other pair. -/
theorem not_pairedAt_group (h : Bracket.round.Absent inside) (hplace : place < inside.length) :
    ¬ PairedAt ('(' :: inside ++ ')' :: rest) (place + 1) := by
  rw [pairedAt_group h]
  rintro (hwithin | hwithin | ⟨more, hwithin, _⟩) <;> omega

/-- Removing parentheses keeps the places that belong to no pair. -/
theorem dropParentheses_eq (text : Text) :
    dropParentheses text = atPlaces (fun place => ¬ PairedAt text place) text := by
  induction text using parentheses_induction with
  | nil => rfl
  | plain c rest h ih =>
      rw [dropParentheses_plain h, atPlaces_cons, ih]
      simp [pairedAt_cons h]
  | group inside rest h ih =>
      have hopens : PairedAt ('(' :: inside ++ ')' :: rest) 0 :=
        (pairedAt_group h).mpr (Or.inl rfl)
      have hcloses : PairedAt ('(' :: inside ++ ')' :: rest) (inside.length + 1) :=
        (pairedAt_group h).mpr (Or.inr (Or.inl rfl))
      have hbetween : atPlaces
          (fun place => ¬ PairedAt ('(' :: inside ++ ')' :: rest) (place + 1)) inside = inside :=
        atPlaces_of_forall fun place hplace => not_pairedAt_group h hplace
      rw [dropParentheses_group h, atPlaces_group, if_neg (not_not.mpr hopens),
        if_neg (not_not.mpr hcloses), hbetween, ih]
      simp only [pairedAt_group_behind h, List.nil_append]

/-- Dropping parentheses adds nothing and keeps the order. -/
theorem dropParentheses_sublist (text : Text) : (dropParentheses text).Sublist text := by
  rw [dropParentheses_eq]
  exact atPlaces_sublist text

/-- As many parentheses of pairs open as close. -/
theorem count_pairedAt (text : Text) :
    (atPlaces (PairedAt text) text).count '(' = (atPlaces (PairedAt text) text).count ')' := by
  induction text using parentheses_induction with
  | nil => rfl
  | plain c rest h ih =>
      rw [atPlaces_cons]
      simpa [pairedAt_cons h] using ih
  | group inside rest h ih =>
      have hopens : PairedAt ('(' :: inside ++ ')' :: rest) 0 :=
        (pairedAt_group h).mpr (Or.inl rfl)
      have hcloses : PairedAt ('(' :: inside ++ ')' :: rest) (inside.length + 1) :=
        (pairedAt_group h).mpr (Or.inr (Or.inl rfl))
      have hbetween : atPlaces
          (fun place => PairedAt ('(' :: inside ++ ')' :: rest) (place + 1)) inside = [] :=
        atPlaces_of_forall_not fun place hplace => not_pairedAt_group h hplace
      rw [atPlaces_group, if_pos hopens, if_pos hcloses, hbetween]
      simp only [pairedAt_group_behind h, List.nil_append]
      simp [ih]

/-! ## Labels -/

/-- The first character of a text is never lost. -/
theorem LostAt.pos (h : LostAt text place) : 0 < place := by
  obtain ⟨start, stop, _, first, last, hpair, hstart, _, hplace⟩ := h
  have hordered := hpair.ordered
  omega

/-- What is lost is a parenthesis. -/
theorem LostAt.parenthesis (h : LostAt text place) :
    text[place]? = some '(' ∨ text[place]? = some ')' := by
  obtain ⟨start, stop, _, first, last, hpair, _, _, rfl | rfl⟩ := h
  · exact Or.inl hpair.opens
  · exact Or.inr hpair.closes

/-- What is lost is lost inside a label. -/
theorem LostAt.exists_label (h : LostAt text place) :
    ∃ start stop, PairAt .square text start stop ∧ start < place ∧ place < stop := by
  obtain ⟨start, stop, hlabel, first, last, hpair, hstart, hstop, hplace⟩ := h
  have hordered := hpair.ordered
  exact ⟨start, stop, hlabel, by omega, by omega⟩

/-- Behind a front part from which no label reaches so far, what is lost is lost behind it. -/
theorem lostAt_append {front : Text}
    (h : ∀ start stop, PairAt .square (front ++ rest) start stop → front.length + place < stop →
      front.length ≤ start) :
    LostAt (front ++ rest) (front.length + place) ↔ LostAt rest place := by
  constructor
  · intro hlost
    obtain ⟨start, stop, hlabel, first, last, hpair, hstart, hstop, hplace⟩ := hlost
    have hordered := hpair.ordered
    have hbehind := h start stop hlabel (by omega)
    obtain ⟨start', stop', rfl, rfl, hlabel'⟩ := hlabel.exists_of_append hbehind
    obtain ⟨first', last', rfl, rfl, hpair'⟩ := hpair.exists_of_append (by omega)
    exact ⟨start', stop', hlabel', first', last', hpair', by omega, by omega, by omega⟩
  · intro hlost
    obtain ⟨start, stop, hlabel, first, last, hpair, hstart, hstop, hplace⟩ := hlost
    exact ⟨front.length + start, front.length + stop, (PairAt.append_iff ..).mpr hlabel,
      front.length + first, front.length + last, (PairAt.append_iff ..).mpr hpair,
      by omega, by omega, by omega⟩

/-- In front of a character with which no label begins, what is lost is lost behind it. -/
theorem lostAt_cons (h : Bracket.square.groups none (c :: rest) = none) :
    LostAt (c :: rest) (place + 1) ↔ LostAt rest place := by
  have hlabels : ∀ start stop, PairAt .square ([c] ++ rest) start stop →
      [c].length + place < stop → [c].length ≤ start := by
    intro start stop hlabel _
    obtain ⟨start', stop', rfl, rfl, _⟩ := (PairAt.cons_iff h).mp hlabel
    exact Nat.succ_le_succ (Nat.zero_le start')
  have hmoved := lostAt_append hlabels
  rwa [List.length_singleton, Nat.add_comm 1 place] at hmoved

/-- Behind a label, what is lost is lost behind it. -/
theorem lostAt_behind (h : Bracket.square.Absent inside) :
    LostAt ('[' :: inside ++ ']' :: rest) (inside.length + (place + 1) + 1)
      ↔ LostAt rest place := by
  have htext : '[' :: inside ++ ']' :: rest = ('[' :: inside ++ [']']) ++ rest := by simp
  have hlength : ('[' :: inside ++ [']']).length = inside.length + 2 := by simp
  have hlabels : ∀ start stop, PairAt .square (('[' :: inside ++ [']']) ++ rest) start stop →
      ('[' :: inside ++ [']']).length + place < stop →
      ('[' :: inside ++ [']']).length ≤ start := by
    intro start stop hlabel hstop
    rw [← htext] at hlabel
    rw [hlength] at hstop ⊢
    rcases (PairAt.group_iff h).mp hlabel with ⟨rfl, rfl⟩ | ⟨start', stop', rfl, rfl, _⟩ <;> omega
  have hmoved := lostAt_append hlabels
  have hplace : inside.length + 2 + place = inside.length + (place + 1) + 1 := by omega
  rwa [← htext, hlength, hplace] at hmoved

/-- Inside a label the pairs of the label are lost, whatever stands around it, since two labels
around one place are the same. -/
theorem lostAt_inside (h : Bracket.square.Absent inside) (front rest : Text)
    (hplace : place < inside.length) :
    LostAt (front ++ ('[' :: inside ++ ']' :: rest)) (front.length + (place + 1))
      ↔ PairedAt inside place := by
  have hown := (PairAt.append_iff .square front _ _ _).mpr (PairAt.of_absent h rest)
  have htext : front ++ ('[' :: inside ++ ']' :: rest)
      = (front ++ ['[']) ++ (inside ++ ']' :: rest) := by simp
  have hlength : (front ++ ['[']).length = front.length + 1 := by simp
  constructor
  · intro hlost
    obtain ⟨start, stop, hlabel, first, last, hpair, hstart, hstop, hwhere⟩ := hlost
    have hordered := hpair.ordered
    have hsame : start = front.length ∧ stop = front.length + (inside.length + 1) := by
      by_cases hle : front.length ≤ start
      · exact hown.eq_of_le hlabel hle (by omega)
      · have hother := hlabel.eq_of_le hown (by omega) (by omega)
        omega
    rw [htext] at hpair
    obtain ⟨first', last', rfl, rfl, hpair'⟩ := hpair.exists_of_append (by omega)
    rw [hlength] at hstop hwhere
    have hwithin := (PairAt.append_left_iff (by omega)).mp hpair'
    exact ⟨first', last', hwithin, by omega⟩
  · intro hpaired
    obtain ⟨first, last, hpair, hwhere⟩ := hpaired
    have hordered := hpair.ordered
    have hlast := hpair.last_lt
    have hwider : PairAt .round (inside ++ ']' :: rest) first last :=
      (PairAt.append_left_iff hlast).mpr hpair
    have hmoved := (PairAt.append_iff .round (front ++ ['[']) _ _ _).mpr hwider
    rw [← htext, hlength] at hmoved
    exact ⟨_, _, hown, _, _, hmoved, by omega, by omega, by omega⟩

end Parts

/-- Cleaning keeps the places that are not lost. -/
theorem cleanLabels_eq (text : Text) :
    cleanLabels text = atPlaces (fun place => ¬ LostAt text place) text := by
  induction text using labels_induction with
  | nil => rfl
  | plain c rest h ih =>
      have hfirst : ¬ LostAt (c :: rest) 0 := fun hlost => absurd hlost.pos (Nat.lt_irrefl 0)
      rw [cleanLabels_plain h, atPlaces_cons, if_pos hfirst, ih]
      simp only [lostAt_cons h, List.singleton_append]
  | label inside rest h ih =>
      have hopens : ¬ LostAt ('[' :: inside ++ ']' :: rest) 0 :=
        fun hlost => absurd hlost.pos (Nat.lt_irrefl 0)
      have hcloses : ¬ LostAt ('[' :: inside ++ ']' :: rest) (inside.length + 1) := by
        intro hlost
        have hmark := hlost.parenthesis
        have hat := (PairAt.of_absent h rest).closes
        change ('[' :: inside ++ ']' :: rest)[inside.length + 1]? = some ']' at hat
        rw [hat] at hmark
        simp at hmark
      have hinside : atPlaces (fun place => ¬ LostAt ('[' :: inside ++ ']' :: rest) (place + 1))
          inside = dropParentheses inside := by
        rw [dropParentheses_eq]
        refine atPlaces_congr fun place hplace => not_congr ?_
        have hwithin := lostAt_inside h [] rest hplace
        rwa [List.nil_append, List.length_nil, Nat.zero_add] at hwithin
      rw [cleanLabels_group h, atPlaces_group, if_pos hopens, if_pos hcloses, hinside, ih]
      simp only [lostAt_behind h]
      rfl

/-- Cleaning adds nothing and keeps the order. -/
theorem cleanLabels_sublist (text : Text) : (cleanLabels text).Sublist text := by
  rw [cleanLabels_eq]
  exact atPlaces_sublist text

/-- What a label loses are the pairs in it. -/
theorem atPlaces_label {inside : Text} (h : Bracket.square.Absent inside) (front rest : Text) :
    atPlaces (fun place => front.length < place ∧ place < front.length + (inside.length + 1) ∧
        LostAt (front ++ ('[' :: inside ++ ']' :: rest)) place)
      (front ++ ('[' :: inside ++ ']' :: rest)) = atPlaces (PairedAt inside) inside := by
  rw [atPlaces_append, atPlaces_of_forall_not (by omega), atPlaces_group, if_neg (by omega),
    if_neg (by omega)]
  simp only [List.nil_append]
  refine (congrArg₂ (· ++ ·) (atPlaces_congr fun place hplace => ?_)
    (atPlaces_of_forall_not (by omega))).trans (List.append_nil _)
  rw [lostAt_inside h front rest hplace]
  exact ⟨fun hpaired => hpaired.2.2, fun hpaired => ⟨by omega, by omega, hpaired⟩⟩

/-- **Cleaning removes exactly the innermost pairs of parentheses of the labels.** It keeps the
characters at all other places in their order; what is lost is a parenthesis inside a label;
and of each label as many are lost that open as that close. -/
theorem cleanLabels_exact (text : Text) :
    cleanLabels text = atPlaces (fun place => ¬ LostAt text place) text ∧
      (∀ place, LostAt text place →
        (text[place]? = some '(' ∨ text[place]? = some ')') ∧
          ∃ start stop, PairAt .square text start stop ∧ start < place ∧ place < stop) ∧
      ∀ start stop, PairAt .square text start stop →
        (atPlaces (fun place => start < place ∧ place < stop ∧ LostAt text place) text).count '('
          = (atPlaces (fun place => start < place ∧ place < stop ∧ LostAt text place) text).count
            ')' := by
  refine ⟨cleanLabels_eq text, fun place h => ⟨h.parenthesis, h.exists_label⟩, ?_⟩
  intro start stop hlabel
  obtain ⟨front, inside, back, rfl, habsent, rfl, rfl⟩ := hlabel.exists_append
  have hlosses := atPlaces_label habsent front back
  exact (congrArg (List.count '(') hlosses).trans
    ((count_pairedAt inside).trans (congrArg (List.count ')') hlosses).symm)

/-- A shape in parentheses is no label and keeps them. -/
example : cleanLabels "A((circle)) --> B[(x) y]".toList = "A((circle)) --> B[x y]".toList := by
  decide

end Flowchart
