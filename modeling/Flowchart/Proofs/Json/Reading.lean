import Flowchart.Proofs.Json.Atom
import Flowchart.Proofs.Text

/-!
# Reading what is written

A value without reals is read back from its text, in every layout.  The blanks of a layout
stand only where gaps are passed over, and no value begins with one; so the reader stands
in front of each part when it comes to read it, and behind each there is a comma, a bracket
or a gap.

Main statement: `read?_render`.
-/

namespace Flowchart.Json

/-! ## Layouts -/

/-- Where no gap begins nothing is passed over. -/
theorem skipGap_cons {c : Char} (h : isGap c = false) (rest : Text) :
    skipGap (c :: rest) = c :: rest :=
  List.dropWhile_cons_of_neg (by simp [h])

/-- Gaps are passed over up to the first character that is none. -/
theorem skipGap_append {gaps : Text} (h : ∀ c ∈ gaps, isGap c = true) {c : Char}
    (hc : isGap c = false) (rest : Text) : skipGap (gaps ++ c :: rest) = c :: rest := by
  rw [skipGap, List.dropWhile_append_of_pos h]
  exact skipGap_cons hc rest

/-- A line of a layout begins with gaps only. -/
theorem isGap_of_mem_lineStart {layout : Layout} {level : Nat} :
    ∀ c ∈ layout.lineStart level, isGap c = true := by
  cases layout with
  | oneLine => exact nofun
  | lines indent =>
      refine List.forall_mem_cons.mpr ⟨rfl, fun c hc => ?_⟩
      rw [List.eq_of_mem_replicate hc]
      rfl

/-- Between two items there is a comma with gaps behind it. -/
theorem between_eq (layout : Layout) (level : Nat) :
    ∃ gaps, layout.between level = ',' :: gaps ∧ ∀ c ∈ gaps, isGap c = true := by
  cases layout with
  | oneLine => exact ⟨[' '], rfl, List.forall_mem_singleton.mpr rfl⟩
  | lines indent => exact ⟨_, rfl, @isGap_of_mem_lineStart (.lines indent) level⟩

/-- Behind gaps a number ends, and in front of a bracket. -/
theorem endsNumber_append {gaps : Text} (h : ∀ c ∈ gaps, isGap c = true) {c : Char}
    (hc : c.isDigit = false ∧ c ≠ '.' ∧ c ≠ 'e' ∧ c ≠ 'E') (rest : Text) :
    EndsNumber (gaps ++ c :: rest) := by
  cases gaps with
  | nil => exact endsNumber_cons hc
  | cons gap gaps =>
      have hgap : ((gap = ' ' ∨ gap = '\t') ∨ gap = '\n') ∨ gap = '\r' := by
        simpa [isGap] using h gap List.mem_cons_self
      refine endsNumber_cons ?_
      rcases hgap with ((rfl | rfl) | rfl) | rfl <;> decide

/-! ## Values -/

mutual

/-- Are all numbers in a value integers? -/
def isExact : Json → Bool
  | real _ => false
  | arr items => areExact items
  | obj members => haveExact members
  | _ => true

/-- Are all numbers in the items of an array integers? -/
def areExact : List Json → Bool
  | [] => true
  | item :: items => isExact item && areExact items

/-- Are all numbers in the members of an object integers? -/
def haveExact : List (Text × Json) → Bool
  | [] => true
  | (_, value) :: members => isExact value && haveExact members

end

/-- The items of an array are exact exactly if each is. -/
theorem areExact_iff {items : List Json} :
    areExact items = true ↔ ∀ item ∈ items, item.isExact = true := by
  induction items with
  | nil => simp [areExact]
  | cons item items ih => simp [areExact, ih]

/-- The members of an object are exact exactly if each value is. -/
theorem haveExact_iff {members : List (Text × Json)} :
    haveExact members = true ↔ ∀ member ∈ members, member.2.isExact = true := by
  induction members with
  | nil => simp [haveExact]
  | cons member members ih => simp [haveExact, ih]

/-- What is enclosed begins with the first bracket. -/
theorem enclose_eq_cons (layout : Layout) (level : Nat) (first last : Char) (texts : List Text) :
    ∃ more, enclose layout level first last texts = first :: more := by
  cases texts <;> exact ⟨_, rfl⟩

/-- The text of a value begins with no gap, and not as an array ends. -/
theorem renderAt_eq_cons (layout : Layout) (level : Nat) {value : Json}
    (h : value.isExact = true) :
    ∃ c more, renderAt layout level value = c :: more ∧ isGap c = false ∧ c ≠ ']' := by
  cases value with
  | null => exact ⟨_, _, rfl, rfl, by decide⟩
  | bool value => cases value <;> exact ⟨_, _, rfl, rfl, by decide⟩
  | int value =>
      obtain ⟨c, more, hmore, hgap, hc, _⟩ := intText_eq_cons value
      exact ⟨c, more, hmore, hgap, hc⟩
  | real value => cases h
  | str text => exact ⟨_, _, rfl, rfl, by decide⟩
  | arr items =>
      obtain ⟨more, hmore⟩ :=
        enclose_eq_cons layout level '[' ']' (renderItems layout (level + 1) items)
      exact ⟨_, _, hmore, rfl, by decide⟩
  | obj members =>
      obtain ⟨more, hmore⟩ :=
        enclose_eq_cons layout level '\x7b' '\x7d' (renderMembers layout (level + 1) members)
      exact ⟨_, _, hmore, rfl, by decide⟩

/-- Texts that are joined begin as the first of them does. -/
theorem joinWith_eq_cons (separator : Text) {text : Text} (texts : List Text) {c : Char}
    {more : Text} (h : text = c :: more) :
    ∃ more, joinWith separator (text :: texts) = c :: more := by
  subst h
  cases texts with
  | nil => exact ⟨_, joinWith_singleton _ _⟩
  | cons next texts => exact ⟨_, joinWith_cons_cons _ _ _ _⟩

/-- The text of items begins as that of a value. -/
theorem joinWith_renderItems_eq_cons (layout : Layout) (level : Nat) (separator : Text)
    {items : List Json} (hne : items ≠ []) (h : areExact items = true) :
    ∃ c more, joinWith separator (renderItems layout level items) = c :: more ∧
      isGap c = false ∧ c ≠ ']' := by
  obtain ⟨item, items, rfl⟩ := List.exists_cons_of_ne_nil hne
  have hitem : item.isExact = true ∧ areExact items = true := by simpa [areExact] using h
  obtain ⟨c, more, hmore, hc⟩ := renderAt_eq_cons layout level hitem.1
  obtain ⟨behind, hbehind⟩ := joinWith_eq_cons separator (renderItems layout level items) hmore
  exact ⟨c, behind, hbehind, hc⟩

/-- The text of members begins with the quote of a name. -/
theorem joinWith_renderMembers_eq_cons (layout : Layout) (level : Nat) (separator : Text)
    {members : List (Text × Json)} (hne : members ≠ []) :
    ∃ more, joinWith separator (renderMembers layout level members) = '"' :: more := by
  obtain ⟨⟨name, value⟩, members, rfl⟩ := List.exists_cons_of_ne_nil hne
  exact joinWith_eq_cons separator (renderMembers layout level members) rfl

/-- No value is passed over behind a blank. -/
theorem skipGap_renderAt (layout : Layout) (level : Nat) {value : Json} (h : value.isExact = true)
    (rest : Text) :
    skipGap (' ' :: (renderAt layout level value ++ rest))
      = renderAt layout level value ++ rest := by
  obtain ⟨c, more, hmore, hgap, _⟩ := renderAt_eq_cons layout level h
  rw [hmore, List.cons_append]
  exact @skipGap_append [' '] (List.forall_mem_singleton.mpr rfl) _ hgap _

/-- The text of a member, with what follows it. -/
theorem memberText_append (layout : Layout) (level : Nat) (name : Text) (value : Json)
    (rest : Text) :
    stringText name ++ [':', ' '] ++ renderAt layout level value ++ rest
      = '"' :: (name.flatMap stringChar
        ++ '"' :: ':' :: ' ' :: (renderAt layout level value ++ rest)) := by
  simp [stringText]

/-- The text of a member is longer than its name and its value together. -/
theorem length_memberText (layout : Layout) (level : Nat) (name : Text) (value : Json) :
    name.length + 4 + (renderAt layout level value).length
      ≤ (stringText name ++ [':', ' '] ++ renderAt layout level value).length := by
  have hle := length_le_flatMap_stringChar name
  simp only [stringText, List.length_append, List.length_cons, List.length_nil]
  omega

/-! ## Steps of the reader -/

section Steps

variable {fuel : Nat} {text after rest : Text}

/-- Before a closing bracket the last item is read. -/
theorem readItems_last {item : Json} (hitem : readValue {} fuel text = .ok (item, after))
    (hafter : skipGap after = ']' :: rest) :
    readItems {} (fuel + 1) text = .ok ([item], rest) := by
  simp [readItems, hitem, bind, Except.bind, hafter]

/-- Before a comma an item is read, and then the others. -/
theorem readItems_next {item : Json} {items : List Json} {behind : Text}
    (hitem : readValue {} fuel text = .ok (item, after)) (hafter : skipGap after = ',' :: behind)
    (hitems : readItems {} fuel (skipGap behind) = .ok (items, rest)) :
    readItems {} (fuel + 1) text = .ok (item :: items, rest) := by
  simp [readItems, hitem, bind, Except.bind, hafter, hitems]

/-- An array is read from its items. -/
theorem readValue_arr {items : List Json} (hfirst : (skipGap text).head? ≠ some ']')
    (hitems : readItems {} fuel (skipGap text) = .ok (items, rest)) :
    readValue {} (fuel + 1) ('[' :: text) = .ok (arr items, rest) := by
  rw [readValue]
  simp only [Bounds.inside, bind, Except.bind]
  split
  · next hempty => exact absurd (congrArg List.head? hempty) hfirst
  · simp only [hitems]

/-- Before a closing brace the last member is read. -/
theorem readMembers_last {name : Text} {value : Json} {behind : Text}
    (hname : readString? fuel text = some (name, ':' :: behind))
    (hvalue : readValue {} fuel (skipGap behind) = .ok (value, after))
    (hafter : skipGap after = '\x7d' :: rest) :
    readMembers {} (fuel + 1) ('"' :: text) = .ok ([(name, value)], rest) := by
  have hcolon : skipGap (':' :: behind) = ':' :: behind := rfl
  simp [readMembers, hname, found, bind, Except.bind, hcolon, hvalue, hafter]

/-- Before a comma a member is read, and then the others. -/
theorem readMembers_next {name : Text} {value : Json} {members : List (Text × Json)}
    {behind next : Text} (hname : readString? fuel text = some (name, ':' :: behind))
    (hvalue : readValue {} fuel (skipGap behind) = .ok (value, after))
    (hafter : skipGap after = ',' :: next)
    (hmembers : readMembers {} fuel (skipGap next) = .ok (members, rest)) :
    readMembers {} (fuel + 1) ('"' :: text) = .ok ((name, value) :: members, rest) := by
  have hcolon : skipGap (':' :: behind) = ':' :: behind := rfl
  simp [readMembers, hname, found, bind, Except.bind, hcolon, hvalue, hafter, hmembers]

/-- An object is read from its members. -/
theorem readValue_obj {members : List (Text × Json)} (hfirst : (skipGap text).head? = some '"')
    (hmembers : readMembers {} fuel (skipGap text) = .ok (members, rest)) :
    readValue {} (fuel + 1) ('\x7b' :: text) = .ok (obj members, rest) := by
  rw [readValue]
  simp only [Bounds.inside, bind, Except.bind]
  split
  · next hempty =>
      rw [hempty] at hfirst
      cases hfirst
  · simp only [hmembers]

/-- What is neither an array nor an object is read as an atom. -/
theorem readValue_atom {c : Char} (harr : c ≠ '[') (hobj : c ≠ '\x7b') :
    readValue {} (fuel + 1) (c :: text) = readAtom {} fuel (c :: text) := by
  rw [readValue]
  · simpa using harr
  · simpa using hobj

end Steps

/-! ## The round trip

The recursion is that of the writer.  Each array and object costs the reader one step for
itself and one for each part, and has a character more for each, so the length is enough. -/

mutual

/-- A value is read back from its text, whatever follows that cannot go on with it. -/
theorem readValue_renderAt (layout : Layout) (level : Nat) :
    (value : Json) → value.isExact = true → ∀ fuel rest,
      (renderAt layout level value).length ≤ fuel → EndsNumber rest →
        readValue {} fuel (renderAt layout level value ++ rest) = .ok (value, rest)
  | value, hexact, 0, rest, hfuel, _ => by
    obtain ⟨c, more, hmore, _⟩ := renderAt_eq_cons layout level hexact
    rw [hmore] at hfuel
    cases hfuel
  | .null, _, fuel + 1, rest, _, _ => rfl
  | .bool true, _, fuel + 1, rest, _, _ => rfl
  | .bool false, _, fuel + 1, rest, _, _ => rfl
  | .int value, _, fuel + 1, rest, _, hrest => by
    obtain ⟨c, more, hmore, _, _, harr, hobj⟩ := intText_eq_cons value
    have hread := readAtom_intText value fuel hrest
    rw [renderAt]
    rw [hmore, List.cons_append] at hread ⊢
    rw [readValue_atom harr hobj, hread]
  | .str text, _, fuel + 1, rest, hfuel, _ => by
    have hle := length_le_flatMap_stringChar text
    simp only [renderAt, stringText, List.cons_append, List.append_assoc, List.nil_append,
      List.length_cons, List.length_append] at hfuel ⊢
    have hread := @readString?_flatMap text fuel (by omega) rest
    rw [readValue_atom (by decide) (by decide), readAtom, hread]
    rfl
  | .arr [], _, fuel + 1, rest, _, _ => rfl
  | .arr (item :: items), hexact, fuel + 1, rest, hfuel, _ => by
    obtain ⟨blanks, hbetween, hblanks⟩ := between_eq layout (level + 1)
    obtain ⟨c, behind, hbehind, hgap, hc⟩ := joinWith_renderItems_eq_cons layout (level + 1)
      (',' :: blanks) (List.cons_ne_nil item items) hexact
    rw [renderAt, renderItems, enclose, hbetween, ← renderItems] at hfuel ⊢
    have hmore := readItems_renderItems layout (level + 1) hblanks (item :: items)
      (List.cons_ne_nil _ _) hexact fuel (layout.lineStart level) rest
      (by simp only [List.length_cons, List.length_append] at hfuel; omega) isGap_of_mem_lineStart
    rw [hbehind, List.cons_append] at hmore
    simp only [hbehind, List.append_assoc, List.cons_append, List.nil_append]
    refine readValue_arr ?_ ?_
    · rw [skipGap_append isGap_of_mem_lineStart hgap]
      simpa using hc
    · rw [skipGap_append isGap_of_mem_lineStart hgap]
      exact hmore
  | .obj [], _, fuel + 1, rest, _, _ => rfl
  | .obj ((name, value) :: members), hexact, fuel + 1, rest, hfuel, _ => by
    obtain ⟨blanks, hbetween, hblanks⟩ := between_eq layout (level + 1)
    obtain ⟨behind, hbehind⟩ := joinWith_renderMembers_eq_cons layout (level + 1)
      (',' :: blanks) (List.cons_ne_nil (name, value) members)
    rw [renderAt, renderMembers, enclose, hbetween, ← renderMembers] at hfuel ⊢
    have hmore := readMembers_renderMembers layout (level + 1) hblanks ((name, value) :: members)
      (List.cons_ne_nil _ _) hexact fuel (layout.lineStart level) rest
      (by simp only [List.length_cons, List.length_append] at hfuel; omega) isGap_of_mem_lineStart
    rw [hbehind, List.cons_append] at hmore
    simp only [hbehind, List.append_assoc, List.cons_append, List.nil_append]
    refine readValue_obj ?_ ?_
    · rw [skipGap_append isGap_of_mem_lineStart rfl]
      rfl
    · rw [skipGap_append isGap_of_mem_lineStart rfl]
      exact hmore

/-- Items are read back from their texts, with the end of the array behind gaps. -/
theorem readItems_renderItems (layout : Layout) (level : Nat) {blanks : Text}
    (hblanks : ∀ c ∈ blanks, isGap c = true) :
    (items : List Json) → items ≠ [] → areExact items = true → ∀ fuel gaps rest,
      (joinWith (',' :: blanks) (renderItems layout level items)).length < fuel →
      (∀ c ∈ gaps, isGap c = true) →
        readItems {} fuel (joinWith (',' :: blanks) (renderItems layout level items)
          ++ (gaps ++ ']' :: rest)) = .ok (items, rest)
  | [], hne, _, _, _, _, _, _ => absurd rfl hne
  | [item], _, hexact, fuel + 1, gaps, rest, hfuel, hgaps => by
    have hitem : item.isExact = true := by simpa [areExact] using hexact
    have hends : EndsNumber (gaps ++ ']' :: rest) := endsNumber_append hgaps (by decide) rest
    simp only [renderItems, joinWith_singleton] at hfuel ⊢
    exact readItems_last (readValue_renderAt layout level item hitem fuel _ (by omega) hends)
      (skipGap_append hgaps rfl _)
  | item :: next :: items, _, hexact, fuel + 1, gaps, rest, hfuel, hgaps => by
    obtain ⟨hitem, hnext, hitems⟩ : item.isExact = true ∧ next.isExact = true ∧
        areExact items = true := by simpa [areExact] using hexact
    simp only [renderItems, joinWith_cons_cons, List.length_append, List.length_cons] at hfuel
    have hmore := readItems_renderItems layout level hblanks (next :: items)
      (List.cons_ne_nil _ _) (by simp [areExact, hnext, hitems]) fuel gaps rest
      (by simp only [renderItems]; omega) hgaps
    obtain ⟨c, behind, hbehind, hgap, _⟩ := joinWith_renderItems_eq_cons layout level
      (',' :: blanks) (List.cons_ne_nil next items) (by simp [areExact, hnext, hitems])
    simp only [renderItems] at hmore hbehind
    simp only [renderItems, joinWith_cons_cons]
    rw [hbehind, List.cons_append] at hmore
    simp only [hbehind, List.append_assoc, List.cons_append]
    refine readItems_next (readValue_renderAt layout level item hitem fuel _ (by omega)
      (endsNumber_cons (by decide))) (skipGap_cons rfl _) ?_
    rw [skipGap_append hblanks hgap]
    exact hmore

/-- Members are read back from their texts, with the end of the object behind gaps. -/
theorem readMembers_renderMembers (layout : Layout) (level : Nat) {blanks : Text}
    (hblanks : ∀ c ∈ blanks, isGap c = true) :
    (members : List (Text × Json)) → members ≠ [] → haveExact members = true →
      ∀ fuel gaps rest,
        (joinWith (',' :: blanks) (renderMembers layout level members)).length < fuel →
        (∀ c ∈ gaps, isGap c = true) →
          readMembers {} fuel (joinWith (',' :: blanks) (renderMembers layout level members)
            ++ (gaps ++ '\x7d' :: rest)) = .ok (members, rest)
  | [], hne, _, _, _, _, _, _ => absurd rfl hne
  | [(name, value)], _, hexact, fuel + 1, gaps, rest, hfuel, hgaps => by
    have hvalue : value.isExact = true := by simpa [haveExact] using hexact
    have hends : EndsNumber (gaps ++ '\x7d' :: rest) := endsNumber_append hgaps (by decide) rest
    simp only [renderMembers, joinWith_singleton, memberText_append] at hfuel ⊢
    have hlength := length_memberText layout level name value
    refine readMembers_last (readString?_flatMap name (by omega) _) ?_ (skipGap_append hgaps rfl _)
    rw [skipGap_renderAt layout level hvalue]
    exact readValue_renderAt layout level value hvalue fuel _ (by omega) hends
  | (name, value) :: (key, other) :: members, _, hexact, fuel + 1, gaps, rest, hfuel, hgaps => by
    obtain ⟨hvalue, hmembers⟩ :
        value.isExact = true ∧ haveExact ((key, other) :: members) = true := by
      simpa [haveExact] using hexact
    obtain ⟨behind, hbehind⟩ := joinWith_renderMembers_eq_cons layout level (',' :: blanks)
      (List.cons_ne_nil (key, other) members)
    have hlength := length_memberText layout level name value
    rw [renderMembers, renderMembers, joinWith_cons_cons, ← renderMembers] at hfuel ⊢
    simp only [List.length_append, List.length_cons] at hfuel hlength
    have hmore := readMembers_renderMembers layout level hblanks ((key, other) :: members)
      (List.cons_ne_nil _ _) hmembers fuel gaps rest (by omega) hgaps
    rw [hbehind, List.cons_append] at hmore
    rw [hbehind, List.append_assoc, memberText_append, List.append_assoc, List.cons_append,
      List.cons_append]
    have hread := readValue_renderAt layout level value hvalue fuel
      (',' :: (blanks ++ '"' :: (behind ++ (gaps ++ '\x7d' :: rest)))) (by omega)
      (endsNumber_cons (by decide))
    rw [← skipGap_renderAt layout level hvalue] at hread
    refine readMembers_next (readString?_flatMap name (by omega) _) hread (skipGap_cons rfl _) ?_
    rw [skipGap_append hblanks rfl]
    exact hmore

end

/-- **A value without reals is read back from its text, in every layout**, with gaps behind. -/
theorem read?_render (layout : Layout) {value : Json} (hexact : value.isExact = true)
    {gaps : Text} (hgaps : ∀ c ∈ gaps, isGap c = true) :
    read? (value.render layout ++ gaps) = some value := by
  have hends : EndsNumber gaps := by
    have hbracket := @endsNumber_append gaps hgaps ']' (by decide) []
    cases gaps with
    | nil => exact nofun
    | cons gap gaps => exact hbracket
  have hread := readValue_renderAt layout 0 value hexact
    (2 * (value.render layout ++ gaps).length + 1) gaps
    (by rw [render, List.length_append]; omega) hends
  have hstart : skipGap (value.render layout ++ gaps) = value.render layout ++ gaps := by
    obtain ⟨c, more, hmore, hgap, _⟩ := renderAt_eq_cons layout 0 hexact
    rw [render, hmore, List.cons_append]
    exact skipGap_cons hgap _
  have hend : skipGap (gaps ++ []) = skipGap [] := List.dropWhile_append_of_pos hgaps
  rw [List.append_nil] at hend
  rw [read?, read, hstart]
  rw [render] at hread ⊢
  simp only [bind, Except.bind, hread, hend]
  rfl

end Flowchart.Json
