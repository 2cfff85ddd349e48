import Flowchart.Text

/-!
# Parts of a text

A part is looked for from the front, and is found exactly where it first stands.
It is exchanged there too: behind a front that holds nothing with which the part
could begin, whatever follows it.

Main statements: `indexOf?_eq_some_iff`, `replaceFirst?_append`, `replaceFirst?_eq_map`.
-/

namespace Flowchart

/-! ## The first place -/

/-- The part stands behind as many characters of the text as the offset says, and
nowhere before. -/
structure StandsFirst (part text : Text) (offset : Nat) : Prop where
  /-- The part stands there. -/
  stands : ∃ front back, text = front ++ (part ++ back) ∧ front.length = offset
  /-- Wherever it stands, as many characters stand before it. -/
  first : ∀ front back, text = front ++ (part ++ back) → offset ≤ front.length

/-- A part at the front of a text stands there first. -/
theorem standsFirst_iff_of_front {part text : Text} {offset : Nat} (h : part <+: text) :
    StandsFirst part text offset ↔ 0 = offset := by
  obtain ⟨back, rfl⟩ := h
  constructor
  · intro hstands
    exact (Nat.le_zero.mp (hstands.first [] back rfl)).symm
  · rintro rfl
    exact ⟨⟨[], back, rfl, rfl⟩, fun front _ _ => Nat.zero_le front.length⟩

/-- Behind a character with which the part does not begin there, it stands one place
further on. -/
theorem standsFirst_cons_iff {part text : Text} {c : Char} {offset : Nat}
    (h : ¬ part <+: c :: text) :
    StandsFirst part (c :: text) offset ↔ ∃ place, StandsFirst part text place ∧
      place + 1 = offset := by
  constructor
  · rintro ⟨⟨front, back, htext, rfl⟩, hfirst⟩
    cases front with
    | nil => exact absurd ⟨back, htext.symm⟩ h
    | cons d front =>
        obtain ⟨rfl, hrest⟩ := List.cons.inj htext
        refine ⟨front.length, ⟨⟨front, back, hrest, rfl⟩, fun other rest hother => ?_⟩, rfl⟩
        have hle := hfirst (c :: other) rest (by rw [hother, List.cons_append])
        simpa using hle
  · rintro ⟨place, ⟨⟨front, back, htext, rfl⟩, hfirst⟩, rfl⟩
    refine ⟨⟨c :: front, back, by rw [htext, List.cons_append], rfl⟩, fun other rest hother => ?_⟩
    cases other with
    | nil => exact absurd ⟨rest, hother.symm⟩ h
    | cons d other =>
        have hle := hfirst other rest (List.cons.inj hother).2
        simpa using hle

/-- A part is found exactly where it stands first. -/
theorem indexOf?_eq_some_iff {part text : Text} {offset : Nat} :
    indexOf? part text = some offset ↔ StandsFirst part text offset := by
  induction text generalizing offset with
  | nil =>
      cases part with
      | nil =>
          rw [standsFirst_iff_of_front List.prefix_rfl]
          exact Option.some_inj
      | cons c part =>
          refine ⟨nofun, fun h => ?_⟩
          obtain ⟨front, back, htext, _⟩ := h.stands
          simp at htext
  | cons c text ih =>
      unfold indexOf?
      by_cases hfront : part <+: c :: text
      · rw [if_pos (List.isPrefixOf_iff_prefix.mpr hfront), standsFirst_iff_of_front hfront,
          Option.some_inj]
      · rw [if_neg (mt List.isPrefixOf_iff_prefix.mp hfront), standsFirst_cons_iff hfront,
          Option.map_eq_some_iff]
        exact exists_congr fun place => and_congr_left fun _ => ih

/-- A part is contained where it stands in the text. -/
theorem contains_iff_infix {part text : Text} : contains part text = true ↔ part <:+: text := by
  unfold contains
  induction text with
  | nil => cases part <;> simp [indexOf?]
  | cons c text ih =>
      rw [List.infix_cons_iff, ← List.isPrefixOf_iff_prefix, ← ih, indexOf?]
      by_cases hfront : part.isPrefixOf (c :: text) = true
      · simp [hfront]
      · simp [hfront]

/-! ## Exchanging a part -/

/-- A part is exchanged where it stands, if it can begin nowhere in front of that. -/
theorem replaceFirst?_append {part new front rest : Text} (hne : part ≠ [])
    (hfront : ∀ c ∈ front, part.head? ≠ some c) :
    replaceFirst? part new (front ++ (part ++ rest)) = some (front ++ (new ++ rest)) := by
  induction front with
  | nil =>
      obtain ⟨c, more, rfl⟩ := List.exists_cons_of_ne_nil hne
      simp [replaceFirst?]
  | cons c front ih =>
      obtain ⟨d, more, rfl⟩ := List.exists_cons_of_ne_nil hne
      have hd : d ≠ c := by simpa using hfront c List.mem_cons_self
      have hrest := ih fun e he => hfront e (List.mem_cons_of_mem c he)
      rw [List.cons_append, replaceFirst?, hrest]
      simp [List.isPrefixOf, hd]

/-- A part is exchanged where it is found. -/
theorem replaceFirst?_eq_map (part new text : Text) :
    replaceFirst? part new text
      = (indexOf? part text).map fun offset =>
          text.take offset ++ (new ++ text.drop (offset + part.length)) := by
  induction text with
  | nil => cases part <;> simp [replaceFirst?, indexOf?]
  | cons c text ih =>
      rw [replaceFirst?, indexOf?]
      split
      · simp
      · rw [ih, Option.map_map, Option.map_map]
        refine congrArg (Option.map · _) (funext fun offset => ?_)
        simp [Nat.add_right_comm]

/-- A part is exchanged as soon as there is one. -/
theorem replaceFirst?_eq_none_iff {part new text : Text} :
    replaceFirst? part new text = none ↔ ¬ part <:+: text := by
  rw [replaceFirst?_eq_map, Option.map_eq_none_iff, ← contains_iff_infix, contains]
  simp

/-- Where a part was exchanged, the same stands around it as before. -/
theorem exists_of_replaceFirst?_eq_some {part new text result : Text}
    (h : replaceFirst? part new text = some result) :
    ∃ before behind, text = before ++ (part ++ behind) ∧ result = before ++ (new ++ behind) := by
  rw [replaceFirst?_eq_map] at h
  obtain ⟨offset, hoffset, rfl⟩ := Option.map_eq_some_iff.mp h
  obtain ⟨before, behind, rfl, rfl⟩ := (indexOf?_eq_some_iff.mp hoffset).stands
  exact ⟨before, behind, rfl, by simp [← List.drop_drop]⟩

/-! ## Joined texts -/

/-- A single text is left as it is. -/
theorem joinWith_singleton (separator text : Text) : joinWith separator [text] = text := by
  simp [joinWith]

/-- Two texts have the separator between them. -/
theorem joinWith_cons_cons (separator text next : Text) (texts : List Text) :
    joinWith separator (text :: next :: texts)
      = text ++ (separator ++ joinWith separator (next :: texts)) := by
  simp [joinWith, List.intercalate]

/-- A character of joined texts is one of a text or of the separator. -/
theorem mem_joinWith {separator : Text} {texts : List Text} {c : Char}
    (h : c ∈ joinWith separator texts) : c ∈ separator ∨ ∃ text ∈ texts, c ∈ text := by
  induction texts with
  | nil => cases h
  | cons text texts ih =>
      cases texts with
      | nil =>
          rw [joinWith_singleton] at h
          exact Or.inr ⟨text, List.mem_cons_self, h⟩
      | cons next texts =>
          rw [joinWith_cons_cons] at h
          rcases List.mem_append.mp h with htext | hrest
          · exact Or.inr ⟨text, List.mem_cons_self, htext⟩
          · rcases List.mem_append.mp hrest with hseparator | hmore
            · exact Or.inl hseparator
            · rcases ih hmore with hseparator | ⟨other, hother, hc⟩
              · exact Or.inl hseparator
              · exact Or.inr ⟨other, List.mem_cons_of_mem text hother, hc⟩

end Flowchart
