import Flowchart.Proofs.Clean.Label

/-!
# Cleaning nested texts

In a nested text an innermost group of one kind is a bracket and its partner.  So exchanging
these groups goes on inside all other groups and never across their brackets: what is nested
is changed by itself, whatever stands behind it, and stays nested if a nested text takes the
place of each group.

Main statements: `Nested.replaceEach_append`, `Nested.replaceEach`.
-/

namespace Flowchart

section Nested

variable {bracket kind : Bracket} {c : Char} {text label rest : Text}

/-- What is no bracket of any kind is none of one kind. -/
theorem Bracket.isMark_of_not_bracket (kind : Bracket) (h : isBracket c = false) :
    kind.isMark c = false := by
  refine Bracket.isMark_eq_false_iff.mpr ⟨?_, ?_⟩
  · rintro rfl
    simp [isBracket, kind.isOpener_opener] at h
  · rintro rfl
    simp [isBracket, kind.isCloser_closer] at h

/-- The brackets of one kind are no brackets of another. -/
theorem Bracket.isMark_of_ne (h : bracket ≠ kind) :
    kind.isMark bracket.opener = false ∧ kind.isMark bracket.closer = false := by
  cases bracket <;> cases kind <;> first | exact absurd rfl h | decide

/-- Of the brackets of one kind in a nested text, none that closes is the first. -/
theorem Nested.find?_ne_closer (kind : Bracket) (h : Nested text) :
    text.find? kind.isMark ≠ some kind.closer := by
  induction h with
  | nil => exact nofun
  | plain hplain _ ih =>
      rwa [List.find?_cons_of_neg (by simp [kind.isMark_of_not_bracket hplain])]
  | @group label rest bracket _ _ ihLabel ihRest =>
      rw [List.cons_append]
      by_cases hkind : bracket = kind
      · subst hkind
        rw [List.find?_cons_of_pos bracket.isMark_opener]
        exact fun heq => bracket.closer_ne_opener (Option.some.inj heq).symm
      · obtain ⟨hopener, hcloser⟩ := Bracket.isMark_of_ne hkind
        rw [List.find?_cons_of_neg (by simp [hopener]), List.find?_append,
          List.find?_cons_of_neg (by simp [hcloser])]
        cases hlabel : label.find? kind.isMark with
        | none => exact ihRest
        | some mark =>
            rw [hlabel] at ihLabel
            exact ihLabel

/-- No group begins at a character that is no bracket. -/
theorem Bracket.groups_of_not_bracket (kind : Bracket) (h : isBracket c = false) (rest : Text) :
    kind.groups none (c :: rest) = none := by
  refine Bracket.groups_eq_none_iff.mpr fun hopener => ?_
  rw [hopener, isBracket, kind.isOpener_opener] at h
  cases h

/-- No group begins at a bracket that closes one. -/
theorem Bracket.groups_closer (kind bracket : Bracket) (rest : Text) :
    kind.groups none (bracket.closer :: rest) = none := by
  refine Bracket.groups_eq_none_iff.mpr fun hopener => ?_
  have hcloser := bracket.isOpener_closer
  rw [hopener, kind.isOpener_opener] at hcloser
  cases hcloser

/-- Around a nested label no group of a kind begins that is not that of the brackets, or that
has brackets in the label. -/
theorem Nested.groups_opener (h : Nested label) (hkept : bracket = kind → ¬ kind.Absent label)
    (rest : Text) :
    kind.groups none (bracket.opener :: (label ++ bracket.closer :: rest)) = none := by
  refine Bracket.groups_eq_none_iff.mpr fun hopener => ?_
  obtain rfl : bracket = kind := by
    cases bracket <;> cases kind <;> first | rfl | exact absurd hopener (by decide)
  have hfirst := h.find?_ne_closer bracket
  rw [List.find?_append]
  cases hlabel : label.find? bracket.isMark with
  | none => exact absurd (fun c hc => by simpa using List.find?_eq_none.mp hlabel c hc) (hkept rfl)
  | some mark =>
      rw [hlabel] at hfirst
      exact hfirst

/-! ## Exchanging groups in nested texts -/

variable (kind) (change : Text → Text)

/-- Brackets around a nested label that are no group to be changed are kept, if the label is
changed by itself. -/
theorem Nested.replaceEach_around (h : Nested label)
    (hkept : bracket = kind → ¬ kind.Absent label)
    (hlabel : ∀ rest, replaceEach kind.groups change (label ++ rest)
      = replaceEach kind.groups change label ++ replaceEach kind.groups change rest)
    (rest : Text) :
    replaceEach kind.groups change (bracket.opener :: label ++ bracket.closer :: rest)
      = bracket.opener :: replaceEach kind.groups change label
        ++ bracket.closer :: replaceEach kind.groups change rest := by
  rw [List.cons_append, Bracket.replaceEach_plain change (h.groups_opener hkept rest), hlabel,
    Bracket.replaceEach_plain change (kind.groups_closer bracket rest), List.cons_append]

/-- What is nested is changed by itself, whatever stands behind it. -/
theorem Nested.replaceEach_append (h : Nested text) (rest : Text) :
    replaceEach kind.groups change (text ++ rest)
      = replaceEach kind.groups change text ++ replaceEach kind.groups change rest := by
  induction h generalizing rest with
  | nil => rfl
  | @plain c text hplain _ ih =>
      have hnone := kind.groups_of_not_bracket hplain
      rw [List.cons_append, Bracket.replaceEach_plain change (hnone (text ++ rest)),
        Bracket.replaceEach_plain change (hnone text), ih, List.cons_append]
  | @group label text bracket hlabel _ ihLabel ihRest =>
      have hregroup : bracket.opener :: label ++ bracket.closer :: text ++ rest
          = bracket.opener :: label ++ bracket.closer :: (text ++ rest) := by simp
      rw [hregroup]
      by_cases hgroup : bracket = kind ∧ kind.Absent label
      · obtain ⟨rfl, habsent⟩ := hgroup
        rw [habsent.replaceEach_group, habsent.replaceEach_group, ihRest, List.append_assoc]
      · have hkept := hlabel.replaceEach_around kind change
          (fun hkind habsent => hgroup ⟨hkind, habsent⟩) ihLabel
        rw [hkept, hkept, ihRest]
        simp

/-- Brackets around a nested label that are no group to be changed are kept. -/
theorem Nested.replaceEach_kept (h : Nested label)
    (hkept : bracket = kind → ¬ kind.Absent label) (rest : Text) :
    replaceEach kind.groups change (bracket.opener :: label ++ bracket.closer :: rest)
      = bracket.opener :: replaceEach kind.groups change label
        ++ bracket.closer :: replaceEach kind.groups change rest :=
  h.replaceEach_around kind change hkept (h.replaceEach_append kind change) rest

/-- A nested text stays nested if what takes the place of each group is nested. -/
theorem Nested.replaceEach
    (hchange : ∀ inside, kind.Absent inside → Nested inside →
      Nested (change (kind.opener :: inside ++ [kind.closer])))
    (h : Nested text) : Nested (replaceEach kind.groups change text) := by
  induction h with
  | nil => exact Nested.nil
  | @plain c text hplain _ ih =>
      rw [Bracket.replaceEach_plain change (kind.groups_of_not_bracket hplain text)]
      exact Nested.plain hplain ih
  | @group label text bracket hlabel _ ihLabel ihRest =>
      by_cases hgroup : bracket = kind ∧ kind.Absent label
      · obtain ⟨rfl, habsent⟩ := hgroup
        rw [habsent.replaceEach_group]
        exact (hchange label habsent hlabel).append ihRest
      · rw [hlabel.replaceEach_kept kind change fun hkind habsent => hgroup ⟨hkind, habsent⟩]
        exact Nested.group bracket ihLabel ihRest

end Nested

/-! ## The two cleanings -/

/-- What cleaning makes of a label in the brackets. -/
def Bracket.cleaned (bracket : Bracket) (label : Text) : Text :=
  if bracket = .square ∧ Bracket.square.Absent label then dropParentheses label
  else cleanLabels label

section Cleaning

variable {text label : Text}

/-- A nested text stays nested when its parentheses are dropped. -/
theorem nested_dropParentheses (h : Nested text) : Nested (dropParentheses text) := by
  refine h.replaceEach .round insideOf fun inside _ hinside => ?_
  rwa [Bracket.insideOf_group]

/-- A nested text stays nested when it is cleaned. -/
theorem nested_cleanLabels (h : Nested text) : Nested (cleanLabels text) := by
  refine h.replaceEach .square _ fun inside _ hinside => ?_
  rw [Bracket.insideOf_group]
  exact Nested.group .square (nested_dropParentheses hinside) Nested.nil

/-- A nested text is cleaned by itself. -/
theorem Nested.cleanLabels_append (h : Nested text) (rest : Text) :
    cleanLabels (text ++ rest) = cleanLabels text ++ cleanLabels rest :=
  h.replaceEach_append .square _ rest

/-- What cleaning makes of a label stands in it in the same order. -/
theorem Bracket.cleaned_sublist (bracket : Bracket) (label : Text) :
    (bracket.cleaned label).Sublist label := by
  unfold Bracket.cleaned
  split
  · exact dropParentheses_sublist label
  · exact cleanLabels_sublist label

/-- A nested label stays nested when it is cleaned. -/
theorem Bracket.nested_cleaned (bracket : Bracket) (h : Nested label) :
    Nested (bracket.cleaned label) := by
  unfold Bracket.cleaned
  split
  · exact nested_dropParentheses h
  · exact nested_cleanLabels h

/-- Cleaning keeps the brackets around a nested label. -/
theorem Nested.cleanLabels_group (h : Nested label) (bracket : Bracket) (rest : Text) :
    cleanLabels (bracket.opener :: label ++ bracket.closer :: rest)
      = bracket.opener :: bracket.cleaned label ++ bracket.closer :: cleanLabels rest := by
  by_cases hlabel : bracket = .square ∧ Bracket.square.Absent label
  · obtain ⟨rfl, habsent⟩ := hlabel
    rw [Bracket.cleaned, if_pos ⟨rfl, habsent⟩]
    exact Flowchart.cleanLabels_group habsent rest
  · rw [Bracket.cleaned, if_neg hlabel]
    exact h.replaceEach_kept .square _ (fun hsquare habsent => hlabel ⟨hsquare, habsent⟩) rest

/-- In a text without brackets there is nothing to clean. -/
theorem cleanLabels_of_not_bracket (h : ∀ c ∈ text, isBracket c = false) :
    cleanLabels text = text := by
  induction text with
  | nil => rfl
  | cons c text ih =>
      have hnone := Bracket.square.groups_of_not_bracket (h c List.mem_cons_self) text
      rw [cleanLabels_plain hnone, ih fun d hd => h d (List.mem_cons_of_mem c hd)]

end Cleaning

end Flowchart
