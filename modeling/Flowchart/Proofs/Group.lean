import Flowchart.Proofs.Blank
import Flowchart.Proofs.Shape

/-!
# Where a group ends

Groups are counted by their depth, and closing brackets are not told apart.  So a
group without another one in it ends at the first closing bracket behind its opener,
whatever its kind: what stands between is masked away, and what stands behind is read
as if no group had been there.  A group ends at its own closing bracket exactly where
its label holds no other one.

Main statement: `maskShapes_first_closer`.
-/

namespace Flowchart

/-- A text without openers has no brackets up to its first closing bracket. -/
theorem exists_first_closer {text : Text} (hopeners : ∀ c ∈ text, isOpener c = false)
    (hclosers : ∃ c ∈ text, isCloser c = true) :
    ∃ front closer back, text = front ++ closer :: back ∧
      (∀ c ∈ front, isBracket c = false) ∧ isCloser closer = true := by
  obtain ⟨closer, hfound⟩ := Option.isSome_iff_exists.mp (List.find?_isSome.mpr hclosers)
  obtain ⟨hcloser, front, back, htext, hbefore⟩ := List.find?_eq_some_iff_append.mp hfound
  refine ⟨front, closer, back, htext, ?_, hcloser⟩
  intro c hc
  have hnot : isCloser c = false := by simpa using hbefore c hc
  have hopener : isOpener c = false := hopeners c (by simp [htext, hc])
  rw [isBracket, hopener, hnot, Bool.or_false]

/-- A group without brackets in it ends at the closing bracket behind, of whatever kind. -/
theorem maskShapes_closer {before front : Text} (hbefore : ∀ c ∈ before, isBracket c = false)
    (hfront : ∀ c ∈ front, isBracket c = false) (bracket : Bracket) {closer : Char}
    (hcloser : isCloser closer = true) (rest : Text) :
    maskShapes (before ++ bracket.opener :: front ++ closer :: rest)
      = before ++ bracket.opener :: closer :: maskShapes rest := by
  have hbalanced := (nested_of_not_bracket hfront).balanced
  rw [List.append_assoc, maskShapes_append fun c hc => isOpener_of_not_bracket (hbefore c hc)]
  exact congrArg (before ++ ·) (hbalanced.maskShapes_group bracket.isOpener_opener hcloser rest)

/-- **A group ends at the first closing bracket.** Of the closing brackets in a label without
openers, and the one behind it, the first ends the group whatever its kind, and the rest of the
label is read as what stands outside.  So the group ends at its own bracket exactly where there
is no closing bracket in the label. -/
theorem maskShapes_first_closer (bracket : Bracket) {before label : Text}
    (hbefore : ∀ c ∈ before, isBracket c = false)
    (hlabel : ∀ c ∈ label, isOpener c = false ∧ c ≠ bracket.closer) (behind : Text) :
    (∃ front closer back, label ++ [bracket.closer] = front ++ closer :: back ∧
        (∀ c ∈ front, isBracket c = false) ∧ isCloser closer = true ∧
        maskShapes (before ++ bracket.opener :: label ++ bracket.closer :: behind)
          = before ++ bracket.opener :: closer :: maskShapes (back ++ behind)) ∧
      (maskShapes (before ++ bracket.opener :: label ++ bracket.closer :: behind)
          = before ++ bracket.opener :: bracket.closer :: maskShapes behind
        ↔ ∀ c ∈ label, isCloser c = false) := by
  by_cases hclosers : ∃ c ∈ label, isCloser c = true
  · obtain ⟨front, closer, back, rfl, hfront, hcloser⟩ :=
      exists_first_closer (fun c hc => (hlabel c hc).1) hclosers
    have hother : closer ≠ bracket.closer := (hlabel closer (by simp)).2
    have hmask := maskShapes_closer hbefore hfront bracket hcloser
      (back ++ bracket.closer :: behind)
    have htext : before ++ bracket.opener :: (front ++ closer :: back) ++ bracket.closer :: behind
        = before ++ bracket.opener :: front ++ closer :: (back ++ bracket.closer :: behind) := by
      simp
    rw [htext, hmask]
    refine ⟨⟨front, closer, back ++ [bracket.closer], by simp, hfront, hcloser, by simp⟩, ?_⟩
    constructor
    · intro hown
      simp [hother] at hown
    · intro hnone
      rw [hnone closer (by simp)] at hcloser
      cases hcloser
  · have hnone : ∀ c ∈ label, isCloser c = false := by simpa using hclosers
    have hplain : ∀ c ∈ label, isBracket c = false := by
      intro c hc
      rw [isBracket, (hlabel c hc).1, hnone c hc, Bool.or_false]
    have hmask := maskShapes_closer hbefore hplain bracket bracket.isCloser_closer behind
    exact ⟨⟨label, bracket.closer, [], rfl, hplain, bracket.isCloser_closer, hmask⟩,
      iff_of_true hmask hnone⟩

/-- A label with a stray closing bracket before what could be read as an edge. -/
def strayLabel : Text :=
  "1) Start --> x".toList

/-- The stray bracket ends the group: the arrow in the label stays, and the bracket of the group
is left over. -/
theorem maskShapes_first_closer_stray :
    (∀ c ∈ "A".toList, isBracket c = false) ∧
      (∀ c ∈ strayLabel, isOpener c = false ∧ c ≠ Bracket.square.closer) ∧
      ¬ (∀ c ∈ strayLabel, isCloser c = false) ∧
      maskShapes ("A".toList ++ '[' :: strayLabel ++ ']' :: " --> B[y]".toList)
        ≠ "A".toList ++ '[' :: ']' :: maskShapes " --> B[y]".toList ∧
      maskShapes ("A".toList ++ '[' :: strayLabel ++ ']' :: " --> B[y]".toList)
        = "A[) Start --> x] --> B[]".toList := by
  have hbefore : ∀ c ∈ "A".toList, isBracket c = false := forall_mem_of_all rfl
  have hlabel : ∀ c ∈ strayLabel, isOpener c = false ∧ c ≠ Bracket.square.closer :=
    forall_mem_of_all rfl
  have hstray : ¬ ∀ c ∈ strayLabel, isCloser c = false := by
    intro hnone
    exact absurd (hnone ')' (by decide)) (by decide)
  have hends := (maskShapes_first_closer .square hbefore hlabel " --> B[y]".toList).2
  exact ⟨hbefore, hlabel, hstray, mt hends.mp hstray, by decide⟩

/-- The bracket behind a list number in a label is taken for that of the group. -/
theorem maskShapes_listNumber :
    maskShapes "A[1) Start]".toList = "A[) Start]".toList ∧
      ¬ ∀ (bracket : Bracket) (before label behind : Text),
        (∀ c ∈ before, isBracket c = false) →
        (∀ c ∈ label, isOpener c = false ∧ c ≠ bracket.closer) →
        maskShapes (before ++ bracket.opener :: label ++ bracket.closer :: behind)
          = before ++ bracket.opener :: bracket.closer :: maskShapes behind := by
  refine ⟨by decide, ?_⟩
  intro hall
  have hown := hall .square "A".toList "1) Start".toList [] (forall_mem_of_all rfl)
    (forall_mem_of_all rfl)
  exact absurd hown (by decide)

end Flowchart
