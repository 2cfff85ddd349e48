import Flowchart.Proofs.Fix.Redirect

/-!
# Candidates change the text

A text has a line more than it has line feeds, and joined lines have a line feed between
each and the next.  So a fix that leaves more lines changes the text, whatever the lines
hold; and one that redirects a header leaves a line that is not reported.  No candidate of
a reported issue is stale, and none leaves the text as it is.

Main statement: `apply_ne_of_mem_candidates`.
-/

namespace Flowchart

/-- Every line feed ends a line, and nothing else does. -/
theorem length_splitLines (text : Text) : (splitLines text).length = text.count '\n' + 1 := by
  fun_induction splitLines text with
  | case1 => rfl
  | case2 rest ih => simp [ih]
  | case3 rest ih => simp [ih]
  | case4 c rest hpair hfeed ih =>
      have hc : c ≠ '\n' := fun hc => hfeed hc
      rw [List.count_cons_of_ne hc, ← ih]
      cases hsplit : splitLines rest with
      | nil => exact absurd hsplit (splitLines_ne_nil rest)
      | cons first more => rfl

/-- Between any two lines there is a line feed. -/
theorem length_le_count_joinLines (newline : Newline) (lines : List Text) :
    lines.length ≤ (joinLines newline.text lines).count '\n' + 1 := by
  induction lines with
  | nil => exact Nat.zero_le _
  | cons line lines ih =>
      cases lines with
      | nil => simp
      | cons next lines =>
          have hfeed : newline.text.count '\n' = 1 := by cases newline <;> rfl
          rw [joinLines_cons_cons, List.count_append, List.count_append, hfeed]
          rw [List.length_cons]
          omega

/-- More lines are another text. -/
theorem apply_ne_of_longer {fix : Fix} {source : Text} {lines : List Text}
    (happlied : fix.applyToLines? (splitLines source) = some lines)
    (hlonger : (splitLines source).length < lines.length) : fix.apply source ≠ source := by
  intro hsame
  have hfeeds := length_le_count_joinLines (Newline.ofText source) lines
  have hjoined : joinLines (Newline.ofText source).text lines = source := by
    unfold Fix.apply at hsame
    rwa [happlied] at hsame
  rw [hjoined] at hfeeds
  rw [length_splitLines] at hlonger
  omega

/-- **No candidate leaves the text as it is.** -/
theorem apply_ne_of_mem_candidates {limits : Limits} {source : Text} {issue : Issue} {fix : Fix}
    (hissue : issue ∈ analyze limits source) (hfix : fix ∈ issue.candidates) :
    fix.apply source ≠ source := by
  rw [analyze_eq_analyzeLines] at hissue
  cases found_of_mem hissue with
  | @astray line header _ hline hheader hmade =>
      obtain ⟨_, _, _, _, _, _, _, _, hredirected⟩ :=
        redirected_of_mem_candidates hline hheader hmade hfix
      exact hredirected.changed
  | unexpected _ => cases hfix
  | unclosed _ =>
      obtain rfl := List.mem_singleton.mp hfix
      obtain ⟨front, back, hlines, hended, _⟩ := appendEndLine_eq (splitLines source)
      refine apply_ne_of_longer rfl ?_
      rw [hended, hlines]
      simp
  | @misspelt id node number column _ _ hlocate =>
      obtain rfl := List.mem_singleton.mp hfix
      obtain ⟨front, back, line, _, hlines, rfl, _⟩ := firstPlace_of_locate? hlocate
      have happlied := applyTo?_definition id front (line :: back)
      rw [← hlines] at happlied
      refine apply_ne_of_longer happlied ?_
      rw [hlines]
      simp

end Flowchart
