import Flowchart.Proofs.Fix.Progress
import Flowchart.Proofs.Issues

/-!
# Fixing everything

Fixing a text means to apply any candidate of any of its issues, and to go on with
the text that results.  Each step is paid for by the budget, so that every run
ends, whatever was chosen; and where no issue has a candidate any more, all that
is left are ends without a block.

This needs the text to come back whole from its lines, so that no carriage return
may stand alone; its names to be names in a line of their own, so that no tag may
be in the text; and room for the lines that define them.

Main statement: `fixing_ends`.
-/

namespace Flowchart

/-- The second text is the first with a candidate of one of its issues applied. -/
def FixStep (limits : Limits) (source next : Text) : Prop :=
  ∃ issue ∈ analyze limits source, ∃ fix ∈ issue.candidates, next = fix.apply source

/-- The second text is made of the first by that number of steps. -/
inductive FixRun (limits : Limits) : (count : Nat) → (source final : Text) → Prop
  /-- No step is made. -/
  | done (source : Text) : FixRun limits 0 source source
  /-- One step is made, and then others. -/
  | step {count : Nat} {source next final : Text} : FixStep limits source next →
      FixRun limits count next final → FixRun limits (count + 1) source final

/-! ## One step -/

/-- A step keeps the lines fixable and is paid for by the budget. -/
theorem FixStep.progress {limits : Limits} {source next : Text}
    (h : FixStep limits source next) (hfixable : Fixable limits (splitLines source)) :
    Fixable limits (splitLines next) ∧
      budget limits (splitLines next) < budget limits (splitLines source) := by
  obtain ⟨issue, hissue, fix, hfix, rfl⟩ := h
  rw [analyze_eq_analyzeLines] at hissue
  obtain ⟨lines, happlied, hprogress⟩ := hfixable.progress hissue hfix
  rw [joinedLines_apply happlied hprogress.ne_nil hprogress.unbroken]
  exact ⟨hfixable.of_progress hprogress, hprogress.budget_lt⟩

/-- The budget pays for every step of a run. -/
theorem FixRun.budget_le {limits : Limits} {count : Nat} {source final : Text}
    (h : FixRun limits count source final) (hfixable : Fixable limits (splitLines source)) :
    count + budget limits (splitLines final) ≤ budget limits (splitLines source) := by
  induction h with
  | done source => omega
  | step hstep _ ih =>
      obtain ⟨hnext, hlt⟩ := hstep.progress hfixable
      have hrest := ih hnext
      omega

/-! ## Where no step is left -/

/-- An issue without candidates is an unexpected end. -/
theorem kind_of_candidates_eq_nil {limits : Limits} {source : Text} {issue : Issue}
    (hissue : issue ∈ analyze limits source) (hnone : issue.candidates = []) :
    issue.kind = .unexpectedEnd := by
  rw [analyze_eq_analyzeLines] at hissue
  cases found_of_mem hissue with
  | astray _ hheader hmade =>
      obtain ⟨rest, hreads⟩ := Header.ofLine?_eq_some_iff.mp hheader
      rw [hreads.candidates_eq hmade] at hnone
      cases hnone
  | unexpected _ => rfl
  | unclosed _ => exact absurd hnone (List.cons_ne_nil _ _)
  | misspelt _ _ _ => exact absurd hnone (List.cons_ne_nil _ _)

/-- Where no step is left there are only unexpected ends. -/
theorem kind_of_no_step {limits : Limits} {final : Text} (h : ¬ ∃ next, FixStep limits final next)
    {issue : Issue} (hissue : issue ∈ analyze limits final) : issue.kind = .unexpectedEnd := by
  refine kind_of_candidates_eq_nil hissue ?_
  cases hcandidates : issue.candidates with
  | nil => rfl
  | cons fix more =>
      have hfix : fix ∈ issue.candidates := by
        rw [hcandidates]
        exact List.mem_cons_self
      exact absurd ⟨fix.apply final, issue, hissue, fix, hfix, rfl⟩ h

/-! ## Texts that can be fixed -/

/-- A text without tags, whose carriage returns are paired and whose lines leave room for
definitions, can be fixed. -/
theorem fixable_of_source {limits : Limits} {source : Text} (htags : Untagged source)
    (hreturns : Paired source)
    (hroom : ∀ line ∈ splitLines source, 2 * (line.length : Int) + 6 ≤ limits.maxLineLength) :
    Fixable limits (splitLines source) where
  unbroken := unbroken_of_mem_splitLines hreturns
  definable := by
    intro id hid
    obtain ⟨line, hline, _, hreference⟩ := exists_line_of_mem_references hid
    have huntagged := htags.of_infix (infix_of_mem_splitLines hline)
    obtain ⟨hname, hnode, hwithin⟩ := of_mem_lineReferences huntagged hreference
    refine ⟨hname, hnode, huntagged.of_infix hwithin, ?_⟩
    have hlength := hwithin.length_le
    have hfits := hroom line hline
    omega
  room := by
    obtain ⟨line, more, hsplit⟩ := List.exists_cons_of_ne_nil (splitLines_ne_nil source)
    have hfits := hroom line (by rw [hsplit]; exact List.mem_cons_self)
    omega

/-- Of an endless sequence of steps each part is a run. -/
theorem FixRun.of_sequence {limits : Limits} {run : Nat → Text}
    (h : ∀ n, FixStep limits (run n) (run (n + 1))) (count start : Nat) :
    FixRun limits count (run start) (run (start + count)) := by
  induction count generalizing start with
  | zero => exact .done (run start)
  | succ count ih =>
      have hrest := ih (start + 1)
      rw [Nat.add_right_comm] at hrest
      exact .step (h start) hrest

/-- **Fixing comes to an end whatever is chosen, and leaves nothing but unexpected ends.**
Runs are no longer than the budget, so that no sequence of steps goes on forever. -/
theorem fixing_ends (limits : Limits) (source : Text) (htags : Untagged source)
    (hreturns : Paired source)
    (hroom : ∀ line ∈ splitLines source, 2 * (line.length : Int) + 6 ≤ limits.maxLineLength) :
    (∀ count final, FixRun limits count source final →
        count ≤ budget limits (splitLines source)) ∧
      (∀ run : Nat → Text, run 0 = source → ∃ n, ¬ FixStep limits (run n) (run (n + 1))) ∧
      ∀ count final, FixRun limits count source final → (¬ ∃ next, FixStep limits final next) →
        ∀ issue ∈ analyze limits final, issue.kind = .unexpectedEnd := by
  have hfixable := fixable_of_source htags hreturns hroom
  have hbound : ∀ count final, FixRun limits count source final →
      count ≤ budget limits (splitLines source) := by
    intro count final hrun
    have hpaid := hrun.budget_le hfixable
    omega
  refine ⟨hbound, ?_, fun count final _ hstuck issue hissue => kind_of_no_step hstuck hissue⟩
  rintro run rfl
  refine Classical.byContradiction fun hforever => ?_
  have hsteps : ∀ n, FixStep limits (run n) (run (n + 1)) := by
    intro n
    exact Classical.byContradiction fun hstuck => hforever ⟨n, hstuck⟩
  have hlong := FixRun.of_sequence hsteps (budget limits (splitLines (run 0)) + 1) 0
  have hshort := hbound _ _ hlong
  omega

/-- A text with a header without a direction, an open block and a misspelt name. -/
def brokenSource : Text :=
  "graph up\nsubgraph one\nStep1-->Step2\nStep3[x]".toList

/-- Four steps are the most that can be made with the text. -/
theorem fixing_ends_broken :
    (analyze {} brokenSource).map (·.kind) = [.unknownDirection, .missingEnd, .possibleTypo] ∧
      (∀ count final, FixRun {} count brokenSource final → count ≤ 4) ∧
      (∀ run : Nat → Text, run 0 = brokenSource → ∃ n, ¬ FixStep {} (run n) (run (n + 1))) ∧
      ∀ count final, FixRun {} count brokenSource final → (¬ ∃ next, FixStep {} final next) →
        ∀ issue ∈ analyze {} final, issue.kind = .unexpectedEnd := by
  have hbudget : budget {} (splitLines brokenSource) = 4 := by decide
  have hends := fixing_ends {} brokenSource (by decide) (paired_of_not_mem (by decide))
    (forall_mem_of_all rfl)
  rw [hbudget] at hends
  exact ⟨by decide, hends⟩

end Flowchart
