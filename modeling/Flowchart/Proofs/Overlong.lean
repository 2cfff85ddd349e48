import Flowchart.Proofs.Direction
import Flowchart.Proofs.Issues
import Flowchart.Proofs.Typo

/-!
# Lines that are too long

A line that is too long is not looked at, so another such line may stand in its place
without a trace in the names, the directions or the blocks of the document.  Only the
search for the place of a reference comes by: it passes over comments, but not over long
lines.  So the issues are the same exactly if each reference that looks misspelt is found
in front of the line already, or is found alike in both lines.

Main statement: `analyze_exchange_overlong`.
-/

namespace Flowchart

/-- The line is too long to be looked at. -/
def Overlong (limits : Limits) (line : Text) : Prop :=
  limits.maxLineLength < line.length
  deriving Decidable

/-- The offset at which the search for the place of a name finds it in the line. -/
def seenAt? (name line : Text) : Option Nat :=
  if isComment line then none else indexOf? name line

/-- Behind the lines in front it makes no difference to the search for the name which of the
two lines stands there. -/
def SeenAlike (front : List Text) (line new name : Text) : Prop :=
  locate? name front ≠ none ∨ seenAt? name new = seenAt? name line

/-! ## What is looked at -/

section Exchanged

variable {limits : Limits} {front back : List Text} {line new : Text}

/-- A line that is too long is passed over, and counts. -/
theorem Overlong.inspectedFrom_cons (h : Overlong limits line) (number : Nat)
    (lines : List Text) :
    inspectedFrom limits number (line :: lines) = inspectedFrom limits (number + 1) lines := by
  have hlong : ¬ (line.length : Int) ≤ limits.maxLineLength := Int.not_le.mpr h
  rw [Flowchart.inspectedFrom_cons]
  simp [inspectedFrom, numberFrom, isInspected, hlong]

/-- The lines that are looked at are the same, with the same numbers. -/
theorem inspectedLines_overlong (hline : Overlong limits line) (hnew : Overlong limits new) :
    inspectedLines limits (front ++ new :: back)
      = inspectedLines limits (front ++ line :: back) := by
  rw [inspectedLines_append, inspectedLines_append, hline.inspectedFrom_cons,
    hnew.inspectedFrom_cons]

/-- The names do not depend on a line that is too long. -/
theorem extractNames_overlong (hline : Overlong limits line) (hnew : Overlong limits new) :
    extractNames limits (front ++ new :: back) = extractNames limits (front ++ line :: back) := by
  rw [extractNames, extractNames, inspectedLines_overlong hline hnew]

/-- The issues about directions do not depend on a line that is too long. -/
theorem checkDirection_overlong (hline : Overlong limits line) (hnew : Overlong limits new) :
    checkDirection limits (front ++ new :: back)
      = checkDirection limits (front ++ line :: back) := by
  rw [checkDirection, checkDirection, inspectedLines_overlong hline hnew]

/-- The issues about blocks do not depend on a line that is too long. -/
theorem checkBalance_overlong (hline : Overlong limits line) (hnew : Overlong limits new) :
    checkBalance limits (front ++ new :: back)
      = checkBalance limits (front ++ line :: back) := by
  have hlength : (front ++ new :: back).length = (front ++ line :: back).length := by simp
  rw [checkBalance, checkBalance, inspectedLines_overlong hline hnew, hlength]

end Exchanged

/-! ## Where a name is found -/

section Places

variable {name : Text} {front back : List Text} {line new : Text}

/-- A name is looked for in the first line, and then in the others. -/
theorem locateFrom?_cons (name : Text) (number : Nat) (line : Text)
    (lines : List NumberedLine) :
    locateFrom? name (⟨number, line⟩ :: lines)
      = ((seenAt? name line).map fun offset => (number, offset + 1)).or
          (locateFrom? name lines) := by
  rw [locateFrom?, seenAt?]
  split
  · rfl
  · cases indexOf? name line <;> rfl

/-- What is found among numbered lines has one of their numbers. -/
theorem le_of_locateFrom? {number : Nat} {lines : List Text} {place : Nat × Nat}
    (h : locateFrom? name (numberFrom number lines) = some place) : number ≤ place.1 := by
  induction lines generalizing number with
  | nil => cases h
  | cons line lines ih =>
      rw [numberFrom, locateFrom?_cons] at h
      cases hseen : seenAt? name line with
      | none =>
          rw [hseen] at h
          exact Nat.le_of_succ_le (ih h)
      | some offset =>
          rw [hseen] at h
          obtain rfl := Option.some.inj h
          exact Nat.le_refl number

/-- Of a line and those behind it, the line is the first.  A name that is seen in one of two such
lines only would have to be found behind them with the same number. -/
theorem or_locateFrom?_inj {number : Nat} {lines : List Text} {seen other : Option Nat}
    (h : (seen.map fun offset => (number, offset + 1)).or
        (locateFrom? name (numberFrom (number + 1) lines))
      = (other.map fun offset => (number, offset + 1)).or
        (locateFrom? name (numberFrom (number + 1) lines))) : seen = other := by
  have hbehind : ∀ offset : Nat,
      locateFrom? name (numberFrom (number + 1) lines) ≠ some (number, offset) := by
    intro offset hfound
    exact Nat.not_succ_le_self number (le_of_locateFrom? hfound)
  cases seen with
  | none =>
      cases other with
      | none => rfl
      | some offset => exact absurd h (hbehind (offset + 1))
  | some offset =>
      cases other with
      | none => exact absurd h.symm (hbehind (offset + 1))
      | some place => simpa using h

/-- A name is found at the same place exactly if the lines are alike for the search. -/
theorem locate?_exchange_iff :
    locate? name (front ++ new :: back) = locate? name (front ++ line :: back)
      ↔ SeenAlike front line new name := by
  simp only [locate?, numbered, numberFrom_append, locateFrom?_append, numberFrom,
    locateFrom?_cons, SeenAlike]
  cases locateFrom? name (numberFrom 1 front) with
  | some place => simp
  | none =>
      simp only [Option.none_or, ne_eq, not_true_eq_false, false_or]
      exact ⟨or_locateFrom?_inj, fun h => by rw [h]⟩

end Places

/-! ## Which references are reported -/

section Reported

variable {limits : Limits} {lines other : List Text} {names : Names} {id : Text}

/-- A reference is reported alike exactly if it is found at the same place, unless it does not
look misspelt at all. -/
theorem typoIssue?_eq_iff {nodes : List Text} :
    typoIssue? limits other nodes id = typoIssue? limits lines nodes id
      ↔ (IsMisspelt limits nodes id → locate? id other = locate? id lines) := by
  by_cases hmisspelt : IsMisspelt limits nodes id
  · obtain ⟨node, _, hissue⟩ := exists_typoIssue?_eq_map hmisspelt
    have hinjective : Function.Injective
        fun place : Nat × Nat => typoIssue id node place.1 place.2 := by
      intro place found hsame
      have hline : (place.1 : Int) = found.1 := congrArg Issue.line hsame
      have hcolumn : (place.2 : Int) = found.2 := congrArg Issue.column hsame
      exact Prod.ext (Int.ofNat.inj hline) (Int.ofNat.inj hcolumn)
    rw [hissue, hissue, (Option.map_injective hinjective).eq_iff]
    exact ⟨fun h _ => h, fun h => h hmisspelt⟩
  · rw [typoIssue?_eq_none hmisspelt, typoIssue?_eq_none hmisspelt]
    exact ⟨fun _ h => absurd h hmisspelt, fun _ => rfl⟩

/-- The issue of a reference is the one that reports it. -/
theorem typoIssue?_eq_some_iff (hid : id ∈ names.references) {issue : Issue} :
    typoIssue? limits lines names.nodes id = some issue
      ↔ issue ∈ checkTypos limits lines names ∧ issue.reference? = some id := by
  constructor
  · intro hmade
    obtain ⟨_, _, node, number, column, _, _, rfl⟩ := of_typoIssue?_eq_some hmade
    exact ⟨List.mem_filterMap.mpr ⟨id, hid, hmade⟩, rfl⟩
  · rintro ⟨hissue, hreported⟩
    exact (of_reported hissue hreported).2

/-- The issues of references are the same exactly if each is reported alike. -/
theorem checkTypos_eq_iff :
    checkTypos limits other names = checkTypos limits lines names
      ↔ ∀ id ∈ names.references, IsMisspelt limits names.nodes id →
          locate? id other = locate? id lines := by
  constructor
  · intro h id hid
    refine typoIssue?_eq_iff.mp (Option.ext fun issue => ?_)
    rw [typoIssue?_eq_some_iff hid, typoIssue?_eq_some_iff hid, h]
  · intro h
    exact List.filterMap_congr fun id hid => typoIssue?_eq_iff.mpr (h id hid)

end Reported

/-! ## The exchanged line -/

/-- **A line that is too long may be exchanged for another such line, as long as the search for
the place of a misspelt reference does not come upon it.** The names, the directions and the
blocks are the same in any case; an issue that is new is about a reference for which the lines
differ, and there is none exactly if there is no such reference. -/
theorem analyze_exchange_overlong (limits : Limits) (newline : Newline) {front back : List Text}
    {line new : Text} (hlines : ∀ other ∈ front ++ line :: back, Unbroken other)
    (hunbroken : Unbroken new) (hline : Overlong limits line) (hnew : Overlong limits new) :
    extractNames limits (front ++ new :: back) = extractNames limits (front ++ line :: back) ∧
      issuesOf .unknownDirection (analyze limits (joinLines newline.text (front ++ new :: back)))
        = issuesOf .unknownDirection
            (analyze limits (joinLines newline.text (front ++ line :: back))) ∧
      balanceIssues (analyze limits (joinLines newline.text (front ++ new :: back)))
        = balanceIssues (analyze limits (joinLines newline.text (front ++ line :: back))) ∧
      (∀ issue ∈ analyze limits (joinLines newline.text (front ++ new :: back)),
        issue ∈ analyze limits (joinLines newline.text (front ++ line :: back)) ∨
          ∃ id, issue.reference? = some id ∧ ¬ SeenAlike front line new id) ∧
      (analyze limits (joinLines newline.text (front ++ new :: back))
          = analyze limits (joinLines newline.text (front ++ line :: back))
        ↔ ∀ id ∈ (extractNames limits (front ++ line :: back)).references,
            IsMisspelt limits (extractNames limits (front ++ line :: back)).nodes id →
              SeenAlike front line new id) := by
  have hexchanged : ∀ other ∈ front ++ new :: back, Unbroken other := by
    obtain ⟨hfront, hrest⟩ := List.forall_mem_append.mp hlines
    exact List.forall_mem_append.mpr
      ⟨hfront, List.forall_mem_cons.mpr ⟨hunbroken, (List.forall_mem_cons.mp hrest).2⟩⟩
  have hnames := @extractNames_overlong limits front back line new hline hnew
  have hdirections := @checkDirection_overlong limits front back line new hline hnew
  have hbalance := @checkBalance_overlong limits front back line new hline hnew
  rw [analyze_joinLines limits newline hexchanged, analyze_joinLines limits newline hlines]
  refine ⟨hnames, ?_, ?_, fun issue hissue => ?_, ?_⟩
  · rw [issuesOf_unknownDirection, issuesOf_unknownDirection, hdirections]
  · rw [balanceIssues_analyzeLines, balanceIssues_analyzeLines, hbalance]
  · rw [analyzeLines, hdirections, hbalance, hnames] at hissue
    rcases List.mem_append.mp hissue with hother | htypo
    · exact Or.inl (List.mem_append_left _ hother)
    · obtain ⟨id, hid, hmade⟩ := List.mem_filterMap.mp htypo
      have hreported := ((typoIssue?_eq_some_iff hid).mp hmade).2
      by_cases halike : SeenAlike front line new id
      · rw [typoIssue?_eq_iff.mpr fun _ => locate?_exchange_iff.mpr halike] at hmade
        exact Or.inl (List.mem_append_right _ (List.mem_filterMap.mpr ⟨id, hid, hmade⟩))
      · exact Or.inr ⟨id, hreported, halike⟩
  · rw [analyzeLines, analyzeLines, hdirections, hbalance, hnames, List.append_cancel_left_eq,
      checkTypos_eq_iff]
    exact forall_congr' fun id => forall_congr' fun _ => forall_congr' fun _ =>
      locate?_exchange_iff

/-- A document with a long line in front of an edge to a misspelt name. -/
def linesBehind (long : Text) : List Text :=
  ["graph up".toList, long, "Step-->Stpe".toList]

/-- What opens a block, defines the name and ends the block counts for nothing in a line that
is too long, while the name stands in a comment. -/
theorem analyze_exchange_overlong_comment :
    Overlong { maxLineLength := 12 } "subgraph of steps".toList ∧
      Overlong { maxLineLength := 12 } "%% Stpe[x] end".toList ∧
      analyze { maxLineLength := 12 }
          (joinLines Newline.crlf.text (linesBehind "%% Stpe[x] end".toList))
        = analyze { maxLineLength := 12 }
            (joinLines Newline.crlf.text (linesBehind "subgraph of steps".toList)) := by
  have hline : Overlong { maxLineLength := 12 } "subgraph of steps".toList := by decide
  have hnew : Overlong { maxLineLength := 12 } "%% Stpe[x] end".toList := by decide
  have hlines : ∀ other ∈ ["graph up".toList]
      ++ "subgraph of steps".toList :: ["Step-->Stpe".toList], Unbroken other :=
    forall_mem_of_all rfl
  obtain ⟨_, _, _, _, hsame⟩ := analyze_exchange_overlong { maxLineLength := 12 } .crlf hlines
    (by decide) hline hnew
  refine ⟨hline, hnew, hsame.mpr fun id hid _ => ?_⟩
  have hreferences : (extractNames { maxLineLength := 12 } (["graph up".toList]
      ++ "subgraph of steps".toList :: ["Step-->Stpe".toList])).references
        = ["Step".toList, "Stpe".toList] := by decide
  rw [hreferences] at hid
  refine Or.inr ?_
  revert id
  decide

/-- The place of a misspelt reference is looked for in a line that is too long, too. -/
theorem analyze_longLineFound :
    Overlong { maxLineLength := 12 } "Stpe stands here".toList ∧
      Overlong { maxLineLength := 12 } "Nothing is here.".toList ∧
      analyze { maxLineLength := 12 }
          (joinLines ['\n'] ["Stpe stands here".toList, "Step-->Stpe".toList])
        = [typoIssue "Stpe".toList "Step".toList 1 1] ∧
      analyze { maxLineLength := 12 }
          (joinLines ['\n'] ["Nothing is here.".toList, "Step-->Stpe".toList])
        = [typoIssue "Stpe".toList "Step".toList 2 8] := by
  exact ⟨by decide, by decide, by decide, by decide⟩

end Flowchart
