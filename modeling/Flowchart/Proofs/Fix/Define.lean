import Flowchart.Proofs.Fix.Progress
import Flowchart.Proofs.Moved
import Flowchart.Proofs.Typo

/-!
# The effect of a definition

A reference that is reported can be defined by a line of its own, in front of the
line where it first stands.  That line is read as one node with a shape, whatever
the name is made of, as long as no tag is in it and the line is looked at.  So the
name is a node then, the other nodes and all references stay as they were, and the
name is not reported any more.  The unknown directions move with their lines.

Main statement: `definition_resolves`.
-/

namespace Flowchart

/-- The text `after` is `source` with a line before the line `number` that defines the name. -/
structure Defines (limits : Limits) (source id : Text) (number : Int) (after : Text) : Prop where
  /-- The lines are those of the source, and the one that defines the name. -/
  lines : ∃ front back, splitLines source = front ++ back ∧ number = front.length + 1 ∧
    splitLines after = front ++ definitionLine id :: back
  /-- The references are the same, in the same order. -/
  references : (extractNames limits (splitLines after)).references
    = (extractNames limits (splitLines source)).references
  /-- The nodes are those of the source, in the same order, and the name. -/
  nodes : ∃ before behind, (extractNames limits (splitLines source)).nodes = before ++ behind ∧
    (extractNames limits (splitLines after)).nodes = before ++ id :: behind
  /-- The name is not reported any more. -/
  resolved : ∀ issue ∈ issuesOf .possibleTypo (analyze limits after), issue.reference? ≠ some id
  /-- The unknown directions are those of the source, moved down behind the new line. -/
  directions : issuesOf .unknownDirection (analyze limits after)
    = (issuesOf .unknownDirection (analyze limits source)).map (Issue.moved number)

/-! ## The names of the longer document -/

section Names

variable {limits : Limits} {id : Text} (h : Definable limits id) (front back : List Text)

include h

/-- A name that was defined nowhere comes between the nodes in front of its line and those behind
it. -/
theorem nodes_insert_definition (hundefined : id ∉ (extractNames limits (front ++ back)).nodes) :
    ∃ before behind, (extractNames limits (front ++ back)).nodes = before ++ behind ∧
      (extractNames limits (front ++ definitionLine id :: back)).nodes
        = before ++ id :: behind := by
  simp only [extractNames_eq, List.filter_append,
    List.filter_cons_of_pos h.isInspected_definitionLine, List.flatMap_append, List.flatMap_cons,
    h.lineDefinitions_definitionLine, List.cons_append, List.nil_append] at hundefined ⊢
  exact exists_eraseDups_insert (mt List.mem_eraseDups.mpr hundefined)

end Names

/-! ## The longer text -/

/-- A name that is a node is not reported. -/
theorem reference?_ne_of_mem_nodes {limits : Limits} {lines : List Text} {names : Names}
    {id : Text} (h : id ∈ names.nodes) :
    ∀ issue ∈ checkTypos limits lines names, issue.reference? ≠ some id := by
  intro issue hissue hreported
  obtain ⟨_, hmade⟩ := of_reported hissue hreported
  exact (of_typoIssue?_eq_some hmade).1 h

/-- The fix is not stale, and the line that it inserts defines the name. -/
theorem defines_apply {limits : Limits} {source id : Text} {front back : List Text}
    (hlines : splitLines source = front ++ back) (hback : back ≠ [])
    (h : Definable limits id) (hundefined : id ∉ (extractNames limits (splitLines source)).nodes) :
    ((Fix.defineNode ⟨id, front.length + 1⟩).applyToLines? (splitLines source)).isSome = true ∧
      Defines limits source id (front.length + 1)
        ((Fix.defineNode ⟨id, front.length + 1⟩).apply source) := by
  have happlied : (Fix.defineNode ⟨id, front.length + 1⟩).applyToLines? (splitLines source)
      = some (front ++ definitionLine id :: back) := by
    rw [hlines]
    exact applyTo?_definition id front back
  have hjoinable := joinable_splitLines source
  rw [hlines] at hjoinable hundefined
  have hafter := splitLines_apply happlied
    (hjoinable.insert hback (unbroken_definitionLine h.isName.unbroken))
  have hnodes := nodes_insert_definition h front back hundefined
  refine ⟨by rw [happlied]; rfl, ⟨front, back, hlines, rfl, hafter⟩, ?_, ?_, ?_, ?_⟩
  · rw [hafter, hlines]
    exact references_insert h.lineReferences_definitionLine limits front back
  · rw [hafter, hlines]
    exact hnodes
  · rw [analyze_eq_analyzeLines, issuesOf_possibleTypo, hafter]
    obtain ⟨before, behind, _, hdefined⟩ := hnodes
    exact reference?_ne_of_mem_nodes (by rw [hdefined]; simp)
  · rw [analyze_eq_analyzeLines, analyze_eq_analyzeLines, issuesOf_unknownDirection,
      issuesOf_unknownDirection, hafter, hlines]
    exact checkDirection_moved
      (fun _ => NumberedLine.directionIssue?_of_ofLine? h.ofLine?_definitionLine) front back

/-- **A definition resolves the reference that it is made for.** It is the only candidate of
the issue; and if the name has no tag in it and room for the line that defines it, the fix is
not stale, and the name a node in the text that it leaves. -/
theorem definition_resolves (limits : Limits) (source : Text) {issue : Issue}
    (hissue : issue ∈ analyze limits source) (hkind : issue.kind = .possibleTypo) :
    ∃ id, issue.reference? = some id ∧ issue.candidates = [.defineNode ⟨id, issue.line⟩] ∧
      (Untagged id → 2 * (id.length : Int) + 6 ≤ limits.maxLineLength →
        ((Fix.defineNode ⟨id, issue.line⟩).applyToLines? (splitLines source)).isSome = true ∧
          Defines limits source id issue.line
            ((Fix.defineNode ⟨id, issue.line⟩).apply source)) := by
  have hmem : issue ∈ issuesOf .possibleTypo (analyze limits source) :=
    List.mem_filter.mpr ⟨hissue, by simpa using hkind⟩
  rw [analyze_eq_analyzeLines, issuesOf_possibleTypo] at hmem
  obtain ⟨id, hid, hmade⟩ := List.mem_filterMap.mp hmem
  obtain ⟨hundefined, _, node, number, column, _, hlocate, rfl⟩ := of_typoIssue?_eq_some hmade
  refine ⟨id, rfl, rfl, fun htags hroom => ?_⟩
  obtain ⟨line, _, _, hreference⟩ := exists_line_of_mem_references hid
  obtain ⟨hname, hnode, _⟩ := of_mem_references hreference
  obtain ⟨before, after, found, _, hlines, rfl, _⟩ := firstPlace_of_locate? hlocate
  exact defines_apply hlines (List.cons_ne_nil _ _) ⟨hname, hnode, htags, hroom⟩ hundefined

/-- A text with a reference that begins with a keyword and ends in a hyphen, stands in a label
first, and is not defined. -/
def undefinedSource : Text :=
  "graph up\r\nA[\"a graph:b-\"]-->B\ngraph:b[y]-->graph:b-\nflowchart to".toList

/-- The definition stands before the label, and the header behind it is reported one line down. -/
theorem definition_resolves_keyword :
    (analyze {} undefinedSource).map (fun issue => (issue.kind, issue.line, issue.reference?))
        = [(.unknownDirection, 1, none), (.unknownDirection, 4, none),
          (.possibleTypo, 2, some "graph:b-".toList)] ∧
      (∀ issue ∈ analyze {} undefinedSource, issue.kind = .possibleTypo →
        Defines {} undefinedSource "graph:b-".toList issue.line
          ((Fix.defineNode ⟨"graph:b-".toList, issue.line⟩).apply undefinedSource)) ∧
      (analyze {} ((Fix.defineNode ⟨"graph:b-".toList, 2⟩).apply undefinedSource)).map
          (fun issue => (issue.kind, issue.line))
        = [(.unknownDirection, 1), (.unknownDirection, 5)] := by
  have hreported : (analyze {} undefinedSource).map
      (fun issue => (issue.kind, issue.line, issue.reference?))
        = [(.unknownDirection, 1, none), (.unknownDirection, 4, none),
          (.possibleTypo, 2, some "graph:b-".toList)] := by decide
  refine ⟨hreported, fun issue hissue hkind => ?_, by decide⟩
  obtain ⟨id, hid, _, hdefines⟩ := definition_resolves {} undefinedSource hissue hkind
  have hmem : (issue.kind, issue.line, issue.reference?)
      ∈ (analyze {} undefinedSource).map fun issue => (issue.kind, issue.line, issue.reference?) :=
    List.mem_map.mpr ⟨issue, hissue, rfl⟩
  rw [hreported, hkind, hid] at hmem
  obtain ⟨_, rfl⟩ : issue.line = 2 ∧ id = "graph:b-".toList := by simpa using hmem
  exact (hdefines (by decide) (by decide)).2

end Flowchart
