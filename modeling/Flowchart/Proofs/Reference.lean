import Flowchart.Proofs.Arrow
import Flowchart.Proofs.Document
import Flowchart.Proofs.Prepared

/-!
# Where references come from

A reference is a name that a node can have.  It stands in a stretch of the
prepared line, or goes on into the arrow behind it, so it stands in the prepared
line; and since neither a mask nor a placeholder can hold a part of it, in the
line itself, unless a tag was dropped out of it.  That leaves a colon in it.

Main statements: `of_mem_lineReferences`, `infix_of_mem_lineReferences`.
-/

namespace Flowchart

/-- The first stretch stands at the front of the text with its arrow, and the others
in it. -/
def StretchesStand (text : Text) (cut : List Stretch) : Prop :=
  ∃ first more, cut = first :: more ∧ first.text ++ first.arrowText <+: text ∧
    ∀ stretch ∈ more, stretch.text ++ stretch.arrowText <:+: text

/-- Each of the stretches stands in the text with its arrow. -/
theorem StretchesStand.isInfix_of_mem {text : Text} {cut : List Stretch} {stretch : Stretch}
    (h : StretchesStand text cut) (hmem : stretch ∈ cut) :
    stretch.text ++ stretch.arrowText <:+: text := by
  obtain ⟨first, more, rfl, hfirst, hmore⟩ := h
  rcases List.mem_cons.mp hmem with rfl | hrest
  · exact hfirst.isInfix
  · exact hmore stretch hrest

/-- The stretches of a text stand in it. -/
theorem stretchesFrom_stand (entered : Bool) (cut : List Piece) :
    StretchesStand (cut.flatMap Piece.text) (stretchesFrom entered cut) := by
  induction cut generalizing entered with
  | nil => exact ⟨_, [], rfl, List.nil_prefix, nofun⟩
  | cons piece cut ih =>
      cases piece with
      | plain c =>
          obtain ⟨first, more, hcut, hfirst, hmore⟩ := ih entered
          refine ⟨{ first with text := c :: first.text }, more, ?_, ?_, fun stretch hmem => ?_⟩
          · rw [stretchesFrom, hcut, consStretch]
          · exact List.cons_prefix_cons.mpr ⟨rfl, hfirst⟩
          · exact (hmore stretch hmem).trans (List.suffix_cons c _).isInfix
      | lexeme text rest =>
          refine ⟨_, _, rfl, List.prefix_append text _, fun stretch hmem => ?_⟩
          exact ((ih true).isInfix_of_mem hmem).trans (List.suffix_append text _).isInfix

/-- A stretch stands in the prepared line, and the arrow behind it. -/
theorem infix_of_mem_stretches {prepared : Text} {stretch : Stretch}
    (h : stretch ∈ stretches prepared) : stretch.text ++ stretch.arrowText <:+: prepared := by
  have hstand := stretchesFrom_stand false (pieces arrow prepared)
  rw [pieces, arrow_sound.flatMap_text, List.drop_zero] at hstand
  exact hstand.isInfix_of_mem h

/-- The source of an arrow is a name in the stretch before it. -/
theorem Stretch.of_source? {stretch : Stretch} {name : Occurrence}
    (h : stretch.source? = some name) :
    IsName name.text ∧ isNodeName name = true ∧ name.text <:+: stretch.text := by
  unfold Stretch.source? at h
  split at h
  · obtain ⟨hlast, hnode⟩ := Option.filter_eq_some_iff.mp h
    have hmem := List.mem_of_find?_eq_some hlast
    obtain ⟨front, htext, _, _⟩ := exists_of_mem_occurrences identifier_sound hmem
    exact ⟨isName_of_mem_occurrences hmem, hnode, front, name.rest, htext.symm⟩
  · cases h

/-- The target of an arrow is a name in the stretch behind it, or goes on into the
next arrow. -/
theorem Stretch.of_target? {stretch : Stretch} {name : Occurrence}
    (h : stretch.target? = some name) :
    IsName name.text ∧ isNodeName name = true ∧
      name.text <:+: stretch.text ++ stretch.arrowText := by
  unfold Stretch.target? at h
  split at h
  · obtain ⟨hfirst, hnode⟩ := Option.filter_eq_some_iff.mp h
    obtain ⟨id, hid, rfl⟩ := Option.map_eq_some_iff.mp hfirst
    refine ⟨isName_of_leadingName? hid, hnode, ?_⟩
    exact (prefix_of_leadingName? hid).isInfix.trans (List.dropWhile_suffix _).isInfix
  · cases h

/-- A reference is a name that a node can have, and stands in the prepared line. -/
theorem of_mem_references {line id : Text} (h : id ∈ lineReferences line) :
    IsName id ∧ isKeyword id = false ∧ id <:+: prepareLine line := by
  unfold lineReferences at h
  split at h
  · obtain ⟨stretch, hstretch, hid⟩ := List.mem_flatMap.mp h
    obtain ⟨name, hname, rfl⟩ := List.mem_map.mp hid
    have hstands := infix_of_mem_stretches hstretch
    have hfound : IsName name.text ∧ isNodeName name = true ∧
        name.text <:+: stretch.text ++ stretch.arrowText := by
      rcases List.mem_append.mp hname with htarget | hsource
      · exact Stretch.of_target? (Option.mem_toList.mp htarget)
      · obtain ⟨hname, hnode, hwithin⟩ := Stretch.of_source? (Option.mem_toList.mp hsource)
        exact ⟨hname, hnode, hwithin.trans (List.prefix_append _ _).isInfix⟩
    obtain ⟨hname, hnode, hwithin⟩ := hfound
    exact ⟨hname, by simpa [isNodeName] using hnode, hwithin.trans hstands⟩
  · cases h

/-- A reference stands in its line if there are no tags in that. -/
theorem of_mem_lineReferences {line id : Text} (hline : Untagged line)
    (h : id ∈ lineReferences line) : IsName id ∧ isKeyword id = false ∧ id <:+: line := by
  obtain ⟨hname, hnode, hwithin⟩ := of_mem_references h
  exact ⟨hname, hnode, hname.uncut.infix_of_prepareLine hline hwithin⟩

/-- A reference without colons stands in its line, whatever tags there are. -/
theorem infix_of_mem_lineReferences {line id : Text} (h : id ∈ lineReferences line)
    (hcolon : ':' ∉ id) : id <:+: line := by
  obtain ⟨hname, _, hwithin⟩ := of_mem_references h
  refine hname.uncut.infix_of_isTagChar (fun c hc => ?_) hwithin
  have hne : c ≠ ':' := by
    rintro rfl
    exact hcolon hc
  rcases hname.of_mem hc with hchar | rfl
  · simpa [isTagChar, isNameChar, hne, or_assoc] using Or.inl (b := c = '-') hchar
  · rfl

/-- A reference of a document is one of a line that is looked at. -/
theorem exists_line_of_mem_references {limits : Limits} {lines : List Text} {id : Text}
    (h : id ∈ (extractNames limits lines).references) :
    ∃ line ∈ lines, isComment line = false ∧ id ∈ lineReferences line := by
  rw [extractNames_eq] at h
  obtain ⟨line, hkept, hreference⟩ := List.mem_flatMap.mp (List.mem_eraseDups.mp h)
  obtain ⟨hline, hinspected⟩ := List.mem_filter.mp hkept
  simp only [isInspected, Bool.and_eq_true, Bool.not_eq_true'] at hinspected
  exact ⟨line, hline, hinspected.2, hreference⟩

end Flowchart
