import Flowchart.Proofs.Scan
import Flowchart.Proofs.Typo

/-!
# Sources of arrows

What an arrow leads from is looked for in the window before it, what it leads to behind it,
both by offsets in the whole prepared line; what a line defines is read from the names of
the blanked line.  Each source is one of these, at the same place and with the same
characters, and no target excludes it.  So a reference that is no node is no source, and
stands in the blanked lines only where arrows lead to it.

Main statement: `arrow_sources_defined`.
-/

namespace Flowchart

/-- An arrow of the prepared line leads from the name at the place. -/
def LeadsFrom (prepared : Text) (place : Nat) (name : Text) : Prop :=
  isKeyword name = false ∧ ∃ approach ∈ approaches prepared,
    EndpointBefore prepared approach.start approach.arrow.start place name

/-- An arrow of the prepared line leads to the name at the place. -/
def LeadsTo (prepared : Text) (place : Nat) (name : Text) : Prop :=
  isKeyword name = false ∧ ∃ found ∈ occurrences arrow prepared,
    EndpointAfter prepared found.stop place name

/-- The line is looked at, and is neither a header nor a statement. -/
def IsScanned (limits : Limits) (line : Text) : Prop :=
  isInspected limits line = true ∧ namesNodes line = true
  deriving Decidable

/-- In the lines that are scanned the name is nothing but the target of arrows. -/
structure OnlyTarget (limits : Limits) (lines : List Text) (id : Text) : Prop where
  /-- Some arrow leads to it. -/
  leadsTo : ∃ line ∈ lines, IsScanned limits line ∧ ∃ place, LeadsTo (prepareLine line) place id
  /-- No arrow leads from it. -/
  not_leadsFrom : ∀ line ∈ lines, IsScanned limits line →
    ∀ place, ¬ LeadsFrom (prepareLine line) place id
  /-- Between the arrows it stands only where one leads to it. -/
  targeted : ∀ line ∈ lines, IsScanned limits line →
    ∀ place, (place, id) ∈ spans (blankArrows (prepareLine line)) →
      LeadsTo (prepareLine line) place id

/-! ## Endpoints and stretches -/

/-- A name is that of a node exactly if it is no keyword. -/
theorem isKeyword_text_eq_false_iff {name : Occurrence} :
    isKeyword name.text = false ↔ isNodeName name = true := by
  simp [isNodeName]

/-- The source of a stretch is its last endpoint, if an arrow leaves it and it names a node. -/
theorem Stretch.source?_eq_some_iff {stretch : Stretch} {name : Occurrence} :
    stretch.source? = some name ↔
      stretch.arrow.isSome = true ∧ lastEndpoint? stretch.text = some name ∧
        isNodeName name = true := by
  unfold Stretch.source?
  split
  · next harrow => simp [harrow, Option.filter_eq_some_iff]
  · next harrow => simp [harrow]

/-- The target of a stretch is its first endpoint, if an arrow enters it and it names a node. -/
theorem Stretch.target?_eq_some_iff {stretch : Stretch} {name : Occurrence} :
    stretch.target? = some name ↔
      stretch.entered = true ∧ firstEndpoint? (stretch.text ++ stretch.arrowText) = some name ∧
        isNodeName name = true := by
  unfold Stretch.target?
  split
  · next hentered => simp [hentered, Option.filter_eq_some_iff]
  · next hentered => simp [hentered]

/-- What arrows lead from are the sources of the stretches. -/
theorem leadsFrom_iff {prepared : Text} {place : Nat} {name : Text} :
    LeadsFrom prepared place name ↔ ∃ spot ∈ placed prepared, ∃ source,
      spot.2.source? = some source ∧ spot.1 + source.start = place ∧ source.text = name := by
  have hleaves := forall₂_approaches prepared
  constructor
  · rintro ⟨hkeyword, approach, happroach, hendpoint⟩
    obtain ⟨spot, hmem, hwindow⟩ := exists_mem_of_forall₂ hleaves happroach
    obtain ⟨hplaced, harrow⟩ := List.mem_filter.mp hmem
    obtain ⟨source, hlast, hplace, rfl⟩ := hwindow.endpointBefore_iff.mp hendpoint
    have hsource := Stretch.source?_eq_some_iff.mpr
      ⟨harrow, hlast, isKeyword_text_eq_false_iff.mp hkeyword⟩
    exact ⟨spot, hplaced, source, hsource, hplace, rfl⟩
  · rintro ⟨spot, hplaced, source, hsource, hplace, rfl⟩
    obtain ⟨harrow, hlast, hnode⟩ := Stretch.source?_eq_some_iff.mp hsource
    have hmem : spot ∈ (placed prepared).filter fun spot => spot.2.arrow.isSome :=
      List.mem_filter.mpr ⟨hplaced, harrow⟩
    obtain ⟨approach, happroach, hwindow⟩ := exists_mem_of_forall₂ hleaves.flip hmem
    exact ⟨isKeyword_text_eq_false_iff.mpr hnode, approach, happroach,
      hwindow.endpointBefore_iff.mpr ⟨source, hlast, hplace, rfl⟩⟩

/-- What arrows lead to are the targets of the stretches. -/
theorem leadsTo_iff {prepared : Text} {place : Nat} {name : Text} :
    LeadsTo prepared place name ↔ ∃ spot ∈ placed prepared, ∃ target,
      spot.2.target? = some target ∧ spot.1 + target.start = place ∧ target.text = name := by
  obtain ⟨first, more, hplaced, hfirst, henters⟩ := exists_placed_eq_cons prepared
  constructor
  · rintro ⟨hkeyword, found, hfound, hendpoint⟩
    obtain ⟨spot, hmem, hbehind⟩ := exists_mem_of_forall₂ henters hfound
    obtain ⟨target, hlead, hplace, rfl⟩ := (hbehind.endpointAfter_iff hfound).mp hendpoint
    have htarget := Stretch.target?_eq_some_iff.mpr
      ⟨hbehind.entered, hlead, isKeyword_text_eq_false_iff.mp hkeyword⟩
    exact ⟨spot, hplaced ▸ List.mem_cons_of_mem _ hmem, target, htarget, hplace, rfl⟩
  · rintro ⟨spot, hspot, target, htarget, hplace, rfl⟩
    obtain ⟨hentered, hlead, hnode⟩ := Stretch.target?_eq_some_iff.mp htarget
    rcases List.mem_cons.mp (hplaced ▸ hspot) with rfl | hmem
    · rw [hfirst] at hentered
      cases hentered
    · obtain ⟨found, hfound, hbehind⟩ := exists_mem_of_forall₂ henters.flip hmem
      exact ⟨isKeyword_text_eq_false_iff.mpr hnode, found, hfound,
        (hbehind.endpointAfter_iff hfound).mpr ⟨target, hlead, hplace, rfl⟩⟩

/-- The references of a line are the endpoints of its arrows. -/
theorem mem_lineReferences_iff {line id : Text} (h : namesNodes line = true) :
    id ∈ lineReferences line ↔
      ∃ place, LeadsTo (prepareLine line) place id ∨ LeadsFrom (prepareLine line) place id := by
  rw [lineReferences, if_pos h, List.mem_flatMap]
  simp only [leadsTo_iff, leadsFrom_iff, Stretch.references, List.mem_map, List.mem_append,
    Option.mem_toList, mem_stretches_iff]
  constructor
  · rintro ⟨stretch, ⟨start, hplaced⟩, name, htarget | hsource, rfl⟩
    · exact ⟨_, Or.inl ⟨(start, stretch), hplaced, name, htarget, rfl, rfl⟩⟩
    · exact ⟨_, Or.inr ⟨(start, stretch), hplaced, name, hsource, rfl, rfl⟩⟩
  · rintro ⟨place, ⟨spot, hplaced, name, htarget, _, rfl⟩ | ⟨spot, hplaced, name, hsource, _, rfl⟩⟩
    · exact ⟨spot.2, ⟨spot.1, hplaced⟩, name, Or.inl htarget, rfl⟩
    · exact ⟨spot.2, ⟨spot.1, hplaced⟩, name, Or.inr hsource, rfl⟩

/-- An arrow leads from a name of the blanked line. -/
theorem LeadsFrom.mem_spans {prepared : Text} {place : Nat} {name : Text}
    (h : LeadsFrom prepared place name) : (place, name) ∈ spans (blankArrows prepared) := by
  obtain ⟨_, approach, happroach, hends⟩ := h
  exact mem_spans_of_endpointBefore happroach hends

/-- What a stretch defines its line defines. -/
theorem mem_lineDefinitions_of_defines {line : Text} {spot : Nat × Stretch} {name : Occurrence}
    (hline : namesNodes line = true) (hplaced : spot ∈ placed (prepareLine line))
    (hname : name ∈ occurrences identifier spot.2.text) (hdefined : spot.2.defines name = true) :
    name.text ∈ lineDefinitions line := by
  have hstretch : spot.2 ∈ stretches (prepareLine line) := mem_stretches_iff.mpr ⟨spot.1, hplaced⟩
  rw [lineDefinitions, if_pos hline]
  refine List.mem_flatMap.mpr ⟨spot.2, hstretch, ?_⟩
  exact List.mem_map_of_mem (List.mem_append_left _ (List.mem_filter.mpr ⟨hname, hdefined⟩))

/-- What an arrow leads from is defined in its line. -/
theorem LeadsFrom.mem_lineDefinitions {line id : Text} {place : Nat}
    (hline : namesNodes line = true) (h : LeadsFrom (prepareLine line) place id) :
    id ∈ lineDefinitions line := by
  obtain ⟨spot, hplaced, source, hsource, rfl, rfl⟩ := leadsFrom_iff.mp h
  obtain ⟨_, hlast, hnode⟩ := Stretch.source?_eq_some_iff.mp hsource
  obtain ⟨hmem, _⟩ := lastEndpoint?_eq_some_iff.mp hlast
  refine mem_lineDefinitions_of_defines hline hplaced hmem ?_
  simp [Stretch.defines, hnode, hsource]

/-- A name that is the target of an arrow, and not the source of another, is read with the next
arrow in sight as it is without.  It does not end its stretch, or the arrow behind it would lead
from it. -/
theorem Stretch.target?_text_eq {stretch : Stretch} {name target : Occurrence}
    (hname : name ∈ occurrences identifier stretch.text) (hnode : isNodeName name = true)
    (hsource : stretch.source? ≠ some name) (htarget : stretch.target? = some target)
    (hstart : target.start = name.start) : target.text = name.text := by
  obtain ⟨_, hfirst, _⟩ := target?_eq_some_iff.mp htarget
  obtain ⟨id, hlead, rfl⟩ := Option.map_eq_some_iff.mp hfirst
  obtain ⟨front, htext, hplace, hname'⟩ := exists_of_mem_occurrences identifier_sound hname
  have hread := leadingName?_of_identifier hname'
  have htrim : trimStart (stretch.text ++ stretch.arrowText)
      = name.text ++ (name.rest ++ stretch.arrowText) := by
    have hcut := indentOf_append_trimStart (stretch.text ++ stretch.arrowText)
    have hwhole : stretch.text ++ stretch.arrowText
        = front ++ (name.text ++ (name.rest ++ stretch.arrowText)) := by
      rw [htext]
      simp
    exact (List.append_inj (hcut.trans hwhole) (hstart.trans hplace)).2
  rw [htrim] at hlead
  have hsame : leadingName? (name.text ++ (name.rest ++ stretch.arrowText))
      = leadingName? (name.text ++ name.rest) := by
    cases hrest : name.rest with
    | cons c more =>
        rw [hrest] at hread
        have hends := (nameRun_of_append (nameRun_of_leadingName? hread)).2
        exact leadingName?_append_congr (isName_of_mem_occurrences hname).ne_nil fun run =>
          nameRun_append_congr (nameRun_append_eq_nil hends _) hends rfl run
    | nil =>
        have hlast : lastEndpoint? stretch.text = some name :=
          lastEndpoint?_eq_some_iff.mpr ⟨hname, by rw [hrest]; rfl⟩
        have hnone : ¬ stretch.arrow.isSome = true := fun harrow =>
          hsource (source?_eq_some_iff.mpr ⟨harrow, hlast, hnode⟩)
        rw [Option.not_isSome_iff_eq_none] at hnone
        rw [arrowText, hnone]
        rfl
  rw [hsame, hread] at hlead
  exact (Option.some.inj hlead).symm

/-- A name of the blanked line that is not defined there is the target of an arrow. -/
theorem leadsTo_of_mem_spans {line id : Text} {place : Nat} (hline : namesNodes line = true)
    (hkeyword : isKeyword id = false) (hundefined : id ∉ lineDefinitions line)
    (h : (place, id) ∈ spans (blankArrows (prepareLine line))) :
    LeadsTo (prepareLine line) place id := by
  rw [spans_blankArrows] at h
  obtain ⟨spot, hplaced, hmoved⟩ := List.mem_flatMap.mp h
  obtain ⟨_, hspan, hplace⟩ := List.mem_map.mp hmoved
  obtain ⟨name, hname, rfl⟩ := List.mem_map.mp hspan
  obtain ⟨rfl, rfl⟩ := Prod.mk.inj hplace
  have hnode : isNodeName name = true := isKeyword_text_eq_false_iff.mp hkeyword
  have hnot : spot.2.defines name = false := by
    rw [← Bool.not_eq_true]
    exact fun hdefined =>
      hundefined (mem_lineDefinitions_of_defines hline hplaced hname hdefined)
  simp only [Stretch.defines, hnode, Bool.true_and, Bool.or_eq_false_iff, bne_eq_false_iff_eq,
    beq_eq_false_iff_ne] at hnot
  obtain ⟨⟨_, hsource⟩, htarget⟩ := hnot
  obtain ⟨target, hfound, hstart⟩ := Option.map_eq_some_iff.mp htarget
  have hother : spot.2.source? ≠ some name := fun hfrom => hsource (by rw [hfrom]; rfl)
  have htext := Stretch.target?_text_eq hname hnode hother hfound hstart
  exact leadsTo_iff.mpr ⟨spot, hplaced, target, hfound, by rw [hstart]; rfl, htext⟩

/-- What a line defines that is looked at is a node of the document. -/
theorem mem_nodes {limits : Limits} {lines : List Text} {line id : Text} (hline : line ∈ lines)
    (hinspected : isInspected limits line = true) (h : id ∈ lineDefinitions line) :
    id ∈ (extractNames limits lines).nodes := by
  rw [extractNames_eq]
  exact List.mem_eraseDups.mpr
    (List.mem_flatMap.mpr ⟨line, List.mem_filter.mpr ⟨hline, hinspected⟩, h⟩)

/-- A reference that is no node is only a target. -/
theorem onlyTarget_of_mem_references {limits : Limits} {lines : List Text} {id : Text}
    (hreference : id ∈ (extractNames limits lines).references)
    (hundefined : id ∉ (extractNames limits lines).nodes) : OnlyTarget limits lines id := by
  have hnot : ∀ line ∈ lines, IsScanned limits line → id ∉ lineDefinitions line :=
    fun line hline hscanned hdefined => hundefined (mem_nodes hline hscanned.1 hdefined)
  have hnotFrom : ∀ line ∈ lines, IsScanned limits line →
      ∀ place, ¬ LeadsFrom (prepareLine line) place id :=
    fun line hline hscanned place hfrom =>
      hnot line hline hscanned (hfrom.mem_lineDefinitions hscanned.2)
  rw [extractNames_eq] at hreference
  obtain ⟨line, hkept, hmem⟩ := List.mem_flatMap.mp (List.mem_eraseDups.mp hreference)
  obtain ⟨hline, hinspected⟩ := List.mem_filter.mp hkept
  obtain ⟨_, hkeyword, _⟩ := of_mem_references hmem
  have hscanned : IsScanned limits line := by
    refine ⟨hinspected, Decidable.byContradiction fun hnone => ?_⟩
    rw [lineReferences, if_neg hnone] at hmem
    cases hmem
  refine ⟨?_, hnotFrom, fun line hline hscanned place hspan =>
    leadsTo_of_mem_spans hscanned.2 hkeyword (hnot line hline hscanned) hspan⟩
  obtain ⟨place, hto | hfrom⟩ := (mem_lineReferences_iff hscanned.2).mp hmem
  · exact ⟨line, hline, hscanned, place, hto⟩
  · exact absurd hfrom (hnotFrom line hline hscanned place)

/-- **The sources of arrows are defined.** What is found before an arrow, in the window that is
cut at the arrow, is a name of the blanked line at the same place, and a node; so a reference
that is no node, and one that is reported as misspelt, is only ever the target of arrows. -/
theorem arrow_sources_defined (limits : Limits) (lines : List Text) :
    (∀ line ∈ lines, IsScanned limits line → ∀ place id, LeadsFrom (prepareLine line) place id →
      (place, id) ∈ spans (blankArrows (prepareLine line)) ∧
        id ∈ (extractNames limits lines).nodes) ∧
    (∀ id ∈ (extractNames limits lines).references, id ∉ (extractNames limits lines).nodes →
      OnlyTarget limits lines id) ∧
    ∀ issue ∈ analyzeLines limits lines, issue.kind = .possibleTypo →
      ∃ id node number column, issue = typoIssue id node number column ∧
        OnlyTarget limits lines id := by
  refine ⟨fun line hline hscanned place id hfrom => ⟨hfrom.mem_spans, ?_⟩,
    fun id => onlyTarget_of_mem_references, fun issue hissue hkind => ?_⟩
  · exact mem_nodes hline hscanned.1 (hfrom.mem_lineDefinitions hscanned.2)
  · have htypo : issue ∈ issuesOf .possibleTypo (analyzeLines limits lines) :=
      List.mem_filter.mpr ⟨hissue, decide_eq_true hkind⟩
    rw [issuesOf_possibleTypo] at htypo
    obtain ⟨id, hreference, hmade⟩ := List.mem_filterMap.mp htypo
    obtain ⟨hundefined, _, node, number, column, _, _, rfl⟩ := of_typoIssue?_eq_some hmade
    exact ⟨id, node, number, column, rfl, onlyTarget_of_mem_references hreference hundefined⟩

/-- A line in which a name with a hyphen stands between a label and a thick arrow. -/
def hyphenLine : Text :=
  "X[a b] -->|go| Step-==>Far".toList

/-- The second arrow leads from the name with its hyphen, which is a node; the first leads to the
name without it, which is a target only, and is reported. -/
theorem arrow_sources_defined_hyphen :
    LeadsFrom (prepareLine hyphenLine) 12 "Step-".toList ∧
      (12, "Step-".toList) ∈ spans (blankArrows (prepareLine hyphenLine)) ∧
      "Step-".toList ∈ (extractNames {} [hyphenLine]).nodes ∧
      OnlyTarget {} [hyphenLine] "Step".toList ∧
      (analyzeLines {} [hyphenLine]).map Issue.reference? = [some "Step".toList] := by
  obtain ⟨hsources, htargets, _⟩ := arrow_sources_defined {} [hyphenLine]
  have hscanned : IsScanned {} hyphenLine := by decide
  have hfrom : LeadsFrom (prepareLine hyphenLine) 12 "Step-".toList :=
    leadsFrom_iff.mpr ⟨(11, ⟨true, " Step-".toList, some "==>".toList⟩), by decide,
      ⟨1, "Step-".toList, []⟩, by decide, rfl, rfl⟩
  obtain ⟨hspan, hnode⟩ := hsources hyphenLine List.mem_cons_self hscanned 12 _ hfrom
  exact ⟨hfrom, hspan, hnode, htargets _ (by decide) (by decide), by decide⟩

end Flowchart
