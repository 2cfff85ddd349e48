import Flowchart.Proofs.Chain.Names

/-!
# Chains with brackets in the labels of their arrows

The label of an arrow may have brackets in pairs.  Such a label refers to nothing,
but what stands in it is read for definitions as the rest of the line is: a name
that a bracket follows at once is defined.  So labels without such a name can be
exchanged for each other, or left out.

Main statement: `extractNames_inscribed`.
-/

namespace Flowchart

/-- A label of an arrow between two bars, with brackets in pairs. -/
structure NestedLabel where
  /-- The blanks before it. -/
  gap : Text
  /-- The characters between the bars. -/
  label : Text
  /-- There are only blanks before it. -/
  blankGap : Blanks gap
  /-- There are no bars in the label. -/
  unbarred : ∀ c ∈ label, c ≠ '|'
  /-- There are no literals in the label. -/
  unquoted : Unquoted label
  /-- The brackets in the label come in pairs. -/
  nested : Nested label

namespace NestedLabel

/-- The characters of a label. -/
def text (label : NestedLabel) : Text :=
  label.gap ++ '|' :: label.label ++ ['|']

/-- What preparation leaves of a label. -/
def prepared (label : NestedLabel) : Text :=
  label.gap ++ '|' :: prepareLine label.label ++ ['|']

/-- The nodes in a label that a bracket follows at once. -/
def nodes (label : NestedLabel) : List Text :=
  shapedNodes (prepareLine label.label)

end NestedLabel

/-- A leg whose arrow may have a label with brackets. -/
structure InscribedLeg extends Leg where
  /-- The label of the arrow. -/
  label : Option NestedLabel
  /-- The arrow has no other label. -/
  unlabelled : arrow.label = none

namespace InscribedLeg

/-- The characters of the label, if there is one. -/
def labelText (leg : InscribedLeg) : Text :=
  (leg.label.map NestedLabel.text).getD []

/-- The nodes that the label names, if there is one. -/
def labelNodes (leg : InscribedLeg) : List Text :=
  (leg.label.map NestedLabel.nodes).getD []

/-- The leg without its label; the blanks before the label are kept. -/
def plain (leg : InscribedLeg) : Leg :=
  { leg.toLeg with
    space := (leg.label.map NestedLabel.gap).getD [] ++ leg.space
    blankSpace := by
      cases leg.label with
      | none => exact leg.blankSpace
      | some label => exact List.forall_mem_append.mpr ⟨label.blankGap, leg.blankSpace⟩ }

end InscribedLeg

/-- The characters of legs and of the endpoint behind them, with their labels. -/
def inscribedText : List InscribedLeg → Endpoint → Text
  | [], last => last.text
  | leg :: legs, last =>
    leg.source.text ++ leg.gap ++ leg.arrow.text ++ leg.labelText ++ leg.space
      ++ inscribedText legs last

/-- A chain whose arrows may have labels with brackets. -/
structure InscribedChain where
  /-- The blanks in front. -/
  indent : Text
  /-- The endpoints that an arrow leaves. -/
  legs : List InscribedLeg
  /-- The last endpoint. -/
  last : Endpoint
  /-- There are only blanks in front. -/
  blankIndent : Blanks indent

namespace InscribedChain

/-- The characters of the chain. -/
def text (inscribed : InscribedChain) : Text :=
  inscribed.indent ++ inscribedText inscribed.legs inscribed.last

/-- The chain without the labels of its arrows. -/
def plain (inscribed : InscribedChain) : Chain where
  indent := inscribed.indent
  legs := inscribed.legs.map InscribedLeg.plain
  last := inscribed.last
  blankIndent := inscribed.blankIndent

/-- The names of the endpoints that are not the last one or have a shape, each with those
that a bracket follows in the label of its arrow. -/
def definedIds (inscribed : InscribedChain) : List Text :=
  inscribed.legs.flatMap (fun leg => leg.source.id :: leg.labelNodes)
    ++ inscribed.last.shapedIds

/-- In no label a bracket follows a name at once. -/
def Mute (inscribed : InscribedChain) : Prop :=
  ∀ leg ∈ inscribed.legs, leg.labelNodes = []

end InscribedChain

/-! ## Names in front of a bar -/

/-- The nodes among lexemes that a bracket follows at once. -/
def shapedLexemes : List Piece → List Text
  | [] => []
  | .plain _ :: rest => shapedLexemes rest
  | .lexeme text behind :: rest =>
    if opensShape behind && !isKeyword text then text :: shapedLexemes rest
    else shapedLexemes rest

/-- The nodes that a bracket follows are among the lexemes. -/
theorem shapedNodes_eq_shapedLexemes (text : Text) :
    shapedNodes text = shapedLexemes (pieces identifier text) := by
  have hcut : ∀ (start : Nat) (cut : List Piece),
      (((occurrencesFrom start cut).filter fun name => opensShape name.rest).filter
        isNodeName).map (·.text) = shapedLexemes cut := by
    intro start cut
    induction cut generalizing start with
    | nil => rfl
    | cons piece cut ih =>
        cases piece with
        | plain c => exact ih (start + 1)
        | lexeme text behind =>
            have hrest := ih (start + text.length)
            rw [occurrencesFrom, shapedLexemes, ← hrest]
            cases hopens : opensShape behind <;> cases hkeyword : isKeyword text <;>
              simp [isNodeName, hopens, hkeyword]
  exact hcut 0 (pieces identifier text)

/-- Characters between lexemes are no nodes. -/
theorem shapedLexemes_plain_append (part : Text) (cut : List Piece) :
    shapedLexemes (part.map .plain ++ cut) = shapedLexemes cut := by
  induction part with
  | nil => rfl
  | cons c part ih => exact ih

/-- A bar ends every run of name characters. -/
theorem nameRun_append_bar (text : Text) : nameRun (text ++ ['|']) = nameRun text := by
  induction text with
  | nil => rfl
  | cons c text ih =>
      have hgoes : GoesOn c (text ++ ['|']) ↔ GoesOn c text := by
        cases text <;> exact Iff.rfl
      rw [List.cons_append]
      by_cases hc : GoesOn c text
      · rw [nameRun_of_goesOn hc, nameRun_of_goesOn (hgoes.mpr hc), ih]
      · rw [nameRun_of_not_goesOn hc, nameRun_of_not_goesOn fun h => hc (hgoes.mp h)]

/-- A bar at the end of a text goes on no identifier. -/
theorem identifier_append_bar (before : Option Char) (c : Char) (text : Text) :
    identifier before (c :: (text ++ ['|'])) = identifier before (c :: text) := by
  simp only [identifier, leadingName?, nameRun_append_bar]

/-- A bar at the end of a text opens no shape. -/
theorem opensShape_append_bar (text : Text) : opensShape (text ++ ['|']) = opensShape text := by
  cases text <;> rfl

/-- In front of a bar the same names stand as at the end of a text. -/
theorem shapedLexemes_append_bar (before : Option Char) (skip : Nat) (text : Text)
    (hskip : skip ≤ text.length) :
    shapedLexemes (piecesFrom identifier before skip (text ++ ['|']))
      = shapedLexemes (piecesFrom identifier before skip text) := by
  induction text generalizing before skip with
  | nil =>
      obtain rfl := Nat.le_zero.mp hskip
      have hbar : identifier before ['|'] = none := identifier_eq_none rfl
      rw [List.nil_append, piecesFrom_plain hbar, piecesFrom_nil, piecesFrom_nil]
      rfl
  | cons c text ih =>
      cases skip with
      | succ skip => exact ih (some c) skip (Nat.le_of_succ_le_succ hskip)
      | zero =>
          rw [List.cons_append, piecesFrom, piecesFrom, identifier_append_bar]
          split
          · rename_i first more hfound
            have hshort : more.length ≤ text.length := by
              have hfront := (identifier_sound _ _ _ hfound).length_le
              simpa using hfront
            rw [shapedLexemes, shapedLexemes, ih (some c) more.length hshort,
              List.drop_append_of_le_length hshort, opensShape_append_bar]
          · exact ih (some c) 0 (Nat.zero_le _)

/-- Between bars the same names stand as in the label alone, if the front has no letters. -/
theorem shapedNodes_bars {front : Text} (hfront : ∀ c ∈ front, c.isAlpha = false)
    (label : Text) : shapedNodes (front ++ '|' :: (label ++ ['|'])) = shapedNodes label := by
  have hplain : ∀ c ∈ front ++ ['|'], c.isAlpha = false := by
    intro c hc
    rcases List.mem_append.mp hc with hmem | hbar
    · exact hfront c hmem
    · obtain rfl := List.mem_singleton.mp hbar
      rfl
  have hlast : lastBefore none (front ++ ['|']) = some '|' := by
    simp [lastBefore]
  have hbehind : piecesFrom identifier (some '|') 0 (label ++ ['|'])
      = piecesFrom identifier none 0 (label ++ ['|']) := by
    cases label <;> rfl
  have hcut := @piecesFrom_append identifier none (front ++ ['|']) (label ++ ['|'])
    fun _ c _ hpart => identifier_eq_none (hplain c (by simp [hpart]))
  rw [hlast, hbehind, List.append_assoc] at hcut
  rw [shapedNodes_eq_shapedLexemes, shapedNodes_eq_shapedLexemes, pieces, pieces,
    ← shapedLexemes_append_bar none 0 label (Nat.zero_le _)]
  exact (congrArg shapedLexemes hcut).trans (shapedLexemes_plain_append _ _)

/-! ## Preparation -/

/-- A label stands between its two bars. -/
theorem NestedLabel.text_append (label : NestedLabel) (rest : Text) :
    label.text ++ rest = label.gap ++ '|' :: (label.label ++ '|' :: rest) := by
  simp [NestedLabel.text]

/-- What preparation leaves of a label stands between the same bars. -/
theorem NestedLabel.prepared_append (label : NestedLabel) (rest : Text) :
    label.prepared ++ rest = label.gap ++ '|' :: (prepareLine label.label ++ '|' :: rest) := by
  simp [NestedLabel.prepared]

/-- A label is prepared by itself, whatever follows. -/
theorem NestedLabel.dropClassTags_maskShapes (label : NestedLabel) (rest : Text) :
    dropClassTags (maskShapes (label.text ++ rest))
      = label.prepared ++ dropClassTags (maskShapes rest) := by
  have hmask : maskShapes (label.text ++ rest)
      = label.gap ++ '|' :: (maskShapes label.label ++ '|' :: maskShapes rest) := by
    have hbar : ∀ behind, maskShapes ('|' :: behind) = '|' :: maskShapes behind :=
      bar_neutral.maskShapes_append
    rw [label.text_append, label.blankGap.neutral.maskShapes_append, hbar,
      label.nested.maskShapes_append, hbar]
  rw [hmask, dropClassTags_bars label.blankGap, label.prepared_append, prepareLine,
    label.unquoted.extractLiterals_line]

/-- What preparation leaves of the label, if there is one. -/
def InscribedLeg.preparedLabel (leg : InscribedLeg) : Text :=
  (leg.label.map NestedLabel.prepared).getD []

/-- The label of a leg is prepared by itself. -/
theorem InscribedLeg.dropClassTags_maskShapes (leg : InscribedLeg) (rest : Text) :
    dropClassTags (maskShapes (leg.labelText ++ rest))
      = leg.preparedLabel ++ dropClassTags (maskShapes rest) := by
  unfold InscribedLeg.labelText InscribedLeg.preparedLabel
  cases leg.label with
  | none => rfl
  | some label => exact label.dropClassTags_maskShapes rest

/-- There are no quotes in a label. -/
theorem NestedLabel.unquoted_text (label : NestedLabel) : Unquoted label.text :=
  (label.blankGap.neutral.unquoted.append (bar_neutral.unquoted.append label.unquoted)).append
    bar_neutral.unquoted

/-- There are no quotes in legs and in the endpoint behind them. -/
theorem inscribedText_unquoted (legs : List InscribedLeg) (last : Endpoint) :
    Unquoted (inscribedText legs last) := by
  induction legs with
  | nil => exact last.unquoted
  | cons leg legs ih =>
      have hgap := leg.blankGap.neutral.unquoted
      have hspace := leg.blankSpace.neutral.unquoted
      have harrow := leg.arrow.neutral.unquoted
      have hlabel : Unquoted leg.labelText := by
        unfold InscribedLeg.labelText
        cases leg.label with
        | none => exact nofun
        | some label => exact label.unquoted_text
      have hdrawn := ((leg.source.unquoted.append hgap).append harrow).append hlabel
      exact (hdrawn.append hspace).append ih

/-- No bar comes into a label by its preparation. -/
theorem NestedLabel.prepared_unbarred (label : NestedLabel) :
    ∀ c ∈ prepareLine label.label, c ≠ '|' := by
  intro c hc
  have hmasked := mem_of_mem_dropClassTags hc
  rw [label.unquoted.extractLiterals_line] at hmasked
  exact label.unbarred c (mem_of_mem_maskFrom hmasked)

namespace InscribedLeg

variable (leg : InscribedLeg)

/-- The arrow without its label is its head and its stroke. -/
theorem arrow_text : leg.arrow.text = leg.arrow.tailText ++ leg.arrow.stroke.text := by
  rw [Arrow.text, Arrow.labelText, leg.unlabelled]
  exact List.append_nil _

/-- The arrow is found whole, with what is left of its label. -/
theorem arrow_prepared {rest : Text} (h : LeadsToName rest) :
    arrow none (leg.arrow.text ++ leg.preparedLabel ++ rest)
      = some (leg.arrow.text ++ leg.preparedLabel) := by
  unfold preparedLabel
  cases leg.label with
  | none =>
      rw [Option.map_none, Option.getD_none, List.append_nil]
      exact leg.arrow.arrow_append none h
  | some label =>
      rw [Option.map_some, Option.getD_some, List.append_assoc, leg.arrow_text]
      refine leg.arrow.arrow_label none ?_ ?_
      · rw [label.prepared_append]
        exact label.blankGap.endsStroke_append (by decide) _
      · rw [label.prepared_append]
        exact edgeLabel_bars label.blankGap label.prepared_unbarred rest

/-- What preparation leaves of a leg. -/
def link : Link where
  source := leg.source
  gap := leg.gap
  drawn := leg.arrow.text ++ leg.preparedLabel
  space := leg.space
  blankGap := leg.blankGap
  blankSpace := leg.blankSpace
  ends := by
    intro rest
    have hends := leg.masked.endsName (leg.preparedLabel ++ rest)
    rwa [List.append_assoc]
  found := fun _ hleads => leg.arrow_prepared hleads
  ne_nil := by
    obtain ⟨c, more, htext, _⟩ := leg.arrow.exists_cons
    simp [htext]

/-- The names in a link are those of its leg and of its label. -/
theorem definedIds_link : leg.link.definedIds = leg.source.id :: leg.labelNodes := by
  have hnodes : shapedNodes (leg.arrow.text ++ leg.preparedLabel) = leg.labelNodes := by
    unfold preparedLabel labelNodes
    cases leg.label with
    | none =>
        rw [Option.map_none, Option.getD_none, List.append_nil]
        exact leg.arrow.neutral.shapedNodes_eq
    | some label =>
        have hall : ∀ c ∈ ['-', '=', '.', '>'], c.isAlpha = false := forall_mem_of_all rfl
        have hfront : ∀ c ∈ leg.arrow.text ++ label.gap, c.isAlpha = false := by
          intro c hc
          rw [leg.arrow_text] at hc
          rcases List.mem_append.mp hc with hdrawn | hgap
          · rcases List.mem_append.mp hdrawn with htail | hstroke
            · unfold Arrow.tailText at htail
              split at htail
              · obtain rfl := List.mem_singleton.mp htail
                rfl
              · cases htail
            · exact hall c (Stroke.of_mem hstroke)
          · exact isAlpha_of_isBlank (label.blankGap c hgap)
        have hbars := shapedNodes_bars hfront (prepareLine label.label)
        simpa [NestedLabel.prepared, NestedLabel.nodes] using hbars
  exact congrArg (leg.source.id :: ·) hnodes

end InscribedLeg

/-- What preparation leaves of legs are their links.  The arrow stands between the name and its
label, so the name ends before the arrow whatever becomes of the label. -/
theorem dropClassTags_inscribedText (legs : List InscribedLeg) (last : Endpoint) :
    dropClassTags (maskShapes (inscribedText legs last))
      = linksText (legs.map InscribedLeg.link) last := by
  induction legs with
  | nil =>
      have hmask := maskShapes_legsText [] last
      have hdrop := dropClassTags_legsText [] last
      rw [← hmask] at hdrop
      exact hdrop
  | cons leg legs ih =>
      have hrest : dropClassTags (maskShapes (leg.space ++ inscribedText legs last))
          = leg.space ++ linksText (legs.map InscribedLeg.link) last := by
        rw [leg.blankSpace.neutral.maskShapes_append,
          dropClassTags_append_of_no_colon leg.blankSpace.ne_colon, ih]
      have hends : ∀ behind, EndsName leg.source.id
          (leg.source.masked.shapeText ++ (leg.gap ++ (leg.arrow.text ++ behind))) :=
        leg.masked.endsName
      have huntagged : leg.arrow.untagged.text = leg.arrow.text := by
        rw [Arrow.untagged_text, leg.unlabelled, leg.arrow_text]
        exact List.append_nil _
      simp only [inscribedText, List.map_cons, List.append_assoc]
      rw [leg.source.maskShapes_append, leg.blankGap.neutral.maskShapes_append,
        leg.arrow.neutral.maskShapes_append,
        Endpoint.dropClassTags_append (hends _),
        dropClassTags_append_of_no_colon leg.blankGap.ne_colon, Arrow.dropClassTags_append,
        huntagged, leg.dropClassTags_maskShapes, hrest]
      simp [linksText, InscribedLeg.link]

/-- A chain is prepared to the links of its legs. -/
theorem prepareLine_inscribed (inscribed : InscribedChain) :
    prepareLine inscribed.text
      = inscribed.indent
        ++ linksText (inscribed.legs.map InscribedLeg.link) inscribed.last := by
  have hindent := inscribed.blankIndent
  have hunquoted : Unquoted inscribed.text :=
    hindent.neutral.unquoted.append (inscribedText_unquoted inscribed.legs inscribed.last)
  rw [prepareLine, hunquoted.extractLiterals_line, InscribedChain.text,
    hindent.neutral.maskShapes_append, dropClassTags_append_of_no_colon hindent.ne_colon,
    dropClassTags_inscribedText]

/-! ## Names -/

namespace InscribedChain

variable (inscribed : InscribedChain)

/-- The chain begins with the name of its first endpoint. -/
theorem exists_front :
    ∃ id rest, inscribed.text = inscribed.indent ++ (id ++ rest) ∧ Front id rest := by
  unfold text
  cases inscribed.legs with
  | nil => exact ⟨inscribed.last.id, inscribed.last.shapeText, rfl, inscribed.last.front_alone⟩
  | cons leg legs =>
      refine ⟨leg.source.id, _, ?_,
        leg.front (leg.labelText ++ (leg.space ++ inscribedText legs inscribed.last))⟩
      simp [inscribedText, Endpoint.text]

/-- A chain that is not too long is looked at. -/
theorem isInspected_eq {limits : Limits}
    (h : (inscribed.text.length : Int) ≤ limits.maxLineLength) :
    isInspected limits inscribed.text = true := by
  obtain ⟨id, rest, htext, hfront⟩ := inscribed.exists_front
  rw [htext] at h ⊢
  exact hfront.isInspected_eq inscribed.blankIndent h

/-- A chain names nodes. -/
theorem namesNodes_eq : namesNodes inscribed.text = true := by
  obtain ⟨id, rest, htext, hfront⟩ := inscribed.exists_front
  rw [htext, hfront.namesNodes_eq inscribed.blankIndent]

/-- The definitions of a chain with an arrow are the names that it defines. -/
theorem lineDefinitions_eq (hlegs : inscribed.legs ≠ []) :
    lineDefinitions inscribed.text = inscribed.definedIds := by
  have hlinks : inscribed.legs.map InscribedLeg.link ≠ [] := by simpa using hlegs
  rw [lineDefinitions_links inscribed.namesNodes_eq inscribed.blankIndent hlinks
    (prepareLine_inscribed inscribed), List.flatMap_map]
  simp only [InscribedLeg.definedIds_link, definedIds]

/-- The labels refer to nothing. -/
theorem lineReferences_eq (hlegs : inscribed.legs ≠ []) :
    lineReferences inscribed.text = lineReferences inscribed.plain.text := by
  obtain ⟨leg, legs, hcons⟩ := List.exists_cons_of_ne_nil hlegs
  have hplain : inscribed.plain.legs = leg.plain :: legs.map InscribedLeg.plain := by
    rw [plain, hcons, List.map_cons]
  have hprepared := prepareLine_inscribed inscribed
  rw [hcons, List.map_cons] at hprepared
  rw [lineReferences_links inscribed.namesNodes_eq inscribed.blankIndent hprepared,
    Chain.lineReferences_eq hplain, List.flatMap_map, List.flatMap_map]
  rfl

/-- Without such labels a chain defines the same names. -/
theorem definedIds_of_mute (h : inscribed.Mute) :
    inscribed.definedIds = inscribed.plain.definedIds := by
  have hlegs : inscribed.legs.flatMap (fun leg => leg.source.id :: leg.labelNodes)
      = inscribed.legs.flatMap fun leg => [leg.source.id] :=
    List.flatMap_congr fun leg hleg => by rw [h leg hleg]
  rw [definedIds, hlegs, ← List.map_eq_flatMap, Chain.definedIds, plain, List.map_map]
  rfl

end InscribedChain

/-- The names of a chain with labels: those of the chain without them, and what the labels
define. -/
theorem extractNames_of_inscribed {limits : Limits} {inscribed : InscribedChain}
    (hlegs : inscribed.legs ≠ [])
    (hlength : (inscribed.text.length : Int) ≤ limits.maxLineLength) :
    extractNames limits [inscribed.text]
      = ⟨inscribed.definedIds.eraseDups, inscribed.plain.ids.eraseDups⟩ := by
  have hplain : inscribed.plain.legs ≠ [] := by
    simpa [InscribedChain.plain] using hlegs
  simp [extractNames_eq, inscribed.isInspected_eq hlength, inscribed.lineDefinitions_eq hlegs,
    inscribed.lineReferences_eq hlegs, Chain.eraseDups_lineReferences hplain]

/-- **The labels of arrows refer to nothing, and define the names in them that a bracket
follows**; where they have none, they can be exchanged or left out. -/
theorem extractNames_inscribed (limits : Limits) (inscribed : InscribedChain)
    (hlegs : inscribed.legs ≠ [])
    (hlength : (inscribed.text.length : Int) ≤ limits.maxLineLength) :
    extractNames limits [inscribed.text]
        = ⟨inscribed.definedIds.eraseDups, inscribed.plain.ids.eraseDups⟩ ∧
      ∀ other : InscribedChain, other.plain = inscribed.plain →
        (other.text.length : Int) ≤ limits.maxLineLength →
        (extractNames limits [other.text]).references
            = (extractNames limits [inscribed.text]).references ∧
          (inscribed.Mute → other.Mute →
            extractNames limits [other.text] = extractNames limits [inscribed.text]) := by
  have hnames := extractNames_of_inscribed hlegs hlength
  refine ⟨hnames, fun other hother hotherLength => ?_⟩
  have hotherLegs : other.legs ≠ [] := by
    intro hnil
    have hmaps := congrArg Chain.legs hother
    simp only [InscribedChain.plain, hnil, List.map_nil] at hmaps
    exact hlegs (List.map_eq_nil_iff.mp hmaps.symm)
  have hotherNames := extractNames_of_inscribed hotherLegs hotherLength
  refine ⟨by rw [hnames, hotherNames, hother], fun hmute hotherMute => ?_⟩
  rw [hnames, hotherNames, inscribed.definedIds_of_mute hmute,
    other.definedIds_of_mute hotherMute, hother]

/-- The arrow `A-->B` with that label. -/
def edgeWith (label : Option NestedLabel) : InscribedChain where
  indent := []
  legs := [{ toLeg := legA, label := label, unlabelled := rfl }]
  last := nodeB
  blankIndent := Blanks.nil

/-- The label `(g(y)) f [z]`, in which a blank keeps the only name outside of brackets from
the bracket behind it. -/
def asideLabel : NestedLabel where
  gap := []
  label := "(g(y)) f [z]".toList
  blankGap := Blanks.nil
  unbarred := forall_mem_of_all rfl
  unquoted := forall_mem_of_all rfl
  nested :=
    .group .round (.plain rfl (.group .round (.plain rfl .nil) .nil))
      (.plain rfl (.plain rfl (.plain rfl (.group .square (.plain rfl .nil) .nil))))

/-- The label `f(x)`. -/
def callLabel : NestedLabel where
  gap := []
  label := "f(x)".toList
  blankGap := Blanks.nil
  unbarred := forall_mem_of_all rfl
  unquoted := forall_mem_of_all rfl
  nested := .plain rfl (.group .round (.plain rfl .nil) .nil)

/-- A label that can be left out, and what it has in common with one that cannot. -/
theorem extractNames_inscribed_aside :
    (edgeWith (some asideLabel)).text = "A-->|(g(y)) f [z]|B".toList ∧
      extractNames {} [(edgeWith (some asideLabel)).text]
        = ⟨["A".toList], ["A".toList, "B".toList]⟩ ∧
      extractNames {} [(edgeWith none).text]
        = extractNames {} [(edgeWith (some asideLabel)).text] ∧
      (extractNames {} [(edgeWith (some callLabel)).text]).references
        = (extractNames {} [(edgeWith (some asideLabel)).text]).references := by
  have hnames := extractNames_inscribed {} (edgeWith (some asideLabel)) (List.cons_ne_nil _ _)
    (by decide)
  have hmute : (edgeWith (some asideLabel)).Mute := by
    intro leg hleg
    obtain rfl := List.mem_singleton.mp hleg
    decide
  have hplain : (edgeWith none).Mute := by
    intro leg hleg
    obtain rfl := List.mem_singleton.mp hleg
    rfl
  exact ⟨by decide, hnames.1.trans (by decide),
    (hnames.2 (edgeWith none) rfl (by decide)).2 hmute hplain,
    (hnames.2 (edgeWith (some callLabel)) rfl (by decide)).1⟩

/-- A name in a label becomes a node through the bracket behind it. -/
theorem extractNames_callLabel :
    (edgeWith (some callLabel)).text = "A-->|f(x)|B".toList ∧
      extractNames {} [(edgeWith (some callLabel)).text]
        = ⟨["A".toList, "f".toList], ["A".toList, "B".toList]⟩ ∧
      extractNames {} [(edgeWith none).text]
        = ⟨["A".toList], ["A".toList, "B".toList]⟩ := by
  refine ⟨by decide, by decide, by decide⟩

end Flowchart
