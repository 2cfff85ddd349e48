import Flowchart.Edge.Stretch
import Flowchart.Proofs.Chain.Arrow

/-!
# The stretches of a chain

What preparation leaves of a chain are links: endpoints with masked shapes, each
before an arrow that is found whole.  The arrows cut the line at its links: one
stretch for each endpoint, with the blanks around it.  In such a stretch there is
one name, which is its source where an arrow follows and its target where an arrow
stands before it.  So a link defines its name, and the last endpoint its own only
with a shape; the label of an arrow defines the names in it that a bracket follows.

Main statements: `stretches_links`, `flatMap_definitions`, `flatMap_references`.
-/

namespace Flowchart

/-! ## Cutting at the arrows -/

/-- In a name that ends before the rest no arrow begins. -/
theorem IsName.pieces_arrow {id rest : Text} (h : IsName id) (hends : EndsName id rest) :
    pieces arrow (id ++ rest) = id.map .plain ++ pieces arrow rest := by
  have hall : ∀ c ∈ ['<', '-', '='], isNameChar c = false := forall_mem_of_all rfl
  refine arrow_blind.pieces_append fun front c back hpart => ?_
  rcases h.of_mem (by simp [hpart] : c ∈ id) with hname | rfl
  · refine arrow_eq_none fun hmem => ?_
    rw [hall c hmem] at hname
    cases hname
  · exact arrow_hyphen (h.continuesArrow_append hends hpart)

/-- In a masked endpoint no arrow begins. -/
theorem Endpoint.pieces_arrow {endpoint : Endpoint} {rest : Text}
    (hends : EndsName endpoint.id (endpoint.masked.shapeText ++ rest)) :
    pieces arrow (endpoint.masked.text ++ rest)
      = endpoint.masked.text.map .plain ++ pieces arrow rest := by
  have hshape : pieces arrow (endpoint.masked.shapeText ++ rest)
      = endpoint.masked.shapeText.map .plain ++ pieces arrow rest := by
    have hall : ∀ c ∈ enclosers, c ∉ ['<', '-', '='] := forall_mem_of_all rfl
    refine arrow_blind.pieces_append fun front c back hpart => ?_
    have hc : c ∈ endpoint.masked.shapeText := by simp [hpart]
    exact arrow_eq_none (hall c (Endpoint.mem_enclosers_of_mem_masked hc))
  rw [endpoint.masked_text, List.append_assoc, endpoint.isName.pieces_arrow hends, hshape,
    List.map_append, List.append_assoc]

/-! ## Links -/

/-- An endpoint that is prepared, and the arrow that leads on from it. -/
structure Link where
  /-- The endpoint, whose shape is masked in the text. -/
  source : Endpoint
  /-- The blanks before the arrow. -/
  gap : Text
  /-- The characters of the arrow. -/
  drawn : Text
  /-- The blanks behind the arrow. -/
  space : Text
  /-- There are only blanks before the arrow. -/
  blankGap : Blanks gap
  /-- There are only blanks behind the arrow. -/
  blankSpace : Blanks space
  /-- The name ends before the shape, the gap or the arrow. -/
  ends : ∀ rest, EndsName source.id (source.masked.shapeText ++ (gap ++ (drawn ++ rest)))
  /-- The arrow is found whole where a name follows. -/
  found : ∀ rest, LeadsToName rest → arrow none (drawn ++ rest) = some drawn
  /-- The arrow is not empty. -/
  ne_nil : drawn ≠ []

/-- The characters of links and of the endpoint behind them. -/
def linksText : List Link → Endpoint → Text
  | [], last => last.masked.text
  | link :: links, last =>
    link.source.masked.text ++ link.gap ++ link.drawn ++ link.space ++ linksText links last

/-- The stretch of a link behind those blanks. -/
def Link.stretch (link : Link) (entered : Bool) (lead : Text) : Stretch :=
  ⟨entered, lead ++ (link.source.masked.text ++ link.gap), some link.drawn⟩

/-- The stretch of the last endpoint behind those blanks. -/
def Endpoint.stretch (endpoint : Endpoint) (entered : Bool) (lead : Text) : Stretch :=
  ⟨entered, lead ++ endpoint.masked.text, none⟩

/-- The stretches of links and of the endpoint behind them, the first of which begins with
the blanks `lead`. -/
def linkStretches (entered : Bool) (lead : Text) : List Link → Endpoint → List Stretch
  | [], last => [last.stretch entered lead]
  | link :: links, last => link.stretch entered lead :: linkStretches true link.space links last

/-- Links and the endpoint behind them begin with a letter. -/
theorem exists_linksText (links : List Link) (last : Endpoint) :
    ∃ c rest, linksText links last = c :: rest ∧ c.isAlpha = true := by
  have hname : ∀ endpoint : Endpoint, ∃ c run, endpoint.id = c :: run ∧ c.isAlpha = true := by
    intro endpoint
    obtain ⟨c, run, hid, halpha, _⟩ := isName_iff.mp endpoint.isName
    exact ⟨c, run, hid, halpha⟩
  cases links with
  | nil =>
      obtain ⟨c, run, hid, halpha⟩ := hname last
      exact ⟨c, run ++ last.masked.shapeText, by simp [linksText, last.masked_text, hid], halpha⟩
  | cons link links =>
      obtain ⟨c, run, hid, halpha⟩ := hname link.source
      exact ⟨c, _, by simp [linksText, link.source.masked_text, hid]; rfl, halpha⟩

/-- The arrows of links cut the text at the links. -/
theorem stretchesFrom_linksText (entered : Bool) {lead : Text} (hlead : Blanks lead)
    (links : List Link) (last : Endpoint) :
    stretchesFrom entered (pieces arrow (lead ++ linksText links last))
      = linkStretches entered lead links last := by
  induction links generalizing entered lead with
  | nil =>
      have hpieces : pieces arrow last.masked.text
          = last.masked.text.map .plain ++ [] := by
        have happend := Endpoint.pieces_arrow last.masked.endsName
        rwa [List.append_nil] at happend
      rw [linksText, hlead.pieces_arrow, hpieces, ← List.append_assoc, ← List.map_append,
        stretchesFrom_plain rfl, List.append_nil]
      rfl
  | cons link links ih =>
      obtain ⟨c, rest, hrest, halpha⟩ := exists_linksText links last
      have hleads : LeadsToName (link.space ++ linksText links last) :=
        ⟨link.space, c, rest, by rw [hrest], link.blankSpace, halpha⟩
      have hfound := link.found _ hleads
      simp only [linksText, List.append_assoc]
      rw [hlead.pieces_arrow, Endpoint.pieces_arrow (link.ends _), link.blankGap.pieces_arrow,
        arrow_blind.pieces_lexeme link.ne_nil hfound, ← List.append_assoc, ← List.append_assoc,
        ← List.map_append, ← List.map_append, stretchesFrom_plain rfl, ih true link.blankSpace,
        linkStretches, Link.stretch, List.append_nil, List.append_assoc]

/-- The stretches of a line that is prepared to links. -/
theorem stretches_links {line lead : Text} (hlead : Blanks lead) {links : List Link}
    {last : Endpoint} (h : prepareLine line = lead ++ linksText links last) :
    stretches (prepareLine line) = linkStretches false lead links last := by
  rw [h]
  exact stretchesFrom_linksText false hlead links last

/-! ## The name in a stretch -/

section Endpoint

variable {endpoint : Endpoint} {lead gap : Text}

/-- There is no letter in a masked shape and the blanks behind it. -/
theorem isAlpha_of_mem_masked (hgap : Blanks gap) :
    ∀ c ∈ endpoint.masked.shapeText ++ gap, c.isAlpha = false := by
  have hall : ∀ c ∈ enclosers, c.isAlpha = false := forall_mem_of_all rfl
  intro c hc
  rcases List.mem_append.mp hc with hshape | hblank
  · exact hall c (Endpoint.mem_enclosers_of_mem_masked hshape)
  · exact isAlpha_of_isBlank (hgap c hblank)

/-- The name is the only one in the stretch. -/
theorem occurrences_masked (hlead : Blanks lead) (hgap : Blanks gap) :
    occurrences identifier (lead ++ (endpoint.masked.text ++ gap))
      = [⟨lead.length, endpoint.id, endpoint.masked.shapeText ++ gap⟩] := by
  have hends := @Endpoint.endsName_append endpoint.masked gap [] hgap fun _ _ =>
    ⟨rfl, fun _ => rfl⟩
  rw [List.append_nil] at hends
  rw [endpoint.masked_text, List.append_assoc]
  exact occurrences_name hlead endpoint.isName hends (isAlpha_of_mem_masked hgap)

/-- Blanks begin with no shape. -/
theorem dropShape_blanks (hgap : Blanks gap) : dropShape gap = gap := by
  have hopener : ∀ c rest, gap = c :: rest → isBlank c = true := by
    rintro c rest rfl
    exact hgap c List.mem_cons_self
  unfold dropShape
  split
  · exact absurd (hopener _ _ rfl) (by decide)
  · exact absurd (hopener _ _ rfl) (by decide)
  · exact absurd (hopener _ _ rfl) (by decide)
  · rfl

/-- Nothing but a masked shape and blanks follows the name. -/
theorem endsEndpoint_masked (hgap : Blanks gap) :
    endsEndpoint (endpoint.masked.shapeText ++ gap) = true := by
  unfold endsEndpoint
  rw [endpoint.masked_shapeText]
  cases endpoint.shape with
  | none =>
      rw [Option.map_none, Option.map_none, Option.getD_none, List.nil_append,
        dropShape_blanks hgap]
      exact hgap.all
  | some shape =>
      have hdrop : dropShape (shape.bracket.opener :: shape.bracket.closer :: gap) = gap := by
        cases shape.bracket <;> rfl
      exact (congrArg (List.all · isBlank) hdrop).trans hgap.all

/-- A shape follows the name at once if the endpoint has one. -/
theorem opensShape_masked (hgap : Blanks gap) :
    opensShape (endpoint.masked.shapeText ++ gap) = endpoint.shape.isSome := by
  rw [endpoint.masked_shapeText]
  cases endpoint.shape with
  | some shape => exact shape.bracket.isOpener_opener
  | none =>
      cases gap with
      | nil => rfl
      | cons c gap => exact hgap.neutral.isOpener_of_mem List.mem_cons_self

/-- The name is read from the front of the stretch, where it ends. -/
theorem firstEndpoint?_masked {rest : Text} (hlead : Blanks lead)
    (hends : EndsName endpoint.id (endpoint.masked.shapeText ++ rest)) :
    firstEndpoint? (lead ++ (endpoint.masked.text ++ rest))
      = some ⟨lead.length, endpoint.id, endpoint.masked.shapeText ++ rest⟩ := by
  have hsolid := endpoint.isName.solid (endpoint.masked.shapeText ++ rest)
  rw [endpoint.masked_text, List.append_assoc]
  unfold firstEndpoint?
  rw [hlead.trimStart_append, hsolid.trimStart_eq, hlead.indentOf_append hsolid,
    endpoint.isName.leadingName?_append hends, Option.map_some, List.drop_left]

end Endpoint

/-- The nodes in a text that a bracket follows at once. -/
def shapedNodes (text : Text) : List Text :=
  ((shapedNames text).filter isNodeName).map (·.text)

/-- In neutral characters no bracket follows a name. -/
theorem Neutral.shapedNodes_eq {text : Text} (h : Neutral text) : shapedNodes text = [] := by
  have hnone : shapedNames text = [] := by
    refine List.filter_eq_nil_iff.mpr fun name hname hopens => ?_
    obtain ⟨front, htext, _, _⟩ := exists_of_mem_occurrences identifier_sound hname
    cases hrest : name.rest with
    | nil =>
        rw [hrest] at hopens
        cases hopens
    | cons c rest =>
        rw [hrest] at hopens
        have hc := h.isOpener_of_mem (c := c) (by simp [htext, hrest])
        rw [opensShape, hc] at hopens
        cases hopens
  rw [shapedNodes, hnone]
  rfl

/-! ## What a stretch defines and refers to -/

/-- The names that a link defines: that of its endpoint, and those in the label of its
arrow that a bracket follows. -/
def Link.definedIds (link : Link) : List Text :=
  link.source.id :: shapedNodes link.drawn

/-- The name of an endpoint is that of a node. -/
theorem Endpoint.filter_isNodeName (endpoint : Endpoint) (start : Nat) (rest : Text) :
    (some ⟨start, endpoint.id, rest⟩ : Option Occurrence).filter isNodeName
      = some ⟨start, endpoint.id, rest⟩ := by
  simp [Option.filter, isNodeName, endpoint.isNode]

section Stretch

variable {lead : Text} (hlead : Blanks lead) (entered : Bool)

include hlead

/-- An arrow leads from the name of a link. -/
theorem Link.source?_stretch (link : Link) :
    (link.stretch entered lead).source?
      = some ⟨lead.length, link.source.id, link.source.masked.shapeText ++ link.gap⟩ := by
  have hnames := @occurrences_masked link.source _ _ hlead link.blankGap
  have hends := @endsEndpoint_masked link.source _ link.blankGap
  have hlast : lastEndpoint? (link.stretch entered lead).text
      = some ⟨lead.length, link.source.id, link.source.masked.shapeText ++ link.gap⟩ := by
    unfold lastEndpoint? Link.stretch
    rw [hnames]
    simp [hends]
  unfold Stretch.source?
  rw [hlast, link.source.filter_isNodeName]
  rfl

/-- The arrow before a stretch leads to the name in it. -/
theorem Link.target?_stretch (link : Link) :
    (link.stretch entered lead).target?
      = if entered then
          some ⟨lead.length, link.source.id,
            link.source.masked.shapeText ++ (link.gap ++ link.drawn)⟩
        else none := by
  have hends := link.ends []
  rw [List.append_nil] at hends
  have hfirst := firstEndpoint?_masked hlead hends
  have hseen : (link.stretch entered lead).text ++ (link.stretch entered lead).arrowText
      = lead ++ (link.source.masked.text ++ (link.gap ++ link.drawn)) := by
    simp [Link.stretch, Stretch.arrowText]
  unfold Stretch.target?
  rw [hseen, hfirst, link.source.filter_isNodeName]
  rfl

/-- The arrow before the last stretch leads to the name in it. -/
theorem Endpoint.target?_stretch (endpoint : Endpoint) :
    (endpoint.stretch entered lead).target?
      = if entered then some ⟨lead.length, endpoint.id, endpoint.masked.shapeText⟩
        else none := by
  have hfirst := firstEndpoint?_masked hlead endpoint.masked.endsName
  rw [List.append_nil, List.append_nil] at hfirst
  have hseen : (endpoint.stretch entered lead).text
      ++ (endpoint.stretch entered lead).arrowText = lead ++ endpoint.masked.text :=
    List.append_nil _
  unfold Stretch.target?
  rw [hseen, hfirst, endpoint.filter_isNodeName]
  rfl

/-- The stretch of a link defines the names of the link. -/
theorem Link.definitions_stretch (link : Link) :
    (link.stretch entered lead).definitions = link.definedIds := by
  have hnames := @occurrences_masked link.source _ _ hlead link.blankGap
  have hsource := link.source?_stretch hlead entered
  have htext : (link.stretch entered lead).text
      = lead ++ (link.source.masked.text ++ link.gap) := rfl
  have harrow : (link.stretch entered lead).arrowText = link.drawn := rfl
  unfold Stretch.definitions Link.definedIds shapedNodes
  rw [htext, harrow, hnames]
  simp [Stretch.defines, hsource, isNodeName, link.source.isNode]

/-- The last endpoint defines its name if it has a shape, or stands alone. -/
theorem Endpoint.definitions_stretch (endpoint : Endpoint) :
    (endpoint.stretch entered lead).definitions
      = if endpoint.shape.isSome || !entered then [endpoint.id] else [] := by
  have hnames := @occurrences_masked endpoint _ _ hlead Blanks.nil
  have hopens := @opensShape_masked endpoint _ Blanks.nil
  rw [List.append_nil] at hopens
  rw [List.append_nil, List.append_nil] at hnames
  have htarget := endpoint.target?_stretch hlead entered
  have htext : (endpoint.stretch entered lead).text = lead ++ endpoint.masked.text := rfl
  have hsource : (endpoint.stretch entered lead).source? = none := rfl
  have hlabel : shapedNames (endpoint.stretch entered lead).arrowText = [] := rfl
  unfold Stretch.definitions
  rw [htext, hlabel, hnames]
  cases hshape : endpoint.shape.isSome <;> cases entered <;>
    simp [Stretch.defines, hsource, htarget, hopens, hshape, isNodeName, endpoint.isNode]

/-- A link refers to its name once, or twice if an arrow leads to it as well. -/
theorem Link.references_stretch (link : Link) :
    (link.stretch entered lead).references
      = if entered then [link.source.id, link.source.id] else [link.source.id] := by
  unfold Stretch.references
  rw [link.source?_stretch hlead, link.target?_stretch hlead]
  cases entered <;> rfl

/-- The last endpoint is referred to just where an arrow leads to it. -/
theorem Endpoint.references_stretch (endpoint : Endpoint) :
    (endpoint.stretch entered lead).references
      = if entered then [endpoint.id] else [] := by
  have hsource : (endpoint.stretch entered lead).source? = none := rfl
  unfold Stretch.references
  rw [hsource, endpoint.target?_stretch hlead]
  cases entered <;> rfl

end Stretch

/-- Behind an arrow each link defines its names, and a shaped endpoint its own. -/
theorem flatMap_definitions {lead : Text} (hlead : Blanks lead) (links : List Link)
    (last : Endpoint) :
    (linkStretches true lead links last).flatMap Stretch.definitions
      = links.flatMap Link.definedIds ++ last.shapedIds := by
  induction links generalizing lead with
  | nil => simp [linkStretches, last.definitions_stretch hlead, Endpoint.shapedIds]
  | cons link links ih =>
      simp only [linkStretches, List.flatMap_cons, List.append_assoc,
        link.definitions_stretch hlead, ih link.blankSpace]

/-- Behind an arrow each link refers to its name twice, and the endpoint once. -/
theorem flatMap_references {lead : Text} (hlead : Blanks lead) (links : List Link)
    (last : Endpoint) :
    (linkStretches true lead links last).flatMap Stretch.references
      = links.flatMap (fun link => [link.source.id, link.source.id]) ++ [last.id] := by
  induction links generalizing lead with
  | nil => simp [linkStretches, last.references_stretch hlead]
  | cons link links ih =>
      simp only [linkStretches, List.flatMap_cons, List.append_assoc,
        link.references_stretch hlead, ih link.blankSpace, if_true]

/-! ## Chains -/

/-- What preparation leaves of a leg. -/
def Leg.link (leg : Leg) : Link where
  source := leg.source
  gap := leg.gap
  drawn := leg.bare.arrow.text
  space := leg.space
  blankGap := leg.blankGap
  blankSpace := leg.blankSpace
  ends := leg.bare.endsName
  found := fun _ hleads => leg.bare.arrow.arrow_append none hleads
  ne_nil := by
    obtain ⟨c, more, hstroke, _⟩ := leg.bare.arrow.stroke.exists_cons
    simp [Arrow.text, hstroke]

/-- There are no brackets in the label of a leg's arrow. -/
theorem Leg.definedIds_link (leg : Leg) : leg.link.definedIds = [leg.source.id] := by
  have hlabel : shapedNodes leg.link.drawn = [] := leg.bare.arrow.neutral.shapedNodes_eq
  rw [Link.definedIds, hlabel]
  rfl

/-- What preparation leaves of legs are the links. -/
theorem legsText_bare (legs : List Leg) (last : Endpoint) :
    legsText (legs.map Leg.bare) last.masked = linksText (legs.map Leg.link) last := by
  induction legs with
  | nil => rfl
  | cons leg legs ih =>
      simp only [List.map_cons, legsText, linksText, ih]
      rfl

/-- A chain is prepared to the links of its legs. -/
theorem prepareLine_links (chain : Chain) :
    prepareLine chain.text
      = chain.indent ++ linksText (chain.legs.map Leg.link) chain.last := by
  rw [prepareLine_chain, ← legsText_bare]
  rfl

end Flowchart
