import Flowchart.Proofs.Chain.Front
import Flowchart.Proofs.Chain.Stretch
import Flowchart.Proofs.Document
import Mathlib.Data.List.Basic

/-!
# The names of a chain

A chain is read as a line of nodes.  Read at once or arrow by arrow, on a line of
its own each, it defines and refers to the same names: an endpoint inside the
chain is met as a target and as a source, and counts once.

Main statement: `extractNames_chain`.
-/

namespace Flowchart

/-! ## The front of a chain -/

/-- In front of a gap or an arrow stands a blank or a mark, or nothing. -/
theorem isAscii_of_head?_gap {gap rest : Text} (hgap : Blanks gap)
    (hmark : ∀ c, rest.head? = some c → c ∈ ['<', '-', '=']) :
    ∀ c, (gap ++ rest).head? = some c → isBlank c = false →
      isAscii c = true ∧ c.isAlpha = false := by
  have hall : ∀ d ∈ ['<', '-', '='], isAscii d = true ∧ d.isAlpha = false :=
    forall_mem_of_all rfl
  intro c hc hblank
  cases gap with
  | nil => exact hall c (hmark c hc)
  | cons d gap =>
      obtain rfl := Option.some.inj hc
      rw [hgap d List.mem_cons_self] at hblank
      cases hblank

/-- An endpoint is the front of its line where its name ends, if a mark or a blank
follows. -/
theorem Endpoint.front (endpoint : Endpoint) {gap rest : Text} (hgap : Blanks gap)
    (hends : EndsName endpoint.id (endpoint.shapeText ++ (gap ++ rest)))
    (hmark : ∀ c, rest.head? = some c → c ∈ ['<', '-', '=']) :
    Front endpoint.id (endpoint.shapeText ++ (gap ++ rest)) := by
  unfold Endpoint.shapeText at hends ⊢
  cases hshape : endpoint.shape with
  | some shape => exact .of_opener endpoint.isName endpoint.isNode shape.bracket _
  | none =>
      rw [hshape] at hends
      simp only [Option.map_none, Option.getD_none, List.nil_append] at hends ⊢
      exact ⟨endpoint.isName, endpoint.isNode, hends, isAscii_of_head?_gap hgap hmark,
        fun _ => endpoint.isPlain hshape⟩

/-- An arrow begins with one of three marks. -/
theorem Arrow.exists_cons (arrow : Arrow) :
    ∃ c more, arrow.text = c :: more ∧ c ∈ ['<', '-', '='] := by
  obtain ⟨c, more, hstroke, hc⟩ := arrow.stroke.exists_cons
  unfold Arrow.text Arrow.tailText
  rw [hstroke]
  cases arrow.tailed with
  | true => exact ⟨'<', _, rfl, List.mem_cons_self⟩
  | false =>
      refine ⟨c, _, rfl, ?_⟩
      rcases hc with rfl | rfl <;> decide

/-- An arrow begins with an angle, a hyphen or an equals sign. -/
theorem Arrow.head?_text (arrow : Arrow) (rest : Text) :
    ∀ c, (arrow.text ++ rest).head? = some c → c ∈ ['<', '-', '='] := by
  obtain ⟨d, more, htext, hd⟩ := arrow.exists_cons
  intro c hc
  rw [htext] at hc
  obtain rfl := Option.some.inj hc
  exact hd

/-- An endpoint by itself is the front of its line. -/
theorem Endpoint.front_alone (endpoint : Endpoint) :
    Front endpoint.id endpoint.shapeText := by
  have hfront := endpoint.front Blanks.nil endpoint.endsName nofun
  rwa [List.append_nil, List.append_nil] at hfront

/-- The endpoint of a leg is the front of its line, whatever follows the arrow. -/
theorem Leg.front (leg : Leg) (rest : Text) :
    Front leg.source.id (leg.source.shapeText ++ (leg.gap ++ (leg.arrow.text ++ rest))) :=
  leg.source.front leg.blankGap (leg.endsName rest) (leg.arrow.head?_text rest)

/-- A chain begins with the name of its first endpoint. -/
theorem Chain.exists_front (chain : Chain) :
    ∃ id rest, chain.text = chain.indent ++ (id ++ rest) ∧ Front id rest := by
  unfold Chain.text
  cases chain.legs with
  | nil => exact ⟨chain.last.id, chain.last.shapeText, rfl, chain.last.front_alone⟩
  | cons leg legs =>
      refine ⟨leg.source.id, _, ?_, leg.front (leg.space ++ legsText legs chain.last)⟩
      simp [legsText, Endpoint.text]

/-- A chain that is not too long is looked at. -/
theorem Chain.isInspected_eq (chain : Chain) {limits : Limits}
    (h : (chain.text.length : Int) ≤ limits.maxLineLength) :
    isInspected limits chain.text = true := by
  obtain ⟨id, rest, htext, hfront⟩ := chain.exists_front
  rw [htext] at h ⊢
  exact hfront.isInspected_eq chain.blankIndent h

/-! ## The names of one line -/

/-- A chain names nodes. -/
theorem Chain.namesNodes_eq (chain : Chain) : namesNodes chain.text = true := by
  obtain ⟨id, rest, htext, hfront⟩ := chain.exists_front
  rw [htext, hfront.namesNodes_eq chain.blankIndent]

/-- A line that begins with a name and is prepared as a chain is, which is not longer, has
the names of the chain. -/
theorem Front.extractNames_eq {indent id rest : Text} (h : Front id rest)
    (hindent : Blanks indent) {chain : Chain} {limits : Limits}
    (hlength : ((indent ++ (id ++ rest)).length : Int) ≤ limits.maxLineLength)
    (hshorter : chain.text.length ≤ (indent ++ (id ++ rest)).length)
    (hprepared : prepareLine (indent ++ (id ++ rest)) = prepareLine chain.text) :
    extractNames limits [indent ++ (id ++ rest)] = extractNames limits [chain.text] := by
  have hchain := chain.isInspected_eq (Int.le_trans (Int.ofNat_le.mpr hshorter) hlength)
  exact extractNames_of_prepareLine_eq (h.isInspected_eq hindent hlength) hchain
    (h.namesNodes_eq hindent) chain.namesNodes_eq hprepared

/-- A chain is no header. -/
theorem Chain.ofLine?_eq_none (chain : Chain) : Header.ofLine? chain.text = none := by
  obtain ⟨id, rest, htext, hfront⟩ := chain.exists_front
  rw [htext, hfront.ofLine?_eq_none chain.blankIndent]

section Links

variable {line lead : Text} (hnodes : namesNodes line = true) (hlead : Blanks lead)

include hnodes hlead

/-- Links define their names, the first one too, and the last endpoint its own if it has
a shape. -/
theorem lineDefinitions_links {links : List Link} {last : Endpoint} (hlinks : links ≠ [])
    (h : prepareLine line = lead ++ linksText links last) :
    lineDefinitions line = links.flatMap Link.definedIds ++ last.shapedIds := by
  obtain ⟨link, links, rfl⟩ := List.exists_cons_of_ne_nil hlinks
  rw [lineDefinitions, hnodes, if_pos rfl, stretches_links hlead h, linkStretches,
    List.flatMap_cons, link.definitions_stretch hlead, flatMap_definitions link.blankSpace,
    List.flatMap_cons, List.append_assoc]

/-- Links refer to their names, all but the first one twice, and to the last endpoint. -/
theorem lineReferences_links {link : Link} {links : List Link} {last : Endpoint}
    (h : prepareLine line = lead ++ linksText (link :: links) last) :
    lineReferences line
      = link.source.id
        :: (links.flatMap (fun link => [link.source.id, link.source.id]) ++ [last.id]) := by
  rw [lineReferences, hnodes, if_pos rfl, stretches_links hlead h, linkStretches,
    List.flatMap_cons, link.references_stretch hlead, flatMap_references link.blankSpace]
  rfl

end Links

/-- A chain with an arrow defines the endpoints that are not last or have a shape. -/
theorem Chain.lineDefinitions_eq (chain : Chain) (hlegs : chain.legs ≠ []) :
    lineDefinitions chain.text = chain.definedIds := by
  have hlinks : chain.legs.map Leg.link ≠ [] := by simpa using hlegs
  rw [lineDefinitions_links chain.namesNodes_eq chain.blankIndent hlinks
    (prepareLine_links chain), List.flatMap_map]
  simp only [Leg.definedIds_link, Chain.definedIds, ← List.map_eq_flatMap]

/-- A chain with an arrow refers to its endpoints, twice to those inside. -/
theorem Chain.lineReferences_eq {chain : Chain} {leg : Leg} {legs : List Leg}
    (hlegs : chain.legs = leg :: legs) :
    lineReferences chain.text
      = leg.source.id
        :: (legs.flatMap (fun leg => [leg.source.id, leg.source.id]) ++ [chain.last.id]) := by
  have hprepared := prepareLine_links chain
  rw [hlegs, List.map_cons] at hprepared
  rw [lineReferences_links chain.namesNodes_eq chain.blankIndent hprepared, List.flatMap_map]
  rfl

/-- A single endpoint is defined, and nothing is referred to. -/
theorem Chain.lineDefinitions_single {chain : Chain} (hlegs : chain.legs = []) :
    lineDefinitions chain.text = [chain.last.id] := by
  rw [lineDefinitions, chain.namesNodes_eq, if_pos rfl,
    stretches_links chain.blankIndent (prepareLine_links chain), hlegs, List.map_nil,
    linkStretches, List.flatMap_cons, chain.last.definitions_stretch chain.blankIndent]
  simp

/-- A chain without arrows refers to nothing. -/
theorem Chain.lineReferences_single {chain : Chain} (hlegs : chain.legs = []) :
    lineReferences chain.text = [] := by
  rw [lineReferences, chain.namesNodes_eq, if_pos rfl,
    stretches_links chain.blankIndent (prepareLine_links chain), hlegs, List.map_nil,
    linkStretches, List.flatMap_cons, chain.last.references_stretch chain.blankIndent]
  rfl

/-! ## A chain arrow by arrow -/

/-- The endpoint with which legs and the endpoint behind them begin. -/
def firstOf : List Leg → Endpoint → Endpoint
  | [], last => last
  | leg :: _, _ => leg.source

/-- The legs by themselves, each with the endpoint to which its arrow leads. -/
def edgesFrom {indent : Text} (blank : Blanks indent) : List Leg → Endpoint → List Chain
  | [], _ => []
  | leg :: legs, last => ⟨indent, [leg], firstOf legs last, blank⟩ :: edgesFrom blank legs last

/-- The arrows of a chain, each a chain by itself with the same indent. -/
def Chain.edges (chain : Chain) : List Chain :=
  edgesFrom chain.blankIndent chain.legs chain.last

/-- The endpoint of the first leg stands first. -/
theorem firstOf_cons (leg : Leg) (legs : List Leg) (last : Endpoint) :
    firstOf (leg :: legs) last = leg.source := rfl

section Edges

variable {indent : Text} (blank : Blanks indent)

/-- The first endpoint is no longer than all legs with it. -/
theorem length_firstOf (legs : List Leg) (last : Endpoint) :
    (firstOf legs last).text.length ≤ (legsText legs last).length := by
  cases legs with
  | nil => exact Nat.le_refl _
  | cons leg legs =>
      simp only [firstOf, legsText, List.length_append]
      omega

/-- No arrow by itself is longer than the chain. -/
theorem length_of_mem_edgesFrom {legs : List Leg} {last : Endpoint} {edge : Chain}
    (h : edge ∈ edgesFrom blank legs last) :
    edge.text.length ≤ indent.length + (legsText legs last).length := by
  induction legs with
  | nil => cases h
  | cons leg legs ih =>
      rcases List.mem_cons.mp h with rfl | hmem
      · have hfirst := length_firstOf legs last
        simp only [Chain.text, legsText, List.length_append]
        omega
      · have hrest := ih hmem
        simp only [legsText, List.length_append]
        omega

/-- The names that the arrows define are those of the chain, where the first endpoint
counts if it has a shape. -/
theorem definitions_edgesFrom (legs : List Leg) (last : Endpoint) :
    ((firstOf legs last).shapedIds
        ++ (edgesFrom blank legs last).flatMap Chain.definedIds).eraseDups
      = (legs.map (·.source.id) ++ last.shapedIds).eraseDups := by
  induction legs with
  | nil => simp [firstOf, edgesFrom]
  | cons leg legs ih =>
      have hleg := eraseDups_append_congr [leg.source.id] ih
      simp only [firstOf_cons, edgesFrom, List.flatMap_cons, Chain.definedIds, List.map_cons,
        List.map_nil, List.cons_append, List.nil_append] at hleg ⊢
      rw [← hleg, Endpoint.shapedIds]
      by_cases hshape : leg.source.shape.isSome = true
      · rw [if_pos hshape]
        exact eraseDups_cons_cons _ _
      · rw [if_neg hshape]
        rfl

/-- The names that the arrows refer to are those of the chain. -/
theorem references_edgesFrom (legs : List Leg) (last : Endpoint) :
    ((firstOf legs last).id :: (edgesFrom blank legs last).flatMap Chain.ids).eraseDups
      = (legs.map (·.source.id) ++ [last.id]).eraseDups := by
  induction legs with
  | nil => simp [firstOf, edgesFrom]
  | cons leg legs ih =>
      have hleg := eraseDups_append_congr [leg.source.id] ih
      simp only [firstOf_cons, edgesFrom, List.flatMap_cons, Chain.ids, List.map_cons,
        List.map_nil, List.cons_append, List.nil_append] at hleg ⊢
      rw [← hleg]
      exact eraseDups_cons_cons _ _

/-- Each of the arrows by itself is one leg. -/
theorem legs_of_mem_edgesFrom {legs : List Leg} {last : Endpoint} {edge : Chain}
    (h : edge ∈ edgesFrom blank legs last) : ∃ leg, edge.legs = [leg] := by
  induction legs with
  | nil => cases h
  | cons leg legs ih =>
      rcases List.mem_cons.mp h with rfl | hmem
      · exact ⟨leg, rfl⟩
      · exact ih hmem

end Edges

/-- A name inside a chain counts once, though it is met twice. -/
theorem eraseDups_doubled (legs : List Leg) (last : Text) :
    (legs.flatMap (fun leg => [leg.source.id, leg.source.id]) ++ [last]).eraseDups
      = (legs.map (·.source.id) ++ [last]).eraseDups := by
  induction legs with
  | nil => rfl
  | cons leg legs ih =>
      have hleg := eraseDups_append_congr [leg.source.id] ih
      simp only [List.flatMap_cons, List.map_cons, List.cons_append, List.nil_append] at hleg ⊢
      rw [eraseDups_cons_cons, hleg]

/-- A chain refers to each of its endpoints. -/
theorem Chain.eraseDups_lineReferences {chain : Chain} (hlegs : chain.legs ≠ []) :
    (lineReferences chain.text).eraseDups = chain.ids.eraseDups := by
  obtain ⟨leg, legs, hcons⟩ := List.exists_cons_of_ne_nil hlegs
  rw [Chain.lineReferences_eq hcons, Chain.ids, hcons]
  exact eraseDups_append_congr [leg.source.id] (eraseDups_doubled legs chain.last.id)

/-- The names of lines that are chains, all of them looked at. -/
theorem extractNames_chains {limits : Limits} {chains : List Chain}
    (hlegs : ∀ chain ∈ chains, chain.legs ≠ [])
    (hlength : ∀ chain ∈ chains, (chain.text.length : Int) ≤ limits.maxLineLength) :
    extractNames limits (chains.map Chain.text)
      = ⟨(chains.flatMap Chain.definedIds).eraseDups,
         ((chains.map Chain.text).flatMap lineReferences).eraseDups⟩ := by
  have hkept : (chains.map Chain.text).filter (isInspected limits) = chains.map Chain.text := by
    refine List.filter_eq_self.mpr fun line hline => ?_
    obtain ⟨chain, hchain, rfl⟩ := List.mem_map.mp hline
    exact chain.isInspected_eq (hlength chain hchain)
  have hdefinitions : (chains.map Chain.text).flatMap lineDefinitions
      = chains.flatMap Chain.definedIds := by
    rw [List.flatMap_map]
    exact List.flatMap_congr fun chain hchain => chain.lineDefinitions_eq (hlegs chain hchain)
  rw [extractNames_eq, hkept, hdefinitions]

/-- On lines of their own the arrows refer to the names of all their endpoints. -/
theorem edgesFrom_ids {indent : Text} (blank : Blanks indent) (legs : List Leg)
    (last : Endpoint) :
    ((edgesFrom blank legs last).map Chain.text).flatMap lineReferences
      = (edgesFrom blank legs last).flatMap Chain.ids := by
  rw [List.flatMap_map]
  refine List.flatMap_congr fun edge hedge => ?_
  obtain ⟨leg, hleg⟩ := legs_of_mem_edgesFrom blank hedge
  rw [Chain.lineReferences_eq hleg, Chain.ids, hleg]
  rfl

/-- **A chain refers to its endpoints, and defines those that are not last or have a
shape**; its arrows do the same on lines of their own. -/
theorem extractNames_chain (limits : Limits) (chain : Chain) (hlegs : chain.legs ≠ [])
    (hlength : (chain.text.length : Int) ≤ limits.maxLineLength) :
    extractNames limits [chain.text] = ⟨chain.definedIds.eraseDups, chain.ids.eraseDups⟩ ∧
      extractNames limits (chain.edges.map Chain.text) = extractNames limits [chain.text] := by
  obtain ⟨leg, legs, hcons⟩ := List.exists_cons_of_ne_nil hlegs
  have hnames : extractNames limits [chain.text]
      = ⟨chain.definedIds.eraseDups, chain.ids.eraseDups⟩ := by
    have hsingle := @extractNames_chains limits [chain] (by simpa using hlegs)
      (by simpa using hlength)
    simp only [List.map_cons, List.map_nil, List.flatMap_cons, List.flatMap_nil, List.append_nil,
      Chain.eraseDups_lineReferences hlegs] at hsingle
    exact hsingle
  refine ⟨hnames, ?_⟩
  have hedges : ∀ edge ∈ chain.edges, (edge.text.length : Int) ≤ limits.maxLineLength := by
    intro edge hedge
    have hle := length_of_mem_edgesFrom chain.blankIndent hedge
    rw [← List.length_append] at hle
    exact Int.le_trans (Int.ofNat_le.mpr hle) hlength
  have hlines := extractNames_chains (fun edge hedge => ?_) hedges
  · have hdefinitions := eraseDups_append_congr [leg.source.id]
      (definitions_edgesFrom chain.blankIndent legs chain.last)
    have hreferences := eraseDups_append_congr [leg.source.id]
      (references_edgesFrom chain.blankIndent legs chain.last)
    rw [hnames, hlines, Chain.edges, edgesFrom_ids, Chain.definedIds, Chain.ids, hcons]
    exact congr (congrArg Names.mk hdefinitions) hreferences
  · obtain ⟨only, honly⟩ := legs_of_mem_edgesFrom chain.blankIndent hedge
    rw [honly]
    exact List.cons_ne_nil _ _

/-- The endpoint `A`. -/
def nodeA : Endpoint :=
  ⟨"A".toList, none, rfl, by decide, rfl, fun _ => rfl⟩

/-- The endpoint `B`. -/
def nodeB : Endpoint :=
  ⟨"B".toList, none, rfl, by decide, rfl, fun _ => rfl⟩

/-- The arrow `-->`. -/
def lineArrow : Arrow :=
  ⟨false, .solid false true 2 (by decide), none⟩

/-- The leg `A-->`. -/
def legA : Leg where
  source := nodeA
  gap := []
  arrow := lineArrow
  space := []
  blankGap := Blanks.nil
  blankSpace := Blanks.nil
  apart := by decide

/-- The chain `  Step1[a (b)]-->|yes|Step2- -.-Step1-->Done`. -/
def stepsChain : Chain where
  indent := "  ".toList
  legs :=
    [{ source := ⟨"Step1".toList,
        some ⟨.square, "a (b)".toList,
          .plain rfl (.plain rfl (.group .round (.plain rfl .nil) .nil)), forall_mem_of_all rfl⟩,
        rfl, by decide, rfl, nofun⟩
       gap := []
       arrow := ⟨false, .solid false true 2 (by decide),
        some ⟨[], "yes".toList, nofun, forall_mem_of_all rfl, forall_mem_of_all rfl,
          forall_mem_of_all rfl⟩⟩
       space := []
       blankGap := nofun
       blankSpace := nofun
       apart := nofun },
     { source := ⟨"Step2-".toList, none, rfl, by decide, rfl, fun _ => rfl⟩
       gap := [' ']
       arrow := ⟨false, .dotted false 1 (by decide), none⟩
       space := []
       blankGap := forall_mem_of_all rfl
       blankSpace := nofun
       apart := fun _ _ => List.cons_ne_nil _ _ },
     { source := ⟨"Step1".toList, none, rfl, by decide, rfl, fun _ => rfl⟩
       gap := []
       arrow := ⟨false, .solid false true 2 (by decide), none⟩
       space := []
       blankGap := nofun
       blankSpace := nofun
       apart := by decide }]
  last := ⟨"Done".toList, none, rfl, by decide, rfl, fun _ => rfl⟩
  blankIndent := forall_mem_of_all rfl

/-- The names of a chain that comes back to its first endpoint. -/
theorem extractNames_chain_steps :
    stepsChain.text = "  Step1[a (b)]-->|yes|Step2- -.-Step1-->Done".toList ∧
      extractNames {} [stepsChain.text]
        = ⟨["Step1".toList, "Step2-".toList],
           ["Step1".toList, "Step2-".toList, "Done".toList]⟩ ∧
      extractNames {} (stepsChain.edges.map Chain.text) = extractNames {} [stepsChain.text] := by
  have hnames := extractNames_chain {} stepsChain (List.cons_ne_nil _ _) (by decide)
  exact ⟨by decide, hnames.1.trans (by decide), hnames.2⟩

end Flowchart
