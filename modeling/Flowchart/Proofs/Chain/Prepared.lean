import Flowchart.Proofs.Chain.Line

/-!
# Prepared chains

A chain is prepared part by part.  Its literals would need a quote, of which it
has none; its shapes lose their labels; and class tags can only stand between
the bars of an arrow's label.  So what is left of a chain is a chain with the
same names and the same arrows.

Main statement: `prepareLine_chain`.
-/

namespace Flowchart

/-! ## Characters outside of shapes -/

/-- Strokes are made of five characters. -/
theorem Stroke.of_mem {stroke : Stroke} {c : Char} (h : c ∈ stroke.text) :
    c ∈ ['-', '=', '.', '>'] := by
  cases stroke with
  | solid thick headed count long =>
      cases thick <;> cases headed <;> simp [Stroke.text] at h ⊢ <;> grind
  | dotted headed count long =>
      cases headed <;> simp [Stroke.text] at h ⊢ <;> grind

/-- A stroke belongs to no shape and to no literal. -/
theorem Stroke.neutral (stroke : Stroke) : Neutral stroke.text := by
  have hall : ∀ c ∈ ['-', '=', '.', '>'], c ∉ enclosers :=
    forall_mem_of_all rfl
  intro c hc
  exact hall c (Stroke.of_mem hc)

/-- A bar belongs to no shape and to no literal. -/
theorem bar_neutral : Neutral ['|'] := by
  intro c hc
  obtain rfl := List.mem_singleton.mp hc
  decide

/-- The label of an arrow belongs to no shape and to no literal. -/
theorem EdgeLabel.neutral (label : EdgeLabel) : Neutral label.text := by
  have hlabel : Neutral label.label := by
    intro c hc hmem
    have hquote := label.unquoted c hc
    have hbracket := label.unbracketed c hc
    simp only [enclosers, List.mem_cons, List.not_mem_nil, or_false] at hmem
    rcases hmem with rfl | rfl | rfl | rfl | rfl | rfl | rfl | rfl
    all_goals first
      | exact absurd rfl hquote.1
      | exact absurd rfl hquote.2
      | exact absurd hbracket (by decide)
  exact (label.blankGap.neutral.append (bar_neutral.append hlabel)).append bar_neutral

/-- An arrow belongs to no shape and to no literal. -/
theorem Arrow.neutral (arrow : Arrow) : Neutral arrow.text := by
  have htail : Neutral arrow.tailText := by
    unfold Arrow.tailText
    split
    · intro c hc
      obtain rfl := List.mem_singleton.mp hc
      decide
    · exact nofun
  have hlabel : Neutral arrow.labelText := by
    unfold Arrow.labelText
    cases arrow.label with
    | none => exact nofun
    | some label => exact label.neutral
  exact (htail.append arrow.stroke.neutral).append hlabel

/-! ## Literals -/

/-- Two texts without quotes have none together. -/
theorem Unquoted.append {text rest : Text} (h : Unquoted text) (hrest : Unquoted rest) :
    Unquoted (text ++ rest) :=
  List.forall_mem_append.mpr ⟨h, hrest⟩

/-- There are no quotes in an endpoint. -/
theorem Endpoint.unquoted (endpoint : Endpoint) : Unquoted endpoint.text := by
  refine endpoint.isName.neutral.unquoted.append ?_
  unfold Endpoint.shapeText
  cases endpoint.shape with
  | none => exact nofun
  | some shape =>
      have hopener : Unquoted [shape.bracket.opener] := by
        cases shape.bracket <;> exact forall_mem_of_all rfl
      have hcloser : Unquoted [shape.bracket.closer] := by
        cases shape.bracket <;> exact forall_mem_of_all rfl
      exact (hopener.append shape.unquoted).append hcloser

/-- There are no quotes in legs and in the endpoint behind them. -/
theorem legsText_unquoted (legs : List Leg) (last : Endpoint) :
    Unquoted (legsText legs last) := by
  induction legs with
  | nil => exact last.unquoted
  | cons leg legs ih =>
      have hgap := leg.blankGap.neutral.unquoted
      have hspace := leg.blankSpace.neutral.unquoted
      have harrow := leg.arrow.neutral.unquoted
      exact (((leg.source.unquoted.append hgap).append harrow).append hspace).append ih

/-- There are no literals in a chain. -/
theorem Chain.unquoted (chain : Chain) : Unquoted chain.text :=
  chain.blankIndent.neutral.unquoted.append (legsText_unquoted chain.legs chain.last)

/-! ## Masked shapes -/

/-- The shape without its label. -/
def Shape.masked (shape : Shape) : Shape where
  bracket := shape.bracket
  label := []
  nested := .nil
  unquoted := nofun

/-- The endpoint without the label of its shape. -/
def Endpoint.masked (endpoint : Endpoint) : Endpoint :=
  { endpoint with
    shape := endpoint.shape.map Shape.masked
    isPlain := fun h => endpoint.isPlain (Option.map_eq_none_iff.mp h) }

/-- The leg without the label of its shape. -/
def Leg.masked (leg : Leg) : Leg :=
  { leg with
    source := leg.source.masked
    apart := fun h => leg.apart (Option.map_eq_none_iff.mp h) }

/-- A masked endpoint is the name with the masked shape. -/
theorem Endpoint.masked_text (endpoint : Endpoint) :
    endpoint.masked.text = endpoint.id ++ endpoint.masked.shapeText := rfl

/-- A masked endpoint has the masked shape. -/
theorem Endpoint.masked_shapeText (endpoint : Endpoint) :
    endpoint.masked.shapeText
      = ((endpoint.shape.map Shape.masked).map Shape.text).getD [] := rfl

/-- Only the brackets are left of a masked shape. -/
theorem Endpoint.mem_enclosers_of_mem_masked {endpoint : Endpoint} {c : Char}
    (h : c ∈ endpoint.masked.shapeText) : c ∈ enclosers := by
  rw [endpoint.masked_shapeText] at h
  cases hshape : endpoint.shape with
  | none =>
      rw [hshape] at h
      cases h
  | some shape =>
      rw [hshape] at h
      have hbrackets : ∀ d ∈ [shape.bracket.opener, shape.bracket.closer], d ∈ enclosers := by
        cases shape.bracket <;> exact forall_mem_of_all rfl
      exact hbrackets c h

/-- The endpoint of a masked leg is masked. -/
theorem Leg.masked_source (leg : Leg) : leg.masked.source = leg.source.masked := rfl

/-- Masking leaves the blanks before the arrow. -/
theorem Leg.masked_gap (leg : Leg) : leg.masked.gap = leg.gap := rfl

/-- Masking leaves the arrow. -/
theorem Leg.masked_arrow (leg : Leg) : leg.masked.arrow = leg.arrow := rfl

/-- Masking leaves the blanks behind the arrow. -/
theorem Leg.masked_space (leg : Leg) : leg.masked.space = leg.space := rfl

/-- A shape is masked by itself. -/
theorem Shape.maskShapes_append (shape : Shape) (rest : Text) :
    maskShapes (shape.text ++ rest) = shape.masked.text ++ maskShapes rest := by
  have hgroup := maskShapes_group shape.nested shape.bracket rest
  simpa [Shape.text, Shape.masked] using hgroup

/-- Nothing is masked outside of shapes. -/
theorem Neutral.maskShapes_append {part : Text} (h : Neutral part) (rest : Text) :
    maskShapes (part ++ rest) = part ++ maskShapes rest :=
  Flowchart.maskShapes_append (fun _ hc => h.isOpener_of_mem hc) rest

/-- An endpoint is masked by itself. -/
theorem Endpoint.maskShapes_append (endpoint : Endpoint) (rest : Text) :
    maskShapes (endpoint.text ++ rest) = endpoint.masked.text ++ maskShapes rest := by
  rw [endpoint.masked_text, Endpoint.text, List.append_assoc,
    endpoint.isName.neutral.maskShapes_append, List.append_assoc, Endpoint.shapeText,
    endpoint.masked_shapeText]
  congr 1
  cases endpoint.shape with
  | none => rfl
  | some shape => exact shape.maskShapes_append rest

/-- Masking takes the labels from the shapes of a chain. -/
theorem maskShapes_legsText (legs : List Leg) (last : Endpoint) :
    maskShapes (legsText legs last) = legsText (legs.map Leg.masked) last.masked := by
  induction legs with
  | nil =>
      have hlast := last.maskShapes_append []
      simpa [maskShapes, maskFrom, legsText] using hlast
  | cons leg legs ih =>
      simp only [legsText, List.map_cons, List.append_assoc]
      rw [leg.source.maskShapes_append, leg.blankGap.neutral.maskShapes_append,
        leg.arrow.neutral.maskShapes_append, leg.blankSpace.neutral.maskShapes_append, ih]
      rfl

/-! ## Dropped tags -/

/-- The label without class tags. -/
def EdgeLabel.untagged (label : EdgeLabel) : EdgeLabel where
  gap := label.gap
  label := dropClassTags label.label
  blankGap := label.blankGap
  unbarred := fun c hc => label.unbarred c (mem_of_mem_dropClassTags hc)
  unquoted := fun c hc => label.unquoted c (mem_of_mem_dropClassTags hc)
  unbracketed := fun c hc => label.unbracketed c (mem_of_mem_dropClassTags hc)

/-- The arrow without class tags in its label. -/
def Arrow.untagged (arrow : Arrow) : Arrow :=
  { arrow with label := arrow.label.map EdgeLabel.untagged }

/-- The leg without class tags in the label of its arrow. -/
def Leg.untagged (leg : Leg) : Leg :=
  { leg with arrow := leg.arrow.untagged }

/-- The leg without the label of its shape and without class tags. -/
def Leg.bare (leg : Leg) : Leg :=
  leg.masked.untagged

/-- Without class tags an arrow keeps its heads and its stroke. -/
theorem Arrow.untagged_text (arrow : Arrow) :
    arrow.untagged.text
      = arrow.tailText ++ arrow.stroke.text
        ++ ((arrow.label.map EdgeLabel.untagged).map EdgeLabel.text).getD [] := rfl

/-- A label stands between its two bars. -/
theorem EdgeLabel.text_append (label : EdgeLabel) (rest : Text) :
    label.text ++ rest = label.gap ++ '|' :: (label.label ++ '|' :: rest) := by
  simp [EdgeLabel.text]

/-- Tags are dropped between two bars and behind them. -/
theorem dropClassTags_bars {gap : Text} (hgap : Blanks gap) (label rest : Text) :
    dropClassTags (gap ++ '|' :: (label ++ '|' :: rest))
      = gap ++ '|' :: (dropClassTags label ++ '|' :: dropClassTags rest) := by
  have hbar : EndsTag '|' := by
    constructor <;> decide
  have hopen : ∀ behind, dropClassTags ('|' :: behind) = '|' :: dropClassTags behind := by
    intro behind
    refine dropClassTags_cons (classTag_eq_none fun more hcolons => ?_)
    exact hbar.1 (List.cons.inj hcolons).1
  rw [dropClassTags_append_of_no_colon hgap.ne_colon, hopen, dropClassTags_append_cons hbar]

/-- A label loses its class tags by itself. -/
theorem EdgeLabel.dropClassTags_append (label : EdgeLabel) (rest : Text) :
    dropClassTags (label.text ++ rest) = label.untagged.text ++ dropClassTags rest := by
  rw [label.text_append, label.untagged.text_append, dropClassTags_bars label.blankGap]
  rfl

/-- An arrow loses its class tags by itself. -/
theorem Arrow.dropClassTags_append (arrow : Arrow) (rest : Text) :
    dropClassTags (arrow.text ++ rest) = arrow.untagged.text ++ dropClassTags rest := by
  have hdrawn : ∀ c ∈ arrow.tailText ++ arrow.stroke.text, c ≠ ':' := by
    rintro c hc rfl
    rcases List.mem_append.mp hc with htail | hstroke
    · unfold Arrow.tailText at htail
      split at htail <;> simp at htail
    · have hmem := Stroke.of_mem hstroke
      simp at hmem
  rw [arrow.untagged_text, Arrow.text, List.append_assoc,
    dropClassTags_append_of_no_colon hdrawn, List.append_assoc _ _ (dropClassTags rest),
    Arrow.labelText]
  congr 1
  cases arrow.label with
  | none => rfl
  | some label => exact label.dropClassTags_append rest

/-- A name is kept where it ends. -/
theorem dropClassTags_name {id rest : Text} (h : Untagged id) (hends : EndsName id rest) :
    dropClassTags (id ++ rest) = id ++ dropClassTags rest := by
  refine h.dropClassTags_append fun hcolon => ?_
  cases rest with
  | nil => cases hcolon
  | cons c rest =>
      obtain rfl := Option.some.inj hcolon
      have hrun := hends.1
      rw [nameRun_of_goesOn (Or.inl rfl)] at hrun
      cases hrun

/-- A masked shape holds no tags. -/
theorem Endpoint.dropClassTags_append {endpoint : Endpoint} {rest : Text}
    (hends : EndsName endpoint.id (endpoint.masked.shapeText ++ rest)) :
    dropClassTags (endpoint.masked.text ++ rest)
      = endpoint.masked.text ++ dropClassTags rest := by
  have hall : ∀ c ∈ enclosers, c ≠ ':' := forall_mem_of_all rfl
  have hshape : ∀ c ∈ endpoint.masked.shapeText, c ≠ ':' :=
    fun c hc => hall c (Endpoint.mem_enclosers_of_mem_masked hc)
  rw [endpoint.masked_text, List.append_assoc, List.append_assoc,
    ← dropClassTags_append_of_no_colon hshape]
  exact dropClassTags_name endpoint.untagged hends

/-- Dropping tags changes the labels of the arrows of a chain. -/
theorem dropClassTags_legsText (legs : List Leg) (last : Endpoint) :
    dropClassTags (legsText (legs.map Leg.masked) last.masked)
      = legsText (legs.map Leg.bare) last.masked := by
  induction legs with
  | nil =>
      have hlast := Endpoint.dropClassTags_append last.masked.endsName
      simpa [legsText, dropClassTags_nil] using hlast
  | cons leg legs ih =>
      simp only [legsText, List.map_cons, List.append_assoc]
      rw [leg.masked_source, Endpoint.dropClassTags_append (leg.masked.endsName _),
        dropClassTags_append_of_no_colon leg.masked.blankGap.ne_colon,
        Arrow.dropClassTags_append,
        dropClassTags_append_of_no_colon leg.masked.blankSpace.ne_colon, ih]
      rfl

/-! ## Preparation -/

/-- The chain without labels in its shapes and without class tags. -/
def Chain.bare (chain : Chain) : Chain where
  indent := chain.indent
  legs := chain.legs.map Leg.bare
  last := chain.last.masked
  blankIndent := chain.blankIndent

/-- A prepared chain is a chain of the same names. -/
theorem prepareLine_chain (chain : Chain) : prepareLine chain.text = chain.bare.text := by
  unfold prepareLine
  rw [chain.unquoted.extractLiterals_line]
  unfold Chain.text
  rw [chain.blankIndent.neutral.maskShapes_append, maskShapes_legsText,
    dropClassTags_append_of_no_colon chain.blankIndent.ne_colon, dropClassTags_legsText]
  rfl

end Flowchart
