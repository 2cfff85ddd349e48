import Flowchart.Proofs.Chain.Names
import Flowchart.Proofs.Literal

/-!
# Chains with quotes in their shapes

The shapes of a chain may have any labels without brackets.  Literals are taken
out of a line before its shapes are masked, so a literal that stays inside a shape
goes with the label, and a quote that opens none stays until the label is masked.
A literal that begins in one shape and ends in another takes what stands between
them, arrows and all; the condition is that none does, since then it would hold
the brackets.

Main statement: `extractNames_quoted`.
-/

namespace Flowchart

/-- The characters of the shape with another label. -/
def Endpoint.shapeWith (endpoint : Endpoint) (label : Text) : Text :=
  (endpoint.shape.map fun shape => shape.bracket.opener :: label ++ [shape.bracket.closer]).getD []

/-- The characters of the endpoint with another label in its shape. -/
def Endpoint.textWith (endpoint : Endpoint) (label : Text) : Text :=
  endpoint.id ++ endpoint.shapeWith label

/-- A leg with another label in its shape, which may have quotes. -/
structure QuotedLeg extends Leg where
  /-- The characters between the brackets, if there is a shape. -/
  label : Text
  /-- There are no brackets in the label. -/
  unbracketed : ∀ c ∈ label, isBracket c = false

/-- The characters of legs and of the endpoint behind them, with those labels. -/
def quotedText : List QuotedLeg → Endpoint → Text → Text
  | [], last, label => last.textWith label
  | leg :: legs, last, label =>
    leg.source.textWith leg.label ++ leg.gap ++ leg.arrow.text ++ leg.space
      ++ quotedText legs last label

/-- A chain whose shapes may have quotes in their labels. -/
structure QuotedChain where
  /-- The blanks in front. -/
  indent : Text
  /-- The endpoints that an arrow leaves. -/
  legs : List QuotedLeg
  /-- The last endpoint. -/
  last : Endpoint
  /-- The characters between the brackets of the last shape. -/
  lastLabel : Text
  /-- There are only blanks in front. -/
  blankIndent : Blanks indent
  /-- There are no brackets in the last label. -/
  unbracketed : ∀ c ∈ lastLabel, isBracket c = false

namespace QuotedChain

/-- The characters of the chain. -/
def text (quoted : QuotedChain) : Text :=
  quoted.indent ++ quotedText quoted.legs quoted.last quoted.lastLabel

/-- The chain with every label emptied. -/
def emptied (quoted : QuotedChain) : Chain where
  indent := quoted.indent
  legs := quoted.legs.map (·.toLeg.masked)
  last := quoted.last.masked
  blankIndent := quoted.blankIndent

/-- No literal of the line goes beyond the label in which it begins. -/
def Sheltered (quoted : QuotedChain) : Prop :=
  ∀ found ∈ (extractLiterals quoted.text).literals, ∀ c ∈ found, isBracket c = false

end QuotedChain

/-! ## Literals inside labels -/

/-- No lexeme among the pieces holds a bracket. -/
def Sheltered (cut : List Piece) : Prop :=
  ∀ lexeme rest, .lexeme lexeme rest ∈ cut → ∀ c ∈ lexeme, isBracket c = false

/-- No lexeme behind the first piece holds a bracket if none of all does. -/
theorem Sheltered.of_cons {piece : Piece} {cut : List Piece} (h : Sheltered (piece :: cut)) :
    Sheltered cut :=
  fun lexeme rest hmem => h lexeme rest (List.mem_cons_of_mem piece hmem)

/-- No lexeme among the last pieces holds a bracket if none of all does. -/
theorem Sheltered.of_append {front back : List Piece} (h : Sheltered (front ++ back)) :
    Sheltered back :=
  fun lexeme rest hmem => h lexeme rest (List.mem_append_right front hmem)

/-- There are no quotes among the brackets. -/
theorem literal_eq_none_of_isBracket {c : Char} (hc : isBracket c = true) (rest : Text) :
    literal none (c :: rest) = none := by
  have hquotes : isBracket '"' = false ∧ isBracket '\'' = false := by decide
  have hdouble : c ≠ '"' := by
    rintro rfl
    rw [hquotes.1] at hc
    cases hc
  have hsingle : c ≠ '\'' := by
    rintro rfl
    rw [hquotes.2] at hc
    cases hc
  simp [literal, hdouble, hsingle]

/-- A placeholder belongs to no shape and to no literal. -/
theorem placeholderText_neutral (number : Nat) : Neutral (placeholderText number) := by
  have hall : ∀ d ∈ enclosers, d.isDigit = false ∧ placeholderMark ≠ d := forall_mem_of_all rfl
  intro c hc hmem
  obtain ⟨hdigit, hmark⟩ := hall c hmem
  exact ne_of_mem_placeholderText hc hdigit hmark rfl

/-- A front of the text that does not have `c` in it ends before `c`. -/
theorem exists_append_of_not_mem {front back part rest : Text} {c : Char}
    (h : front ++ back = part ++ c :: rest) (hc : c ∉ front) :
    ∃ behind, part = front ++ behind ∧ back = behind ++ c :: rest := by
  rcases List.append_eq_append_iff.mp h with ⟨more, hmore, hafter⟩ | ⟨more, hmore, hafter⟩
  · exact ⟨more, hmore, hafter⟩
  · cases more with
    | nil => exact ⟨[], by simpa using hmore.symm, by simpa using hafter.symm⟩
    | cons d more =>
        obtain rfl := (List.cons.inj hafter).1
        exact absurd (by simp [hmore]) hc

/-- A part without brackets is left without brackets up to the bracket behind it, and what follows
the bracket is cut as it is by itself.  No literal reaches the bracket, so each one in front of it
is all in the part. -/
theorem exists_numberLexemes {part rest : Text} {c : Char}
    (hpart : ∀ d ∈ part, isBracket d = false) (hc : isBracket c = true)
    (h : Sheltered (pieces literal (part ++ c :: rest))) (number : Nat) :
    ∃ hidden next,
      numberLexemes number (pieces literal (part ++ c :: rest))
          = hidden ++ c :: numberLexemes next (pieces literal rest) ∧
        (∀ d ∈ hidden, isBracket d = false) ∧ Sheltered (pieces literal rest) := by
  generalize hwhole : part ++ c :: rest = text at h ⊢
  induction text using literal_induction generalizing part number with
  | nil => simp at hwhole
  | plain d text hnone ih =>
      rw [literal_blind.pieces_plain hnone] at h ⊢
      cases part with
      | nil =>
          obtain ⟨rfl, rfl⟩ := List.cons.inj hwhole
          exact ⟨[], number, rfl, List.forall_mem_nil _, h.of_cons⟩
      | cons e part =>
          obtain ⟨rfl, hrest⟩ := List.cons.inj hwhole
          obtain ⟨hfirst, hmore⟩ := List.forall_mem_cons.mp hpart
          obtain ⟨hidden, next, htext, hhidden, hbehind⟩ := ih hmore number hrest h.of_cons
          refine ⟨e :: hidden, next, ?_, List.forall_mem_cons.mpr ⟨hfirst, hhidden⟩, hbehind⟩
          rw [numberLexemes, htext, List.cons_append]
  | quoted found back hfound ih =>
      rw [literal_blind.pieces_lexeme (literal_ne_nil hfound) hfound] at h ⊢
      have hreach : c ∉ found := by
        intro hmem
        rw [h found back List.mem_cons_self c hmem] at hc
        cases hc
      obtain ⟨behind, rfl, hback⟩ := exists_append_of_not_mem hwhole.symm hreach
      obtain ⟨_, hmore⟩ := List.forall_mem_append.mp hpart
      obtain ⟨hidden, next, htext, hhidden, hafter⟩ :=
        ih hmore (number + 1) hback.symm h.of_cons
      have hmark : ∀ e ∈ placeholderText number, isBracket e = false :=
        fun e he => (placeholderText_neutral number).isBracket_of_mem he
      refine ⟨placeholderText number ++ hidden, next, ?_,
        List.forall_mem_append.mpr ⟨hmark, hhidden⟩, hafter⟩
      rw [numberLexemes, htext, List.append_assoc]

/-! ## Preparation -/

/-- The text without its literals, numbered from `number` on, and with masked shapes. -/
def maskedFrom (number : Nat) (text : Text) : Text :=
  maskShapes (numberLexemes number (pieces literal text))

/-- Characters outside of shapes and literals stay. -/
theorem Neutral.maskedFrom_append {part : Text} (h : Neutral part) (number : Nat)
    (rest : Text) : maskedFrom number (part ++ rest) = part ++ maskedFrom number rest := by
  unfold maskedFrom
  rw [h.unquoted.pieces_append, numberLexemes_plain_append, h.maskShapes_append]

/-- Behind characters that belong to no shape and to no literal, no lexeme of the rest holds a
bracket if none of the whole does. -/
theorem Neutral.sheltered {part rest : Text} (h : Neutral part)
    (hcut : Sheltered (pieces literal (part ++ rest))) : Sheltered (pieces literal rest) := by
  rw [h.unquoted.pieces_append] at hcut
  exact hcut.of_append

/-- A shape with any label without brackets is masked to its brackets, if no literal goes
beyond the label. -/
theorem exists_maskedFrom_shape (bracket : Bracket) {label rest : Text}
    (hlabel : ∀ c ∈ label, isBracket c = false)
    (h : Sheltered (pieces literal (bracket.opener :: (label ++ bracket.closer :: rest))))
    (number : Nat) :
    ∃ next,
      maskedFrom number (bracket.opener :: (label ++ bracket.closer :: rest))
          = bracket.opener :: bracket.closer :: maskedFrom next rest ∧
        Sheltered (pieces literal rest) := by
  have hopener : isBracket bracket.opener = true := by
    cases bracket <;> rfl
  have hcloser : isBracket bracket.closer = true := by
    cases bracket <;> rfl
  have hplain := literal_eq_none_of_isBracket hopener (label ++ bracket.closer :: rest)
  rw [literal_blind.pieces_plain hplain] at h
  obtain ⟨hidden, next, htext, hhidden, hbehind⟩ :=
    exists_numberLexemes hlabel hcloser h.of_cons number
  refine ⟨next, ?_, hbehind⟩
  unfold maskedFrom
  rw [literal_blind.pieces_plain hplain, numberLexemes, htext]
  exact maskShapes_group (nested_of_not_bracket hhidden) bracket _

/-- An endpoint loses its label with the literals in it, and no lexeme of the rest holds a bracket.
-/
theorem Endpoint.exists_maskedFrom (endpoint : Endpoint) {label rest : Text}
    (hlabel : ∀ c ∈ label, isBracket c = false)
    (h : Sheltered (pieces literal (endpoint.textWith label ++ rest))) (number : Nat) :
    ∃ next,
      maskedFrom number (endpoint.textWith label ++ rest)
          = endpoint.masked.text ++ maskedFrom next rest ∧
        Sheltered (pieces literal rest) := by
  have hid := endpoint.isName.neutral
  unfold Endpoint.textWith at h ⊢
  rw [List.append_assoc] at h ⊢
  have hshaped := hid.sheltered h
  rw [hid.maskedFrom_append, endpoint.masked_text, endpoint.masked_shapeText]
  unfold Endpoint.shapeWith at hshaped ⊢
  cases hshape : endpoint.shape with
  | none =>
      rw [hshape] at hshaped
      exact ⟨number, by simp, hshaped⟩
  | some shape =>
      rw [hshape] at hshaped
      simp only [Option.map_some, Option.getD_some, List.cons_append, List.append_assoc,
        List.nil_append] at hshaped ⊢
      obtain ⟨next, htext, hbehind⟩ := exists_maskedFrom_shape shape.bracket hlabel hshaped number
      exact ⟨next, by rw [htext]; rfl, hbehind⟩

/-- Whatever the labels are, masking leaves the chain without them. -/
theorem maskedFrom_quotedText (number : Nat) {legs : List QuotedLeg} {last : Endpoint}
    {label : Text} (hlabel : ∀ c ∈ label, isBracket c = false)
    (h : Sheltered (pieces literal (quotedText legs last label))) :
    maskedFrom number (quotedText legs last label)
      = legsText (legs.map (·.toLeg.masked)) last.masked := by
  induction legs generalizing number with
  | nil =>
      rw [quotedText, ← List.append_nil (last.textWith label)] at h
      obtain ⟨next, htext, _⟩ := last.exists_maskedFrom hlabel h number
      rw [List.append_nil] at htext
      rw [quotedText, htext]
      exact List.append_nil _
  | cons leg legs ih =>
      have hgap := leg.blankGap.neutral
      have hspace := leg.blankSpace.neutral
      have harrow := leg.arrow.neutral
      simp only [quotedText, List.append_assoc] at h ⊢
      obtain ⟨next, htext, hbehind⟩ :=
        leg.source.exists_maskedFrom leg.unbracketed h number
      have hrest := ih next (hspace.sheltered (harrow.sheltered (hgap.sheltered hbehind)))
      rw [htext, hgap.maskedFrom_append, harrow.maskedFrom_append, hspace.maskedFrom_append,
        hrest]
      simp only [legsText, List.map_cons, List.append_assoc, Leg.masked_source, Leg.masked_gap,
        Leg.masked_arrow, Leg.masked_space]

/-- No lexeme among the pieces of a sheltered chain holds a bracket. -/
theorem QuotedChain.Sheltered.pieces {quoted : QuotedChain} (h : quoted.Sheltered) :
    Flowchart.Sheltered (pieces literal quoted.text) := by
  intro found rest hmem
  obtain ⟨place, hplace⟩ := exists_mem_occurrencesFrom hmem 0
  exact h found (List.mem_map.mpr ⟨_, hplace, rfl⟩)

/-- A masked leg has no label left to mask. -/
theorem Leg.masked_masked (leg : Leg) : leg.masked.masked = leg.masked := by
  unfold Leg.masked Endpoint.masked
  simp only [Option.map_map]
  rfl

/-- A masked endpoint has no label left to mask. -/
theorem Endpoint.masked_masked (endpoint : Endpoint) :
    endpoint.masked.masked = endpoint.masked := by
  unfold Endpoint.masked
  simp only [Option.map_map]
  rfl

/-- A chain with any labels is prepared as the chain with none is. -/
theorem prepareLine_quoted {quoted : QuotedChain} (h : quoted.Sheltered) :
    prepareLine quoted.text = prepareLine quoted.emptied.text := by
  have hindent := quoted.blankIndent.neutral
  have hlegs := hindent.sheltered h.pieces
  have hmasked : maskShapes (extractLiterals quoted.text).line = quoted.emptied.text := by
    have htext := maskedFrom_quotedText 0 quoted.unbracketed hlegs
    have hall := hindent.maskedFrom_append 0
      (quotedText quoted.legs quoted.last quoted.lastLabel)
    rw [htext] at hall
    exact hall
  have hemptied : maskShapes quoted.emptied.text = quoted.emptied.text := by
    unfold Chain.text QuotedChain.emptied
    rw [hindent.maskShapes_append, maskShapes_legsText, List.map_map,
      Endpoint.masked_masked]
    have hlegs : Leg.masked ∘ (fun leg : QuotedLeg => leg.toLeg.masked)
        = fun leg => leg.toLeg.masked := funext fun leg => leg.toLeg.masked_masked
    rw [hlegs]
  rw [prepareLine, prepareLine, quoted.emptied.unquoted.extractLiterals_line, hmasked, hemptied]

/-! ## The front of a quoted chain -/

/-- Whatever its label is, an endpoint begins a line of nodes with its name. -/
theorem Endpoint.front_textWith (endpoint : Endpoint) (label : Text) {gap rest : Text}
    (hgap : Blanks gap) (hends : EndsName endpoint.id (endpoint.shapeText ++ (gap ++ rest)))
    (hmark : ∀ c, rest.head? = some c → c ∈ ['<', '-', '=']) :
    Front endpoint.id (endpoint.shapeWith label ++ (gap ++ rest)) := by
  have hfront := endpoint.front hgap hends hmark
  unfold Endpoint.shapeText at hfront
  unfold Endpoint.shapeWith
  cases hshape : endpoint.shape with
  | some shape => exact .of_opener endpoint.isName endpoint.isNode shape.bracket _
  | none =>
      rw [hshape] at hfront
      exact hfront

/-- The chain begins with the name of its first endpoint. -/
theorem QuotedChain.exists_front (quoted : QuotedChain) :
    ∃ id rest, quoted.text = quoted.indent ++ (id ++ rest) ∧ Front id rest := by
  unfold QuotedChain.text
  cases quoted.legs with
  | nil =>
      have hfront := quoted.last.front_textWith quoted.lastLabel Blanks.nil
        quoted.last.endsName nofun
      rw [List.append_nil, List.append_nil] at hfront
      exact ⟨quoted.last.id, _, rfl, hfront⟩
  | cons leg legs =>
      refine ⟨leg.source.id, _, ?_, leg.source.front_textWith leg.label leg.blankGap
        (leg.endsName _) (leg.arrow.head?_text
          (leg.space ++ quotedText legs quoted.last quoted.lastLabel))⟩
      simp [quotedText, Endpoint.textWith]

/-- A masked endpoint is no longer than with any label. -/
theorem Endpoint.length_masked_le (endpoint : Endpoint) (label : Text) :
    endpoint.masked.text.length ≤ (endpoint.textWith label).length := by
  rw [endpoint.masked_text, endpoint.masked_shapeText, Endpoint.textWith, Endpoint.shapeWith]
  cases endpoint.shape <;> simp [Shape.text, Shape.masked]

/-- Masked legs are no longer than those with labels. -/
theorem length_legsText_le_quotedText (legs : List QuotedLeg) (last : Endpoint)
    (label : Text) :
    (legsText (legs.map (·.toLeg.masked)) last.masked).length
      ≤ (quotedText legs last label).length := by
  induction legs with
  | nil => exact last.length_masked_le label
  | cons leg legs ih =>
      have hsource := leg.source.length_masked_le leg.label
      simp only [legsText, quotedText, List.map_cons, List.length_append, Leg.masked_source,
        Leg.masked_gap, Leg.masked_arrow, Leg.masked_space]
      omega

/-- **Labels do not change the names of a chain**, whatever quotes and backslashes they
have, as long as no literal begins in one shape and ends in another. -/
theorem extractNames_quoted (limits : Limits) (quoted : QuotedChain)
    (hsheltered : quoted.Sheltered)
    (hlength : (quoted.text.length : Int) ≤ limits.maxLineLength) :
    extractNames limits [quoted.text] = extractNames limits [quoted.emptied.text] := by
  have hprepared := prepareLine_quoted hsheltered
  have hshorter : quoted.emptied.text.length ≤ quoted.text.length := by
    have hlegs := length_legsText_le_quotedText quoted.legs quoted.last quoted.lastLabel
    simpa [QuotedChain.text, Chain.text, QuotedChain.emptied] using hlegs
  obtain ⟨id, rest, htext, hfront⟩ := quoted.exists_front
  rw [htext] at hlength hprepared hshorter ⊢
  exact hfront.extractNames_eq quoted.blankIndent hlength hshorter hprepared

/-- The endpoint with an empty shape. -/
def Endpoint.shaped (endpoint : Endpoint) (bracket : Bracket) : Endpoint :=
  { endpoint with shape := some ⟨bracket, [], .nil, Unquoted.nil⟩, isPlain := nofun }

/-- The chain `A["x \" y"]-->|z|B(it's) -..->D\x7b\"\x7d` with quotes in all its shapes. -/
def remarksChain : QuotedChain where
  indent := []
  legs :=
    [{ legA with
       source := nodeA.shaped .square
       arrow :=
        { lineArrow with
          label := some ⟨[], "z".toList, Blanks.nil, forall_mem_of_all rfl,
            forall_mem_of_all rfl, forall_mem_of_all rfl⟩ }
       apart := nofun
       label := "\"x \\\" y\"".toList
       unbracketed := forall_mem_of_all rfl },
     { source := nodeB.shaped .round
       gap := [' ']
       arrow := ⟨false, .dotted true 2 (by decide), none⟩
       space := []
       blankGap := Blanks.space
       blankSpace := Blanks.nil
       apart := nofun
       label := "it's".toList
       unbracketed := forall_mem_of_all rfl }]
  last := ⟨"D".toList, some ⟨.curly, [], .nil, Unquoted.nil⟩, rfl, by decide, rfl, nofun⟩
  lastLabel := "\\\"".toList
  blankIndent := Blanks.nil
  unbracketed := forall_mem_of_all rfl

/-- One label is a literal with an escaped quote in it, and the quotes in the others open
none. -/
theorem extractNames_quoted_remarks :
    remarksChain.text = "A[\"x \\\" y\"]-->|z|B(it's) -..->D\x7b\\\"\x7d".toList ∧
      (extractLiterals remarksChain.text).literals = ["\"x \\\" y\"".toList] ∧
      extractNames {} [remarksChain.text] = extractNames {} [remarksChain.emptied.text] ∧
      extractNames {} [remarksChain.emptied.text]
        = ⟨["A".toList, "B".toList, "D".toList], ["A".toList, "B".toList, "D".toList]⟩ := by
  have hliterals : (extractLiterals remarksChain.text).literals = ["\"x \\\" y\"".toList] := by
    decide
  have hsheltered : remarksChain.Sheltered := by
    intro found hfound
    rw [hliterals] at hfound
    obtain rfl := List.mem_singleton.mp hfound
    exact forall_mem_of_all rfl
  exact ⟨by decide, hliterals, extractNames_quoted {} remarksChain hsheltered (by decide),
    by decide⟩

/-- The chain `A[it's]-->B[it's]`. -/
def apostropheChain : QuotedChain where
  indent := []
  legs :=
    [{ legA with
       source := nodeA.shaped .square
       apart := nofun
       label := "it's".toList
       unbracketed := forall_mem_of_all rfl }]
  last := nodeB.shaped .square
  lastLabel := "it's".toList
  blankIndent := Blanks.nil
  unbracketed := forall_mem_of_all rfl

/-- Between two apostrophes the arrow and the second node are lost. -/
theorem extractNames_apostropheChain :
    apostropheChain.text = "A[it's]-->B[it's]".toList ∧
      extractNames {} [apostropheChain.text] = ⟨["A".toList], []⟩ ∧
      extractNames {} [apostropheChain.emptied.text]
        = ⟨["A".toList, "B".toList], ["A".toList, "B".toList]⟩ := by
  refine ⟨by decide, by decide, by decide⟩

end Flowchart
