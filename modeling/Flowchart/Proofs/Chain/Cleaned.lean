import Flowchart.Proofs.Chain.Names
import Flowchart.Proofs.Clean.Nested
import Flowchart.Proofs.Lines
import Flowchart.Proofs.Linewise

/-!
# Cleaned chains

Cleaning changes nothing of a chain but the labels of its shapes, and these stay nested.  So
a cleaned chain is a chain, and as preparation takes the labels away, both are prepared alike
and have the same names.  A label does not go beyond its line, for each line is nested, so the
lines of a cleaned document are the cleaned lines.

Main statement: `extractNames_cleanLabels`.
-/

namespace Flowchart

/-! ## Cleaned shapes -/

/-- What is left of a text without quotes has none. -/
theorem Unquoted.sublist {text part : Text} (h : Unquoted text) (hpart : part.Sublist text) :
    Unquoted part :=
  fun c hc => h c (hpart.subset hc)

/-- The shape with a clean label. -/
def Shape.cleaned (shape : Shape) : Shape where
  bracket := shape.bracket
  label := shape.bracket.cleaned shape.label
  nested := shape.bracket.nested_cleaned shape.nested
  unquoted := shape.unquoted.sublist (shape.bracket.cleaned_sublist shape.label)

/-- The endpoint with a clean label in its shape. -/
def Endpoint.cleaned (endpoint : Endpoint) : Endpoint :=
  { endpoint with
    shape := endpoint.shape.map Shape.cleaned
    isPlain := fun h => endpoint.isPlain (Option.map_eq_none_iff.mp h) }

/-- The leg with a clean label in its shape. -/
def Leg.cleaned (leg : Leg) : Leg :=
  { leg with
    source := leg.source.cleaned
    apart := fun h => leg.apart (Option.map_eq_none_iff.mp h) }

/-- The chain with clean labels in its shapes. -/
def Chain.cleaned (chain : Chain) : Chain where
  indent := chain.indent
  legs := chain.legs.map Leg.cleaned
  last := chain.last.cleaned
  blankIndent := chain.blankIndent

/-- A shape is cleaned by itself. -/
theorem Shape.cleanLabels_append (shape : Shape) (rest : Text) :
    cleanLabels (shape.text ++ rest) = shape.cleaned.text ++ cleanLabels rest := by
  have hgroup := shape.nested.cleanLabels_group shape.bracket rest
  simpa [Shape.text, Shape.cleaned] using hgroup

/-- Nothing is cleaned outside of shapes. -/
theorem Neutral.cleanLabels_append {part : Text} (h : Neutral part) (rest : Text) :
    cleanLabels (part ++ rest) = part ++ cleanLabels rest := by
  have hplain : ∀ c ∈ part, isBracket c = false := fun c hc => h.isBracket_of_mem hc
  rw [(nested_of_not_bracket hplain).cleanLabels_append, cleanLabels_of_not_bracket hplain]

/-- A clean endpoint has the clean shape. -/
theorem Endpoint.cleaned_shapeText (endpoint : Endpoint) :
    endpoint.cleaned.shapeText
      = ((endpoint.shape.map Shape.cleaned).map Shape.text).getD [] := rfl

/-- An endpoint is cleaned by itself. -/
theorem Endpoint.cleanLabels_append (endpoint : Endpoint) (rest : Text) :
    cleanLabels (endpoint.text ++ rest) = endpoint.cleaned.text ++ cleanLabels rest := by
  have hshape : cleanLabels (endpoint.shapeText ++ rest)
      = endpoint.cleaned.shapeText ++ cleanLabels rest := by
    rw [endpoint.cleaned_shapeText, Endpoint.shapeText]
    cases endpoint.shape with
    | none => rfl
    | some shape => exact shape.cleanLabels_append rest
  rw [Endpoint.text, List.append_assoc, endpoint.isName.neutral.cleanLabels_append, hshape,
    ← List.append_assoc]
  rfl

/-- Cleaning changes the labels of the shapes of a chain. -/
theorem cleanLabels_legsText (legs : List Leg) (last : Endpoint) :
    cleanLabels (legsText legs last) = legsText (legs.map Leg.cleaned) last.cleaned := by
  induction legs with
  | nil =>
      have hlast := last.cleanLabels_append []
      simpa [legsText, show cleanLabels [] = [] from rfl] using hlast
  | cons leg legs ih =>
      simp only [legsText, List.map_cons, List.append_assoc]
      rw [leg.source.cleanLabels_append, leg.blankGap.neutral.cleanLabels_append,
        leg.arrow.neutral.cleanLabels_append, leg.blankSpace.neutral.cleanLabels_append, ih]
      rfl

/-- Cleaning the text of a chain makes the text of the clean chain. -/
theorem Chain.cleanLabels_text (chain : Chain) : cleanLabels chain.text = chain.cleaned.text := by
  rw [Chain.text, chain.blankIndent.neutral.cleanLabels_append, cleanLabels_legsText]
  rfl

/-! ## Prepared alike -/

/-- Without its label an endpoint is as it was before it was cleaned. -/
theorem Endpoint.cleaned_masked (endpoint : Endpoint) :
    endpoint.cleaned.masked = endpoint.masked := by
  have hshape : (endpoint.shape.map Shape.cleaned).map Shape.masked
      = endpoint.shape.map Shape.masked := by
    rw [Option.map_map]
    rfl
  simp only [Endpoint.masked, Endpoint.cleaned, hshape]

/-- What preparation leaves of a leg does not depend on cleaning. -/
theorem Leg.cleaned_bare (leg : Leg) : leg.cleaned.bare = leg.bare := by
  simp only [Leg.bare, Leg.masked, Leg.cleaned, leg.source.cleaned_masked]

/-- What preparation leaves of a cleaned chain is what it leaves of the chain. -/
theorem Chain.cleaned_bare (chain : Chain) : chain.cleaned.bare = chain.bare := by
  have hlegs : (chain.legs.map Leg.cleaned).map Leg.bare = chain.legs.map Leg.bare := by
    rw [List.map_map]
    exact List.map_congr_left fun leg _ => leg.cleaned_bare
  simp only [Chain.bare, Chain.cleaned, hlegs, chain.last.cleaned_masked]

/-- A cleaned chain has the names of the chain. -/
theorem Chain.extractNames_cleaned (chain : Chain) {limits : Limits}
    (h : (chain.text.length : Int) ≤ limits.maxLineLength) :
    extractNames limits [cleanLabels chain.text] = extractNames limits [chain.text] := by
  have hprepared : prepareLine chain.cleaned.text = prepareLine chain.text := by
    rw [prepareLine_chain, prepareLine_chain, chain.cleaned_bare]
  have hshorter : chain.cleaned.text.length ≤ chain.text.length := by
    rw [← chain.cleanLabels_text]
    exact (cleanLabels_sublist chain.text).length_le
  have hinspected := chain.cleaned.isInspected_eq (Int.le_trans (Int.ofNat_le.mpr hshorter) h)
  rw [chain.cleanLabels_text]
  exact extractNames_of_prepareLine_eq hinspected (chain.isInspected_eq h)
    chain.cleaned.namesNodes_eq chain.namesNodes_eq hprepared

/-! ## Documents -/

/-- A text without brackets is nested. -/
theorem Neutral.nested {text : Text} (h : Neutral text) : Nested text :=
  nested_of_not_bracket fun _ hc => h.isBracket_of_mem hc

/-- The brackets of an endpoint are nested. -/
theorem Endpoint.nested (endpoint : Endpoint) : Nested endpoint.text := by
  refine endpoint.isName.neutral.nested.append ?_
  unfold Endpoint.shapeText
  cases endpoint.shape with
  | none => exact Nested.nil
  | some shape => exact Nested.group shape.bracket shape.nested Nested.nil

/-- The brackets of legs and of the endpoint behind them are nested. -/
theorem nested_legsText (legs : List Leg) (last : Endpoint) : Nested (legsText legs last) := by
  induction legs with
  | nil => exact last.nested
  | cons leg legs ih =>
      have hgap := leg.blankGap.neutral.nested
      have hspace := leg.blankSpace.neutral.nested
      have harrow := leg.arrow.neutral.nested
      exact (((leg.source.nested.append hgap).append harrow).append hspace).append ih

/-- The brackets of a chain come in pairs. -/
theorem Chain.nested (chain : Chain) : Nested chain.text :=
  chain.blankIndent.neutral.nested.append (nested_legsText chain.legs chain.last)

/-- Joined lines are cleaned one by one if they are nested. -/
theorem cleanLabels_joinLines {newline : Text} (hnewline : Neutral newline) {lines : List Text}
    (h : ∀ line ∈ lines, Nested line) :
    cleanLabels (joinLines newline lines) = joinLines newline (lines.map cleanLabels) := by
  induction lines with
  | nil => rfl
  | cons line lines ih =>
      obtain ⟨hline, hlines⟩ := List.forall_mem_cons.mp h
      cases lines with
      | nil => simp [joinLines, joinWith_singleton]
      | cons next lines =>
          rw [joinLines_cons_cons, hline.cleanLabels_append, hnewline.cleanLabels_append,
            ih hlines]
          rfl

/-- The lines of a cleaned document are its cleaned lines if they are nested. -/
theorem splitLines_cleanLabels {source : Text} (hreturn : '\r' ∉ source)
    (h : ∀ line ∈ splitLines source, Nested line) :
    splitLines (cleanLabels source) = (splitLines source).map cleanLabels := by
  have hnewline : Neutral Newline.lf.text := forall_mem_of_all rfl
  have hcleaned : cleanLabels source
      = joinLines Newline.lf.text ((splitLines source).map cleanLabels) := by
    rw [← cleanLabels_joinLines hnewline h, joinLines_splitLines hreturn]
  have hne : (splitLines source).map cleanLabels ≠ [] :=
    fun hnil => splitLines_ne_nil source (List.map_eq_nil_iff.mp hnil)
  have hunbroken : ∀ line ∈ (splitLines source).map cleanLabels, Unbroken line := by
    intro line hline c hc
    obtain ⟨before, hbefore, rfl⟩ := List.mem_map.mp hline
    exact unbroken_of_mem_splitLines (paired_of_not_mem hreturn) before hbefore c
      ((cleanLabels_sublist before).subset hc)
  rw [hcleaned, (joinable_of_unbroken .lf hne hunbroken).splitLines_joinLines]

/-- A change of the lines that keeps the names of each keeps those of the document. -/
theorem extractNames_map {limits : Limits} {change : Text → Text} {lines : List Text}
    (h : ∀ line ∈ lines, extractNames limits [change line] = extractNames limits [line]) :
    extractNames limits (lines.map change) = extractNames limits lines := by
  induction lines with
  | nil => rfl
  | cons line lines ih =>
      obtain ⟨hline, hlines⟩ := List.forall_mem_cons.mp h
      have hfront := extractNames_append limits [change line] (lines.map change)
      rw [hline, ih hlines, ← extractNames_append] at hfront
      exact hfront

/-- **Cleaning the labels of a document does not change its names.** Every line is a chain that
is not too long, and no carriage return is in the document. -/
theorem extractNames_cleanLabels (limits : Limits) (source : Text)
    (hchains : ∀ line ∈ splitLines source, ∃ chain : Chain, chain.text = line)
    (hreturn : '\r' ∉ source)
    (hlength : ∀ line ∈ splitLines source, (line.length : Int) ≤ limits.maxLineLength) :
    extractNames limits (splitLines (cleanLabels source))
      = extractNames limits (splitLines source) := by
  have hnested : ∀ line ∈ splitLines source, Nested line := by
    intro line hline
    obtain ⟨chain, rfl⟩ := hchains line hline
    exact chain.nested
  rw [splitLines_cleanLabels hreturn hnested]
  refine extractNames_map fun line hline => ?_
  obtain ⟨chain, rfl⟩ := hchains line hline
  exact chain.extractNames_cleaned (hlength _ hline)

/-- A label with brackets of two kinds in square ones is nested. -/
theorem nested_kindsLabel : Nested "[a \x7b(b)\x7d c]".toList := by
  have hround : Nested "(b)".toList := .group .round (.plain rfl .nil) .nil
  have hcurly : Nested "\x7b(b)\x7d c".toList :=
    .group .curly hround (.plain rfl (.plain rfl .nil))
  exact .group .square (.plain rfl (.plain rfl hcurly)) .nil

/-- The chain `A([a {(b)} c])<-->B`. -/
def kindsChain : Chain where
  indent := []
  legs :=
    [{ source := { nodeA with
        shape := some
          ⟨.round, "[a \x7b(b)\x7d c]".toList, nested_kindsLabel, forall_mem_of_all rfl⟩
        isPlain := nofun }
       gap := []
       arrow := { lineArrow with tailed := true }
       space := []
       blankGap := Blanks.nil
       blankSpace := Blanks.nil
       apart := nofun }]
  last := nodeB
  blankIndent := Blanks.nil

/-- A document of two chains. -/
def chainsDocument : Text :=
  joinLines Newline.lf.text [stepsChain.text, kindsChain.text]

/-- In both lines a label loses its parentheses, and the names are the same. -/
theorem extractNames_cleanLabels_steps :
    cleanLabels chainsDocument
        = ("  Step1[a b]-->|yes|Step2- -.-Step1-->Done\n".toList
          ++ "A([a \x7bb\x7d c])<-->B".toList) ∧
      extractNames {} (splitLines (cleanLabels chainsDocument))
        = extractNames {} (splitLines chainsDocument) := by
  have hlines : splitLines chainsDocument = [stepsChain.text, kindsChain.text] := by
    decide
  have hchains : ∀ line ∈ splitLines chainsDocument, ∃ chain : Chain, chain.text = line := by
    rw [hlines]
    exact List.forall_mem_cons.mpr
      ⟨⟨stepsChain, rfl⟩, List.forall_mem_singleton.mpr ⟨kindsChain, rfl⟩⟩
  have hlength : ∀ line ∈ splitLines chainsDocument,
      (line.length : Int) ≤ ({} : Limits).maxLineLength := by
    rw [hlines]
    decide
  exact ⟨by decide, extractNames_cleanLabels {} chainsDocument hchains (by decide) hlength⟩

end Flowchart
