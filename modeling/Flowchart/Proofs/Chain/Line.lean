import Flowchart.Proofs.Prepared
import Flowchart.Proofs.Shape
import Flowchart.Token.Line

/-!
# Chains of arrows

A chain is a line of endpoints with an arrow between each and the next.  It is
kept as data whose fields carry the conditions under which its text reads
unambiguously: what a name is, which brackets a shape may hold, how long the
stroke of an arrow is, and where a blank has to stand.
-/

namespace Flowchart

/-- A group in brackets with a label in it. -/
structure Shape where
  /-- The kind of its brackets. -/
  bracket : Bracket
  /-- The characters between the brackets. -/
  label : Text
  /-- The brackets in the label come in pairs. -/
  nested : Nested label
  /-- There are no literals in the label. -/
  unquoted : Unquoted label

/-- The characters of a shape. -/
def Shape.text (shape : Shape) : Text :=
  shape.bracket.opener :: shape.label ++ [shape.bracket.closer]

/-- A name, perhaps with a shape at once behind it. -/
structure Endpoint where
  /-- The name. -/
  id : Text
  /-- The shape. -/
  shape : Option Shape
  /-- The name is one identifier. -/
  isName : IsName id
  /-- There is no class tag in the name. -/
  untagged : Untagged id
  /-- The name is one that a node can have. -/
  isNode : isKeyword id = false
  /-- The name alone does not begin a statement. -/
  isPlain : shape = none → statementWords.contains (lower id) = false

namespace Endpoint

/-- The characters of the shape, if there is one. -/
def shapeText (endpoint : Endpoint) : Text :=
  (endpoint.shape.map Shape.text).getD []

/-- The characters of an endpoint. -/
def text (endpoint : Endpoint) : Text :=
  endpoint.id ++ endpoint.shapeText

/-- The name of an endpoint that has a shape. -/
def shapedIds (endpoint : Endpoint) : List Text :=
  if endpoint.shape.isSome then [endpoint.id] else []

end Endpoint

/-- The stroke of an arrow, with or without a head at its end. -/
inductive Stroke where
  /-- Hyphens or equals signs; without a head three of them. -/
  | solid (thick headed : Bool) (count : Nat) (long : (if headed then 2 else 3) ≤ count)
  /-- Dots between two hyphens. -/
  | dotted (headed : Bool) (count : Nat) (long : 1 ≤ count)

/-- The characters of a stroke. -/
def Stroke.text : Stroke → Text
  | solid thick headed count _ =>
    List.replicate count (if thick then '=' else '-') ++ if headed then ['>'] else []
  | dotted headed count _ =>
    '-' :: List.replicate count '.' ++ '-' :: if headed then ['>'] else []

/-- A label of an arrow between two bars. -/
structure EdgeLabel where
  /-- The blanks before it. -/
  gap : Text
  /-- The characters between the bars. -/
  label : Text
  /-- There are only blanks before it. -/
  blankGap : Blanks gap
  /-- There are no bars in the label. -/
  unbarred : ∀ c ∈ label, c ≠ '|'
  /-- There are no literals in the label. -/
  unquoted : Unquoted label
  /-- There are no brackets in the label. -/
  unbracketed : ∀ c ∈ label, isBracket c = false

/-- The characters of a label. -/
def EdgeLabel.text (label : EdgeLabel) : Text :=
  label.gap ++ '|' :: label.label ++ ['|']

/-- An arrow. -/
structure Arrow where
  /-- Is there a head at its start? -/
  tailed : Bool
  /-- The stroke. -/
  stroke : Stroke
  /-- The label. -/
  label : Option EdgeLabel

namespace Arrow

/-- The head at the start, if there is one. -/
def tailText (arrow : Arrow) : Text :=
  if arrow.tailed then ['<'] else []

/-- The characters of the label, if there is one. -/
def labelText (arrow : Arrow) : Text :=
  (arrow.label.map EdgeLabel.text).getD []

/-- The characters of an arrow. -/
def text (arrow : Arrow) : Text :=
  arrow.tailText ++ arrow.stroke.text ++ arrow.labelText

end Arrow

/-- An endpoint and the arrow that leads on from it. -/
structure Leg where
  /-- The endpoint. -/
  source : Endpoint
  /-- The blanks before the arrow. -/
  gap : Text
  /-- The arrow. -/
  arrow : Arrow
  /-- The blanks behind the arrow. -/
  space : Text
  /-- There are only blanks before the arrow. -/
  blankGap : Blanks gap
  /-- There are only blanks behind the arrow. -/
  blankSpace : Blanks space
  /-- A hyphen at the end of a name is kept from the arrow. -/
  apart : source.shape = none → source.id.getLast? = some '-' → gap ≠ []

/-- The characters of legs and of the endpoint behind them. -/
def legsText : List Leg → Endpoint → Text
  | [], last => last.text
  | leg :: legs, last =>
    leg.source.text ++ leg.gap ++ leg.arrow.text ++ leg.space ++ legsText legs last

/-- A line of endpoints with arrows between them. -/
structure Chain where
  /-- The blanks in front. -/
  indent : Text
  /-- The endpoints that an arrow leaves. -/
  legs : List Leg
  /-- The last endpoint. -/
  last : Endpoint
  /-- There are only blanks in front. -/
  blankIndent : Blanks indent

namespace Chain

/-- The characters of a chain. -/
def text (chain : Chain) : Text :=
  chain.indent ++ legsText chain.legs chain.last

/-- The names of the endpoints, from left to right. -/
def ids (chain : Chain) : List Text :=
  chain.legs.map (·.source.id) ++ [chain.last.id]

/-- The names of the endpoints that are not the last one, or have a shape. -/
def definedIds (chain : Chain) : List Text :=
  chain.legs.map (·.source.id) ++ chain.last.shapedIds

end Chain

/-! ## Where the names of a chain end -/

/-- A solid stroke has at least two characters before its head. -/
theorem two_le_of_long {headed : Bool} {count : Nat}
    (long : (if headed then 2 else 3) ≤ count) : 2 ≤ count := by
  split at long <;> omega

/-- A stroke goes on no name. -/
theorem Stroke.nameRun_append (stroke : Stroke) (rest : Text) :
    nameRun (stroke.text ++ rest) = [] := by
  refine Eq.trans ?_ rfl
  cases stroke with
  | solid thick headed count long =>
      obtain ⟨more, rfl⟩ := Nat.exists_eq_add_of_le' (two_le_of_long long)
      cases thick <;> simp [Stroke.text, List.replicate_succ, nameRun, continuesArrow, isNameChar]
  | dotted headed count long =>
      obtain ⟨more, rfl⟩ := Nat.exists_eq_add_of_le' long
      simp [Stroke.text, List.replicate_succ, nameRun, continuesArrow, isNameChar]

/-- An arrow goes on no name. -/
theorem Arrow.nameRun_append (arrow : Arrow) (rest : Text) :
    nameRun (arrow.text ++ rest) = [] := by
  unfold Arrow.text Arrow.tailText
  split
  · rfl
  · rw [List.nil_append, List.append_assoc, arrow.stroke.nameRun_append]

/-- A name ends where a shape begins. -/
theorem endsName_shape (id : Text) (shape : Shape) (rest : Text) :
    EndsName id (shape.text ++ rest) := by
  unfold EndsName Shape.text
  cases shape.bracket <;> exact ⟨rfl, fun _ => rfl⟩

/-- A name ends where blanks begin. -/
theorem endsName_blank (id : Text) {c : Char} (h : isBlank c = true) (rest : Text) :
    EndsName id (c :: rest) := by
  have hne : ∀ d, isBlank d = false → c ≠ d := by
    rintro d hd rfl
    rw [h] at hd
    cases hd
  refine ⟨nameRun_of_not_goesOn ?_, fun _ => ?_⟩
  · rintro (hname | ⟨hhyphen, _⟩)
    · rw [isBlank_of_isNameChar hname] at h
      cases h
    · exact hne '-' rfl hhyphen
  · simp [continuesArrow, hne '-' rfl, hne '.' rfl, hne '>' rfl, hne '=' rfl]

/-- A name ends before its shape and before a gap, and without them where the rest
lets it. -/
theorem Endpoint.endsName_append (endpoint : Endpoint) {gap rest : Text} (hgap : Blanks gap)
    (h : endpoint.shape = none → gap = [] → EndsName endpoint.id rest) :
    EndsName endpoint.id (endpoint.shapeText ++ (gap ++ rest)) := by
  unfold Endpoint.shapeText
  cases hshape : endpoint.shape with
  | some shape => exact endsName_shape _ shape _
  | none =>
      rw [Option.map_none, Option.getD_none, List.nil_append]
      cases gap with
      | nil => exact h hshape rfl
      | cons c gap => exact endsName_blank _ (hgap c List.mem_cons_self) _

/-- The name of the last endpoint ends before its shape, with nothing behind that. -/
theorem Endpoint.endsName (endpoint : Endpoint) :
    EndsName endpoint.id (endpoint.shapeText ++ []) :=
  endpoint.endsName_append Blanks.nil fun _ _ => ⟨rfl, fun _ => rfl⟩

/-- The name at the start of a leg ends before its shape, its gap or its arrow. -/
theorem Leg.endsName (leg : Leg) (rest : Text) :
    EndsName leg.source.id
      (leg.source.shapeText ++ (leg.gap ++ (leg.arrow.text ++ rest))) := by
  refine leg.source.endsName_append leg.blankGap fun hshape hgap => ?_
  refine ⟨leg.arrow.nameRun_append rest, fun hlast => ?_⟩
  exact absurd hgap (leg.apart hshape hlast)

end Flowchart
