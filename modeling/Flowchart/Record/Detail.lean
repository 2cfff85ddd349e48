import Flowchart.Json.Compact
import Flowchart.Json.Plain
import Flowchart.Record.Fix
import Flowchart.Text.Surrogate
import Flowchart.Text.Utf8

/-!
# Faults in detail

Who sends faulty data is told what is wrong with it, where, and which value it
is.  The value is repeated as it was understood: each name once, and without the
members whose names are reserved for the machinery of a data base.
-/

namespace Flowchart

/-- The start of the names that are never repeated. -/
def reservedStart : Text :=
  "_sa".toList

mutual

/-- A value as it is repeated. -/
def Json.repeated : Json → Json
  | .arr items => .arr (Json.repeatedItems items)
  | .obj members =>
    .obj ((Json.settled (Json.repeatedMembers members)).filter fun entry =>
      !reservedStart.isPrefixOf entry.1)
  | value => value

/-- The items of an array as they are repeated. -/
def Json.repeatedItems : List Json → List Json
  | [] => []
  | item :: items => item.repeated :: Json.repeatedItems items

/-- The members of an object as they are repeated. -/
def Json.repeatedMembers : List (Text × Json) → List (Text × Json)
  | [] => []
  | (name, value) :: members => (name, value.repeated) :: Json.repeatedMembers members

end

/-- The names of the kinds of fixes, in quotes. -/
def fixKindList : Text :=
  joinWith [',', ' '] (FixKind.all.map fun kind => quoted kind.name)

/-- The kind that a faulty fix names, as text.  A surrogate becomes what its three
bytes are without it. -/
def namedKind (fix : Json) : Text :=
  (((fix.get? "kind".toList).getD .null).plainText).flatMap fun c =>
    if (surrogate? c).isSome then List.replicate 3 Utf8.replacement else [c]

/-- What is said of a fault in a value. -/
def FaultKind.message (value : Json) : FaultKind → Text
  | missing => "Field required".toList
  | stringType => "Input should be a valid string".toList
  | intType => "Input should be a valid integer".toList
  | intParsing =>
    "Input should be a valid integer, unable to parse string as an integer".toList
  | intParsingSize =>
    "Unable to parse input string as an integer, exceeded maximum size".toList
  | intFromFloat =>
    "Input should be a valid integer, got a number with a fractional part".toList
  | finiteNumber => "Input should be a finite number".toList
  | floatParsing =>
    "Input should be a valid number, unable to parse string as a number".toList
  | boolType => "Input should be a valid boolean".toList
  | boolParsing => "Input should be a valid boolean, unable to interpret input".toList
  | enum | literal => "Input should be one of the expected names".toList
  | modelType => "Input should be a valid dictionary".toList
  | modelAttributesType =>
    "Input should be a valid dictionary or object to extract fields from".toList
  | tupleType => "Input should be a valid tuple".toList
  | listType => "Input should be a valid list".toList
  | unionTagNotFound => "Unable to extract tag using discriminator 'kind'".toList
  | unionTagInvalid =>
    "Input tag '".toList ++ namedKind value
      ++ "' found using 'kind' does not match any of the expected tags: ".toList
      ++ fixKindList
  | jsonInvalid => "JSON decode error".toList

/-- What else belongs to a fault in a value. -/
def FaultKind.context (value : Json) : FaultKind → List (String × Json)
  | unionTagNotFound =>
    [("ctx", .ofMembers [("discriminator", .ofString "'kind'")])]
  | unionTagInvalid =>
    [("ctx", .ofMembers
      [("discriminator", .ofString "'kind'"), ("tag", .str (namedKind value)),
       ("expected_tags", .str fixKindList)])]
  | _ => []

/-- A fault of a value, told in detail; `place` leads to the value. -/
def Fault.detail (place : List PathStep) (whole : Json) (fault : Fault) : Json :=
  let value := PathStep.partAt fault.path whole
  .ofMembers
    ([("type", .str fault.kind.name),
      ("loc", .arr ((place ++ fault.path).map PathStep.toJson)),
      ("msg", .str (fault.kind.message value)),
      ("input", value.repeated)] ++ fault.kind.context value)

end Flowchart
