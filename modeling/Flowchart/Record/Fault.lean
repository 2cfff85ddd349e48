import Flowchart.Json

/-!
# Faults of data

Data is checked as a whole: a check that fails says which fault stands at which
path, and a record with several faulty fields reports them all in the order of
the fields.
-/

namespace Flowchart

/-- What can be wrong with a value. -/
inductive FaultKind where
  /-- A required field is absent. -/
  | missing
  /-- The value is no string. -/
  | stringType
  /-- The value can be no integer. -/
  | intType
  /-- The text is that of no integer. -/
  | intParsing
  /-- The number is too great for an integer. -/
  | intParsingSize
  /-- The real has a fraction. -/
  | intFromFloat
  /-- The real is not finite. -/
  | finiteNumber
  /-- The text is that of no real. -/
  | floatParsing
  /-- The value can be no truth value. -/
  | boolType
  /-- The number or text stands for no truth value. -/
  | boolParsing
  /-- The value is none of a list of names. -/
  | enum
  /-- The value is not the one name that is allowed. -/
  | literal
  /-- The value is no record. -/
  | modelType
  /-- The value has no fields. -/
  | modelAttributesType
  /-- The value is no tuple. -/
  | tupleType
  /-- The value is no list. -/
  | listType
  /-- The field that names the variant is absent. -/
  | unionTagNotFound
  /-- The field that names the variant names none. -/
  | unionTagInvalid
  /-- The text is not JSON. -/
  | jsonInvalid
  deriving DecidableEq, Repr

/-- The name under which a fault is reported. -/
def FaultKind.name : FaultKind → Text
  | missing => "missing".toList
  | stringType => "string_type".toList
  | intType => "int_type".toList
  | intParsing => "int_parsing".toList
  | intParsingSize => "int_parsing_size".toList
  | intFromFloat => "int_from_float".toList
  | finiteNumber => "finite_number".toList
  | floatParsing => "float_parsing".toList
  | boolType => "bool_type".toList
  | boolParsing => "bool_parsing".toList
  | enum => "enum".toList
  | literal => "literal_error".toList
  | modelType => "model_type".toList
  | modelAttributesType => "model_attributes_type".toList
  | tupleType => "tuple_type".toList
  | listType => "list_type".toList
  | unionTagNotFound => "union_tag_not_found".toList
  | unionTagInvalid => "union_tag_invalid".toList
  | jsonInvalid => "json_invalid".toList

/-- One step from a value to a part of it. -/
inductive PathStep where
  /-- To the field of that name. -/
  | field (name : Text)
  /-- To the item at that index. -/
  | item (index : Nat)
  /-- To the same value, seen as the variant of that name. -/
  | variant (name : Text)
  deriving DecidableEq, Repr

/-- The step as JSON. -/
def PathStep.toJson : PathStep → Json
  | field name => .str name
  | item index => .int index
  | variant name => .str name

/-- A fault with the path to the value that has it. -/
structure Fault where
  /-- What is wrong. -/
  kind : FaultKind
  /-- Where, from the outermost value on. -/
  path : List PathStep
  deriving DecidableEq, Repr

/-- The fault as JSON. -/
def Fault.toJson (fault : Fault) : Json :=
  .ofMembers
    [("type", .str fault.kind.name), ("loc", .arr (fault.path.map PathStep.toJson))]

/-- The part of a value at the end of a path, or the last part on the way where the
path leads to nothing. -/
def PathStep.partAt : List PathStep → Json → Json
  | field name :: path, whole => (whole.get? name).elim whole (partAt path)
  | item index :: path, .arr items => (items[index]?).elim (.arr items) (partAt path)
  | variant _ :: path, whole => partAt path whole
  | _, part => part

/-- The outcome of a check. -/
inductive Checked (α : Type) where
  /-- Nothing is wrong. -/
  | valid (value : α)
  /-- These things are wrong, at least one. -/
  | faulty (faults : List Fault)
  deriving DecidableEq, Repr

namespace Checked

variable {α β : Type}

/-- A check that fails at the value itself. -/
def fault (kind : FaultKind) : Checked α :=
  faulty [⟨kind, []⟩]

/-- Change what was found valid. -/
def map (f : α → β) : Checked α → Checked β
  | valid value => valid (f value)
  | faulty faults => faulty faults

/-- Two checks together; the faults of both are reported. -/
def apply : Checked (α → β) → Checked α → Checked β
  | valid f, valid value => valid (f value)
  | valid _, faulty faults => faulty faults
  | faulty faults, valid _ => faulty faults
  | faulty faults, faulty more => faulty (faults ++ more)

instance : Applicative Checked where
  pure := valid
  seq f value := f.apply (value ())

/-- The check of a part, seen from the whole. -/
def under (step : PathStep) : Checked α → Checked α
  | valid value => valid value
  | faulty faults => faulty (faults.map fun ⟨kind, path⟩ => ⟨kind, step :: path⟩)

end Checked

end Flowchart
