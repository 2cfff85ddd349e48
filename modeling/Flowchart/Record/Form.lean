import Flowchart.Decimal
import Flowchart.Record.Fault
import Flowchart.Text.Numeral

/-!
# Forms of data

A form says how values of a type are written as JSON, and which JSON is taken
for them.  Reading is lenient: an integer may come as a whole real, as a truth
value or as a numeral, and a truth value as a number or a word.  A number that
is not taken as it is has to fit in 64 bits.
-/

namespace Flowchart

/-- A way to write the values of a type as JSON and to read them. -/
structure Form (α : Type) where
  /-- The JSON of a value. -/
  encode : α → Json
  /-- The value of some JSON. -/
  decode : Json → Checked α

/-- The words for a truth value, in small letters. -/
def truthOfText? (text : Text) : Option Bool :=
  let word := String.ofList (text.map Char.toLower)
  if ["1", "on", "t", "true", "y", "yes"].contains word then some true
  else if ["0", "off", "f", "false", "n", "no"].contains word then some false
  else none

namespace Form

variable {α : Type}

/-- A text. -/
def text : Form Text where
  encode := .str
  decode
    | .str text => .valid text
    | _ => .fault .stringType

/-- An integer. -/
def integer : Form Int where
  encode := .int
  decode
    | .int value => .valid value
    | .bool value => .valid (if value then 1 else 0)
    | .real value =>
      if value.isNaN || value.isInf then .fault .finiteNumber
      else
        match wholeValue? value with
        | none => .fault .intFromFloat
        | some whole =>
          if whole.natAbs < Nat.pow 2 63 then .valid whole else .fault .intParsingSize
    | .str text =>
      match Numeral.ofText text with
      | .integer value => .valid value
      | .tooLong => .fault .intParsingSize
      | .malformed => .fault .intParsing
    | _ => .fault .intType

/-- A truth value. -/
def truth : Form Bool where
  encode := .bool
  decode
    | .bool value => .valid value
    | .int value =>
      if value = 0 then .valid false
      else if value = 1 then .valid true
      else if -Int.pow 2 63 ≤ value ∧ value < Int.pow 2 63 then .fault .boolParsing
      else .fault .boolType
    | .real value =>
      if value == 0 then .valid false
      else if value == 1 then .valid true
      else .fault .boolType
    | .str text => (truthOfText? text).elim (.fault .boolParsing) .valid
    | _ => .fault .boolType

/-- A value that may be `null`. -/
def optional (form : Form α) : Form (Option α) where
  encode := Json.ofOption form.encode
  decode
    | .null => .valid none
    | json => (form.decode json).map some

/-- The items of an array from an index on. -/
def decodeItems (form : Form α) : (index : Nat) → List Json → Checked (List α)
  | _, [] => .valid []
  | index, item :: items =>
    List.cons <$> (form.decode item).under (.item index)
      <*> decodeItems form (index + 1) items

/-- An array, for which anything else is the given fault. -/
def array (otherwise : FaultKind) (form : Form α) : Form (List α) where
  encode items := .arr (items.map form.encode)
  decode
    | .arr items => decodeItems form 0 items
    | _ => .fault otherwise

end Form

/-- The members of a record. -/
abbrev Members := List (Text × Json)

/-- A field that must be there. -/
def requiredField {α : Type} (name : String) (form : Form α) (members : Members) :
    Checked α :=
  match Json.lookup? name.toList members with
  | some json => (form.decode json).under (.field name.toList)
  | none => .faulty [⟨.missing, [.field name.toList]⟩]

/-- A field that has a value also where it is absent. -/
def defaultField {α : Type} (name : String) (form : Form α) (absent : α)
    (members : Members) : Checked α :=
  match Json.lookup? name.toList members with
  | some json => (form.decode json).under (.field name.toList)
  | none => .valid absent

/-- A record from its members, for which anything else is the given fault. -/
def decodeRecord {α : Type} (otherwise : FaultKind) (decode : Members → Checked α) :
    Json → Checked α
  | .obj members => decode members
  | _ => .fault otherwise

end Flowchart
