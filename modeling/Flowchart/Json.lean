import Flowchart.Text

/-!
# JSON values

Integers and reals are different numbers here, as a report may hold either and
writes them differently.  An object is the list of its members; where a name is
repeated, the last member of that name is the one that counts.
-/

namespace Flowchart

/-- A JSON value. -/
inductive Json where
  /-- The value `null`. -/
  | null
  /-- A truth value. -/
  | bool (value : Bool)
  /-- A number written without fraction and exponent. -/
  | int (value : Int)
  /-- Any other number. -/
  | real (value : Float)
  /-- A string. -/
  | str (value : Text)
  /-- An array. -/
  | arr (items : List Json)
  /-- An object. -/
  | obj (members : List (Text × Json))
  deriving Inhabited

namespace Json

/-- The member of that name among members, the last of several. -/
def lookup? (name : Text) : List (Text × Json) → Option Json
  | [] => none
  | (key, value) :: rest =>
    match lookup? name rest with
    | some found => some found
    | none => if key = name then some value else none

/-- The members of which each name is there once, where it first stood and with the
value that counts. -/
def settled (members : List (Text × Json)) : List (Text × Json) :=
  (members.map (·.1)).eraseDups.filterMap fun name =>
    (lookup? name members).map fun value => (name, value)

/-- The member of that name of an object. -/
def get? (name : Text) : Json → Option Json
  | obj members => lookup? name members
  | _ => none

/-- The string of that text. -/
def ofString (text : String) : Json :=
  str text.toList

/-- An object from names and values. -/
def ofMembers (members : List (String × Json)) : Json :=
  obj (members.map fun (name, value) => (name.toList, value))

/-- A value that may be absent, `null` then. -/
def ofOption {α : Type} (encode : α → Json) : Option α → Json
  | some value => encode value
  | none => null

end Json

end Flowchart
