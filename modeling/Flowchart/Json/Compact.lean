import Flowchart.Json.Printer

/-!
# Compact JSON

A value is written on one line without blanks, and characters above ASCII stand
for themselves.  A real that is not finite has no place in JSON, although there
are words for it.
-/

namespace Flowchart.Json

/-- One character inside a string. -/
def compactChar (c : Char) : Text :=
  if c.toNat < 0x20 || c = '"' || c = '\\' then stringChar c else [c]

/-- A string between its quotes. -/
def compactString (text : Text) : Text :=
  '"' :: text.flatMap compactChar ++ ['"']

/-- Texts with commas between them, between brackets. -/
def compactList (first last : Char) (texts : List Text) : Text :=
  first :: joinWith [','] texts ++ [last]

mutual

/-- The text of a value. -/
def compact : Json → Text
  | null => "null".toList
  | bool true => "true".toList
  | bool false => "false".toList
  | int value => intText value
  | real value => realText "NaN".toList "Infinity".toList value
  | str text => compactString text
  | arr items => compactList '[' ']' (compactItems items)
  | obj members => compactList '\x7b' '\x7d' (compactMembers members)

/-- The texts of the items of an array. -/
def compactItems : List Json → List Text
  | [] => []
  | item :: items => compact item :: compactItems items

/-- The texts of the members of an object. -/
def compactMembers : List (Text × Json) → List Text
  | [] => []
  | (name, value) :: members =>
    (compactString name ++ ':' :: compact value) :: compactMembers members

end

mutual

/-- Are all reals in a value finite? -/
def isFinite : Json → Bool
  | real value => !value.isNaN && !value.isInf
  | arr items => areFinite items
  | obj members => haveFinite members
  | _ => true

/-- Are all reals in the items of an array finite? -/
def areFinite : List Json → Bool
  | [] => true
  | item :: items => isFinite item && areFinite items

/-- Are all reals in the members of an object finite? -/
def haveFinite : List (Text × Json) → Bool
  | [] => true
  | (_, value) :: members => isFinite value && haveFinite members

end

end Flowchart.Json
