import Flowchart.Decimal
import Flowchart.Json
import Flowchart.Text.Quoted

/-!
# Plain text of JSON values

In a report for the console a string stands as it is.  Inside an array or an
object strings are quoted, and the constants are written as words with a capital.
-/

namespace Flowchart.Json

mutual

/-- The text of a value inside another. -/
def quotedText : Json → Text
  | null => "None".toList
  | bool true => "True".toList
  | bool false => "False".toList
  | int value => intText value
  | real value => realText "nan".toList "inf".toList value
  | str text => quoted text
  | arr items => '[' :: joinWith [',', ' '] (quotedItems items) ++ [']']
  | obj members => '\x7b' :: joinWith [',', ' '] (quotedMembers members) ++ ['\x7d']

/-- The texts of the items of an array. -/
def quotedItems : List Json → List Text
  | [] => []
  | item :: items => quotedText item :: quotedItems items

/-- The texts of the members of an object. -/
def quotedMembers : List (Text × Json) → List Text
  | [] => []
  | (name, value) :: members =>
    (quoted name ++ [':', ' '] ++ quotedText value) :: quotedMembers members

end

/-- The text of a value by itself. -/
def plainText : Json → Text
  | str text => text
  | value => quotedText value

end Flowchart.Json
