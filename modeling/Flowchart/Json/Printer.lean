import Flowchart.Decimal
import Flowchart.Json
import Flowchart.Text.Quoted

/-!
# Writing JSON

A value is written on one line, with a blank behind each comma, or laid out over
lines that are indented by level.  Only ASCII is written: every other character,
and every control, is escaped by its 16-bit units.
-/

namespace Flowchart.Json

/-- A 16-bit unit as an escape. -/
def unitEscape (unit : Nat) : Text :=
  '\\' :: 'u' :: hexText 4 unit

/-- One character inside a string. -/
def stringChar (c : Char) : Text :=
  if c = '"' || c = '\\' then ['\\', c]
  else if c = '\n' then ['\\', 'n']
  else if c = '\r' then ['\\', 'r']
  else if c = '\t' then ['\\', 't']
  else if c = '\x0c' then ['\\', 'f']
  else if c = '\x08' then ['\\', 'b']
  else if 0x20 ≤ c.toNat ∧ c.toNat < 0x7F then [c]
  else if c.toNat < 0x10000 then unitEscape c.toNat
  else
    let high := (c.toNat - 0x10000) / 0x400
    let low := (c.toNat - 0x10000) % 0x400
    unitEscape (0xD800 + high) ++ unitEscape (0xDC00 + low)

/-- A string between its quotes. -/
def stringText (text : Text) : Text :=
  '"' :: text.flatMap stringChar ++ ['"']

/-- How the items of an array or object are set apart. -/
inductive Layout where
  /-- All on one line. -/
  | oneLine
  /-- Each on a line of its own, indented by so many blanks a level. -/
  | lines (indent : Nat)
  deriving DecidableEq, Repr

namespace Layout

/-- The layout for an optional indent; below zero it is as zero. -/
def ofIndent : Option Int → Layout
  | none => oneLine
  | some indent => lines indent.toNat

/-- What stands in front of the first item, and behind the last at one level
less. -/
def lineStart : Layout → Nat → Text
  | oneLine, _ => []
  | lines indent, level => '\n' :: List.replicate (indent * level) ' '

/-- What stands between two items. -/
def between : Layout → Nat → Text
  | oneLine, _ => [',', ' ']
  | lines indent, level => ',' :: lineStart (lines indent) level

end Layout

/-- Items between brackets, at the level of the whole. -/
def enclose (layout : Layout) (level : Nat) (first last : Char) : List Text → Text
  | [] => [first, last]
  | item :: items =>
    first :: layout.lineStart (level + 1)
      ++ joinWith (layout.between (level + 1)) (item :: items)
      ++ layout.lineStart level ++ [last]

mutual

/-- The text of a value that stands at a level. -/
def renderAt (layout : Layout) (level : Nat) : Json → Text
  | null => "null".toList
  | bool true => "true".toList
  | bool false => "false".toList
  | int value => intText value
  | real value => realText "NaN".toList "Infinity".toList value
  | str text => stringText text
  | arr items => enclose layout level '[' ']' (renderItems layout (level + 1) items)
  | obj members =>
    enclose layout level '\x7b' '\x7d' (renderMembers layout (level + 1) members)

/-- The texts of the items of an array. -/
def renderItems (layout : Layout) (level : Nat) : List Json → List Text
  | [] => []
  | item :: items => renderAt layout level item :: renderItems layout level items

/-- The texts of the members of an object. -/
def renderMembers (layout : Layout) (level : Nat) : List (Text × Json) → List Text
  | [] => []
  | (name, value) :: members =>
    (stringText name ++ [':', ' '] ++ renderAt layout level value)
      :: renderMembers layout level members

end

/-- The text of a value. -/
def render (layout : Layout) (value : Json) : Text :=
  renderAt layout 0 value

end Flowchart.Json
