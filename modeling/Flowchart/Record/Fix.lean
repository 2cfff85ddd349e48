import Flowchart.Fix
import Flowchart.Record.Form

/-!
# Fixes as data

A fix is a record whose field `kind` names the variant, in front of the fields of
that variant.  Where only one variant is expected, the kind may be absent.
-/

namespace Flowchart

/-- A kind of fix that must be the given one. -/
def FixKind.only (kind : FixKind) : Form Unit where
  encode _ := .str kind.name
  decode
    | .str name => if name = kind.name then .valid () else .fault .literal
    | _ => .fault .literal

/-- A record that begins with the kind of a fix. -/
def FixKind.record {α : Type} (kind : FixKind) (encode : α → List (String × Json))
    (decode : Members → Checked α) : Form α where
  encode value := .ofMembers (("kind", .str kind.name) :: encode value)
  decode := decodeRecord .modelType fun members =>
    (fun _ value => value) <$> defaultField "kind" kind.only () members
      <*> decode members

namespace Replacement

/-- The members of a replacement. -/
def members (change : Replacement) : List (String × Json) :=
  [("line", .int change.line), ("old_text", .str change.oldText),
   ("new_text", .str change.newText)]

/-- A replacement from its members. -/
def ofMembers (members : Members) : Checked Replacement :=
  Replacement.mk <$> requiredField "line" .integer members
    <*> requiredField "old_text" .text members
    <*> requiredField "new_text" .text members

/-- A replacement. -/
def form : Form Replacement :=
  FixKind.replace.record members ofMembers

end Replacement

namespace Ending

/-- The members of an ending. -/
def members (ending : Ending) : List (String × Json) :=
  [("after_line", .int ending.afterLine)]

/-- An ending from its members. -/
def ofMembers (members : Members) : Checked Ending :=
  Ending.mk <$> requiredField "after_line" .integer members

/-- An ending. -/
def form : Form Ending :=
  FixKind.appendEnd.record members ofMembers

end Ending

namespace Definition

/-- The members of a definition. -/
def members (definition : Definition) : List (String × Json) :=
  [("node_id", .str definition.nodeId),
   ("insert_before_line", .int definition.insertBeforeLine)]

/-- A definition from its members. -/
def ofMembers (members : Members) : Checked Definition :=
  Definition.mk <$> requiredField "node_id" .text members
    <*> requiredField "insert_before_line" .integer members

/-- A definition. -/
def form : Form Definition :=
  FixKind.defineNode.record members ofMembers

end Definition

namespace Fix

/-- The JSON of a fix. -/
def toJson : Fix → Json
  | replace change => Replacement.form.encode change
  | appendEnd ending => Ending.form.encode ending
  | defineNode definition => Definition.form.encode definition

/-- A fix of a kind from its members. -/
def ofMembers (members : Members) : FixKind → Checked Fix
  | .replace => (Replacement.ofMembers members).map replace
  | .appendEnd => (Ending.ofMembers members).map appendEnd
  | .defineNode => (Definition.ofMembers members).map defineNode

/-- The kind that a value names. -/
def kindOf? : Json → Option FixKind
  | .str name => FixKind.ofName? name
  | _ => none

/-- A fix of any kind. -/
def form : Form Fix where
  encode := toJson
  decode := decodeRecord .modelAttributesType fun members =>
    match (Json.lookup? "kind".toList members).map kindOf? with
    | none => .fault .unionTagNotFound
    | some none => .fault .unionTagInvalid
    | some (some kind) => (ofMembers members kind).under (.variant kind.name)

end Fix

end Flowchart
