import Flowchart.Fix
import Flowchart.Text.Lines

/-!
# Applying a fix

A fix is applied to the lines of a document.  It is stale when the line that it
speaks of is not there, or no longer holds what it replaces; a stale fix changes
nothing, not even the newlines.
-/

namespace Flowchart

/-- The line that defines a node and gives it its own name for a label. -/
def definitionLine (nodeId : Text) : Text :=
  "    ".toList ++ nodeId ++ '[' :: nodeId ++ [']']

/-- Replace the first old text on the line that is meant. -/
def Replacement.applyTo? (change : Replacement) (lines : List Text) :
    Option (List Text) := do
  if change.line < 1 then none
  else
    let index := (change.line - 1).toNat
    let old ← lines[index]?
    let new ← replaceFirst? change.oldText change.newText old
    some (lines.set index new)

/-- Append the line that closes a block.  An empty last line of several is the
end of the line before it, and stays the last. -/
def appendEndLine (lines : List Text) : List Text :=
  if 1 < lines.length ∧ lines.getLast? = some [] then
    lines.dropLast ++ ["end".toList, []]
  else lines ++ ["end".toList]

/-- Insert the definition of a node before a line; numbers below one stand for
the first line. -/
def Definition.applyTo? (definition : Definition) (lines : List Text) :
    Option (List Text) :=
  let index := (definition.insertBeforeLine - 1).toNat
  if lines.length < index then none
  else some (lines.take index ++ definitionLine definition.nodeId :: lines.drop index)

namespace Fix

/-- The lines with the fix applied, or nothing where it is stale. -/
def applyToLines? (fix : Fix) (lines : List Text) : Option (List Text) :=
  match fix with
  | replace change => change.applyTo? lines
  | appendEnd _ => some (appendEndLine lines)
  | defineNode definition => definition.applyTo? lines

/-- The lines with the fix applied; a stale fix leaves them alone. -/
def applyToLines (fix : Fix) (lines : List Text) : List Text :=
  (fix.applyToLines? lines).getD lines

/-- The text with the fix applied, its lines ended by the newline of the text; a
stale fix leaves the text alone. -/
def apply (fix : Fix) (source : Text) : Text :=
  match fix.applyToLines? (splitLines source) with
  | none => source
  | some lines => joinLines (Newline.ofText source).text lines

end Fix

end Flowchart
