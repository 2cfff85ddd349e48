import Flowchart.Text

/-!
# Fixes

A fix is one change to a document: a replacement inside a line, a closing line
at the end, or a line that defines a node.
-/

namespace Flowchart

/-- The kinds of fixes. -/
inductive FixKind where
  /-- Replace a part of a line. -/
  | replace
  /-- Append the line that closes a block. -/
  | appendEnd
  /-- Insert a line that defines a node. -/
  | defineNode
  deriving DecidableEq, Repr

namespace FixKind

/-- The kinds, in the order in which they are counted. -/
def all : List FixKind :=
  [replace, appendEnd, defineNode]

/-- The name of a kind. -/
def name : FixKind → Text
  | replace => "replace".toList
  | appendEnd => "append_end".toList
  | defineNode => "define_node".toList

/-- The kind of that name. -/
def ofName? (text : Text) : Option FixKind :=
  all.find? fun kind => kind.name = text

end FixKind

/-- Replace a part of a line.  Lines are numbered from one, and a number may lie
outside the document. -/
structure Replacement where
  /-- The line. -/
  line : Int
  /-- The part, of which the first on the line is meant. -/
  oldText : Text
  /-- What to put in its place. -/
  newText : Text
  deriving DecidableEq, Repr

/-- Append the line that closes a block. -/
structure Ending where
  /-- The last line of the document for which the fix was made. -/
  afterLine : Int
  deriving DecidableEq, Repr

/-- Insert a line that defines a node. -/
structure Definition where
  /-- The name of the node. -/
  nodeId : Text
  /-- The line before which to insert. -/
  insertBeforeLine : Int
  deriving DecidableEq, Repr

/-- A change to a document. -/
inductive Fix where
  /-- Replace a part of a line. -/
  | replace (change : Replacement)
  /-- Append the line that closes a block. -/
  | appendEnd (ending : Ending)
  /-- Insert a line that defines a node. -/
  | defineNode (definition : Definition)
  deriving DecidableEq, Repr

/-- The kind of a fix. -/
def Fix.kind : Fix → FixKind
  | replace _ => .replace
  | appendEnd _ => .appendEnd
  | defineNode _ => .defineNode

end Flowchart
