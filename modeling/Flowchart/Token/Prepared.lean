import Flowchart.Token.Identifier
import Flowchart.Token.Literal

/-!
# Prepared lines

Before names are looked for, a line loses what can hold no name: its string
literals, the labels inside shapes, and its class tags, in this order.
-/

namespace Flowchart

/-- The line without literals, labels and class tags. -/
def prepareLine (line : Text) : Text :=
  dropClassTags (maskShapes (extractLiterals line).line)

end Flowchart
