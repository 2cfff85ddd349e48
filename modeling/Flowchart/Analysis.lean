import Flowchart.Check.Balance
import Flowchart.Check.Direction
import Flowchart.Check.Typo
import Flowchart.Text.Lines
import Flowchart.Text.Utf8

/-!
# Analysis

The checks run on the lines of a text in a fixed order, and none sees what
another found.  Their issues are not reordered.
-/

namespace Flowchart

/-- The issues of a document. -/
def analyzeLines (limits : Limits) (lines : List Text) : List Issue :=
  checkDirection limits lines ++ checkBalance limits lines
    ++ checkTypos limits lines (extractNames limits lines)

/-- The issues of a text; a blank text has none. -/
def analyze (limits : Limits) (source : Text) : List Issue :=
  if source.all isBlank then [] else analyzeLines limits (splitLines source)

/-- The issues of the text that some bytes are read as. -/
def analyzeBytes (limits : Limits) (bytes : List UInt8) : List Issue :=
  analyze limits (Utf8.decode bytes)

end Flowchart
