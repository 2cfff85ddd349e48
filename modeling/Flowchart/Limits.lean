/-!
# Limits

The numbers that an analysis depends on.  They may be set to any integer, also
below zero.
-/

namespace Flowchart

/-- The limits of an analysis. -/
structure Limits where
  /-- The shortest reference that may be a misspelt one. -/
  typoMinLength : Int := 2
  /-- The greatest edit distance of a misspelt reference from its node. -/
  typoMaxDistance : Int := 2
  /-- The greatest difference of the two lengths. -/
  typoMaxLengthDelta : Int := 2
  /-- The length above which a line is not looked at. -/
  maxLineLength : Int := 10000
  deriving DecidableEq, Repr

end Flowchart
