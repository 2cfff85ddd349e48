import Flowchart.Document
import Flowchart.Issue

/-!
# The direction of a header

A header names one of the five directions, in either case.  For any other word
the issue stands at the word, and its fix replaces the header from the keyword to
the word, so that nothing else on the line can be taken for it.
-/

namespace Flowchart

/-- The fix that gives a header a direction. -/
def Header.redirect (header : Header) (line : Int) (direction : Direction) : Fix :=
  .replace ⟨line, header.span, header.keyword ++ header.gap ++ direction.name⟩

/-- What to tell the author of a header. -/
def Header.complaint (header : Header) : Text :=
  "Unknown direction '".toList ++ header.direction ++ "' for '".toList ++ header.keyword
    ++ "'; expected one of ".toList ++ Direction.choices

/-- The issue of a header on that line, unless it names a direction. -/
def Header.issue? (header : Header) (line : Nat) : Option Issue :=
  if (Direction.ofName? header.direction).isSome then none
  else some {
    kind := .unknownDirection
    line := line
    column := header.directionStart + 1
    message := header.complaint
    suggestion := some Direction.choices
    fix := some (header.redirect line .topDown) }

/-- The issues of the headers of a document. -/
def checkDirection (limits : Limits) (lines : List Text) : List Issue :=
  (inspectedLines limits lines).filterMap fun line =>
    (Header.ofLine? line.text).bind fun header => header.issue? line.number

end Flowchart
