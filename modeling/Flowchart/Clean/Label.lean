import Flowchart.Clean.Fence
import Flowchart.Lexeme

/-!
# Labels for rendering

The renderer takes no parentheses inside a label in square brackets.  Cleaning
removes each pair that has no parenthesis inside, from each label that has no
square bracket inside, and keeps all other characters.
-/

namespace Flowchart

/-- A group in brackets that holds neither of the two brackets. -/
def innermost (opener closer : Char) : Recogniser
  | _, c :: rest =>
    if c = opener then
      let (inside, behind) := rest.span fun d => d ≠ opener && d ≠ closer
      if behind.head? = some closer then some (c :: inside ++ [closer]) else none
    else none
  | _, [] => none

/-- A group without its brackets. -/
def insideOf (group : Text) : Text :=
  (group.drop 1).dropLast

/-- The text without the parentheses of its innermost groups. -/
def dropParentheses (text : Text) : Text :=
  replaceEach (innermost '(' ')') insideOf text

/-- The text with the innermost parentheses removed from its innermost labels. -/
def cleanLabels (text : Text) : Text :=
  replaceEach (innermost '[' ']')
    (fun label => '[' :: dropParentheses (insideOf label) ++ [']']) text

/-- The text as it is handed to the renderer: trimmed, out of its fence, and with
clean labels. -/
def sanitize (text : Text) : Text :=
  cleanLabels (stripFences (trim text))

end Flowchart
