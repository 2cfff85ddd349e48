import Flowchart.Text.Blank
import Flowchart.Text.LowerCase

/-!
# Code fences

A fenced text begins with three backticks, perhaps the name of the language, and
the end of that line; it ends with a line of two or three backticks.  Blanks may
stand around both.  What is between them is the body, with its own blanks, where
the opening reaches as far as it can.
-/

namespace Flowchart

/-- The mark of which a fence is made. -/
def backtick : Char :=
  '\x60'

/-- Is the text what is left of a closing line behind its line feed? -/
def isFenceEnd : Text → Bool
  | first :: second :: rest =>
    first = backtick && second = backtick
      && (if rest.head? == some backtick then rest.drop 1 else rest).all isBlank
  | _ => false

/-- The characters before the closing line; nothing where there is none. -/
def closedBody? : Text → Option Text
  | [] => none
  | c :: rest =>
    if c = '\n' && isFenceEnd rest then some [] else (closedBody? rest).map (c :: ·)

/-- The texts behind the line feeds among the leading blanks, in front of
`found`, the last of them first. -/
def lineStartsOnto (found : List Text) : Text → List Text
  | [] => found
  | c :: rest =>
    if isBlank c then lineStartsOnto (if c = '\n' then rest :: found else found) rest
    else found

/-- The texts that may be left of a fenced text behind its opening line, the
language and the longest gap first. -/
def fenceBodies (text : Text) : List Text :=
  let marks := [backtick, backtick, backtick]
  let text := trimStart text
  if marks.isPrefixOf text then
    let rest := text.drop 3
    let named :=
      match splitFolded? "mermaid".toList (trimStart rest) with
      | some (_, behind) => lineStartsOnto [] behind
      | none => []
    named ++ lineStartsOnto [] rest
  else []

/-- The body of a fenced text; any other text as it is. -/
def stripFences (text : Text) : Text :=
  ((fenceBodies text).findSome? closedBody?).getD text

end Flowchart
