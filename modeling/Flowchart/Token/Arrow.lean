import Flowchart.Lexeme
import Flowchart.Text.Blank

/-!
# Arrows

An arrow is drawn with hyphens, with dots between two hyphens, or with equals
signs, with or without a head at its end and with an optional head at its start.
A label between two bars, behind any blanks, belongs to the arrow.
-/

namespace Flowchart

/-- The longest front part of equal characters, with the head behind it; without
a head the line must be three characters long, with one two are enough. -/
def solidLine? (stroke : Char) (text : Text) : Option Text :=
  let (line, rest) := text.span (· = stroke)
  if 2 ≤ line.length && rest.head? == some '>' then some (line ++ ['>'])
  else if 3 ≤ line.length then some line
  else none

/-- A dotted line: dots between two hyphens, and perhaps a head. -/
def dottedLine? : Text → Option Text
  | '-' :: '.' :: rest =>
    let (dots, rest) := rest.span (· = '.')
    match rest with
    | '-' :: '>' :: _ => some ('-' :: '.' :: dots ++ ['-', '>'])
    | '-' :: _ => some ('-' :: '.' :: dots ++ ['-'])
    | _ => none
  | _ => none

/-- The line of an arrow at the front of a text, without a head at its start. -/
def arrowLine? (text : Text) : Option Text :=
  solidLine? '-' text <|> dottedLine? text <|> solidLine? '=' text

/-- The blanks, bars and label at the front of a text; empty where no label is
closed. -/
def edgeLabel (text : Text) : Text :=
  match trimStart text with
  | '|' :: rest =>
    let (label, behind) := rest.span (· ≠ '|')
    if behind.isEmpty then [] else indentOf text ++ '|' :: label ++ ['|']
  | _ => []

/-- An arrow from its line on, with its label. -/
def unheadedArrow? (text : Text) : Option Text :=
  (arrowLine? text).map fun line => line ++ edgeLabel (text.drop line.length)

/-- An arrow. -/
def arrow : Recogniser
  | _, '<' :: rest => (unheadedArrow? rest).map ('<' :: ·)
  | _, text => unheadedArrow? text

end Flowchart
