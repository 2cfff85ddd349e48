import Flowchart.Text

/-!
# Finding lexemes in a text

A recogniser says which lexeme, if any, starts at one place of a text.  Asked
from left to right, and not again inside a lexeme that it has found, it cuts the
text into pieces: lexemes and the plain characters between them.  Everything
that is done with the lexemes of a text is an operation on these pieces.
-/

namespace Flowchart

/-- A recogniser sees the character before a place, if there is one, and the
text from that place on.  It answers a nonempty front part of that text, the
lexeme that starts there, or nothing. -/
abbrev Recogniser := Option Char → Text → Option Text

/-- A piece of a text. -/
inductive Piece where
  /-- A character outside all lexemes. -/
  | plain (c : Char)
  /-- A lexeme, with the text behind it. -/
  | lexeme (text rest : Text)
  deriving DecidableEq, Repr

/-- The characters of a piece. -/
def Piece.text : Piece → Text
  | plain c => [c]
  | lexeme text _ => text

/-- The pieces of a text whose first `skip` characters belong to a lexeme that
was found already. -/
def piecesFrom (recognise : Recogniser) : Option Char → (skip : Nat) → Text → List Piece
  | _, _, [] => []
  | _, skip + 1, c :: rest => piecesFrom recognise (some c) skip rest
  | before, 0, c :: rest =>
    match recognise before (c :: rest) with
    | some (first :: more) =>
      .lexeme (first :: more) (rest.drop more.length)
        :: piecesFrom recognise (some c) more.length rest
    | _ => .plain c :: piecesFrom recognise (some c) 0 rest

/-- The pieces of a text. -/
def pieces (recognise : Recogniser) (text : Text) : List Piece :=
  piecesFrom recognise none 0 text

/-- A lexeme where it stands. -/
structure Occurrence where
  /-- The number of characters in front of it. -/
  start : Nat
  /-- The lexeme. -/
  text : Text
  /-- The text behind it. -/
  rest : Text
  deriving DecidableEq, Repr

/-- The lexemes among pieces that begin at an offset. -/
def occurrencesFrom : Nat → List Piece → List Occurrence
  | _, [] => []
  | start, .plain _ :: rest => occurrencesFrom (start + 1) rest
  | start, .lexeme text behind :: rest =>
    ⟨start, text, behind⟩ :: occurrencesFrom (start + text.length) rest

/-- The lexemes of a text, from left to right. -/
def occurrences (recognise : Recogniser) (text : Text) : List Occurrence :=
  occurrencesFrom 0 (pieces recognise text)

/-- The text with every lexeme exchanged for what `change` makes of it. -/
def replaceEach (recognise : Recogniser) (change : Text → Text) (text : Text) : Text :=
  (pieces recognise text).flatMap fun
    | .plain c => [c]
    | .lexeme lexeme _ => change lexeme

end Flowchart
