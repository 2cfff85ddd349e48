import Flowchart.Lexeme
import Flowchart.Text.Numeral

/-!
# String literals and their placeholders

A string literal stands between two equal quotes, single or double; a backslash
takes the next character of the line with it.  Extraction exchanges each literal
for its number between two NUL characters, so that nothing inside a literal is
taken for anything else.  A quote that is never closed stays where it is.
-/

namespace Flowchart

/-- The text up to and with the first `quote` that no backslash escapes. -/
def closeLiteral? (quote : Char) : Text → Option Text
  | [] => none
  | '\\' :: c :: rest =>
    if c = '\n' then none else (closeLiteral? quote rest).map ('\\' :: c :: ·)
  | c :: rest =>
    if c = quote then some [c]
    else if c = '\\' then none
    else (closeLiteral? quote rest).map (c :: ·)

/-- A string literal. -/
def literal : Recogniser
  | _, c :: rest =>
    if c = '"' || c = '\'' then (closeLiteral? c rest).map (c :: ·) else none
  | _, [] => none

/-- The mark on either side of a number. -/
def placeholderMark : Char :=
  '\x00'

/-- The placeholder with that number. -/
def placeholderText (number : Nat) : Text :=
  placeholderMark :: natText number ++ [placeholderMark]

/-- A placeholder, with decimal digits of any script. -/
def placeholder : Recogniser
  | _, c :: rest =>
    if c = placeholderMark then
      let (digits, behind) := rest.span isDigit
      if digits ≠ [] ∧ behind.head? = some placeholderMark then
        some (placeholderMark :: digits ++ [placeholderMark])
      else none
    else none
  | _, [] => none

/-- The digits of a placeholder. -/
def placeholderDigits (text : Text) : Text :=
  (text.drop 1).dropLast

/-- A line without its literals, and the literals. -/
structure Extracted where
  /-- The line with a placeholder in place of each literal. -/
  line : Text
  /-- The literals in order, with their quotes. -/
  literals : List Text
  deriving DecidableEq, Repr

/-- The pieces as one text, with the lexemes numbered from `number` on. -/
def numberLexemes : Nat → List Piece → Text
  | _, [] => []
  | number, .plain c :: rest => c :: numberLexemes number rest
  | number, .lexeme _ _ :: rest =>
    placeholderText number ++ numberLexemes (number + 1) rest

/-- Exchange the literals of a line for placeholders, numbered from zero. -/
def extractLiterals (line : Text) : Extracted :=
  ⟨numberLexemes 0 (pieces literal line), (occurrences literal line).map (·.text)⟩

/-- Why the placeholders of a line are not exchanged. -/
inductive RestoreError where
  /-- No literal has the number. -/
  | noLiteral
  /-- The number is too great to be the place of anything. -/
  | noPlace
  /-- The number has so many digits that it is not read. -/
  | tooManyDigits (count : Nat)
  deriving DecidableEq, Repr

/-- What is said of the error. -/
def RestoreError.message : RestoreError → Text
  | noLiteral => "list index out of range".toList
  | noPlace => "cannot fit 'int' into an index-sized integer".toList
  | tooManyDigits count =>
    "Exceeds the limit (".toList ++ natText mostDigits
      ++ " digits) for integer string conversion: value has ".toList ++ natText count
      ++ " digits; use sys.set_int_max_str_digits() to increase the limit".toList

/-- The literal with the number that digits stand for.  More digits are read than a
numeral has otherwise, where there are so many literals. -/
def literalAt (literals : List Text) (digits : Text) : Except RestoreError Text :=
  if max mostDigits (natText literals.length).length < digits.length then
    .error (.tooManyDigits digits.length)
  else
    let number := digitsValue digits
    match literals[number]? with
    | some text => .ok text
    | none => .error (if number < Nat.pow 2 63 then .noLiteral else .noPlace)

/-- One piece with its placeholder exchanged for the literal of that number. -/
def restorePiece (literals : List Text) : Piece → Except RestoreError Text
  | .plain c => .ok [c]
  | .lexeme text _ => literalAt literals (placeholderDigits text)

/-- Exchange the placeholders of a line for the literals; the first that cannot be
exchanged is the error. -/
def restoreLiterals (literals : List Text) (line : Text) : Except RestoreError Text :=
  ((pieces placeholder line).mapM (restorePiece literals)).map List.flatten

end Flowchart
