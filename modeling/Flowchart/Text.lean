/-!
# Text

A text is the list of its characters, so that every length, offset and column
counts characters and every operation is a function on lists.  This module
holds the operations that know nothing of blanks, lines or words.
-/

namespace Flowchart

/-- A text is the list of its characters. -/
abbrev Text := List Char

/-- The decimal digits of a natural number. -/
def natText (n : Nat) : Text :=
  Nat.toDigits 10 n

/-- The decimal digits of an integer, with a minus sign below zero. -/
def intText : Int → Text
  | .ofNat n => natText n
  | .negSucc n => '-' :: natText (n + 1)

/-- Is `c` one of the characters of ASCII? -/
def isAscii (c : Char) : Bool :=
  c.toNat < 128

/-- The offset of the first place where `part` stands in a text. -/
def indexOf? (part : Text) : Text → Option Nat
  | [] => if part.isEmpty then some 0 else none
  | c :: rest =>
    if part.isPrefixOf (c :: rest) then some 0
    else (indexOf? part rest).map (· + 1)

/-- Does `part` stand somewhere in the text? -/
def contains (part text : Text) : Bool :=
  (indexOf? part text).isSome

/-- The text with the first `part` in it exchanged for `new`; nothing where
`part` does not occur. -/
def replaceFirst? (part new : Text) : Text → Option Text
  | [] => if part.isEmpty then some new else none
  | c :: rest =>
    if part.isPrefixOf (c :: rest) then some (new ++ (c :: rest).drop part.length)
    else (replaceFirst? part new rest).map (c :: ·)

/-- The texts in order, with `separator` between each and the next. -/
def joinWith (separator : Text) (texts : List Text) : Text :=
  List.intercalate separator texts

/-- Does a code point lie in one of the ranges, both ends included? -/
def inRanges (ranges : List (Nat × Nat)) (n : Nat) : Bool :=
  ranges.any fun range => range.1 ≤ n && n ≤ range.2

end Flowchart
