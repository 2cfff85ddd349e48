import Flowchart.Text.Blank
import Flowchart.Text.Word

/-!
# Numerals

An integer is written as a sign and decimal digits, with single underscores
between the digits where they are grouped.  A numeral of an argument has digits
of any script.  A numeral of data has digits of ASCII and may have a point and
zeros behind them; it is tidied before it is read, and as the zeros in front are
taken off first, a sign may come to light behind them.  A numeral with too many
digits is refused, because reading one takes time that grows faster than its
length.
-/

namespace Flowchart

/-- The most digits of a numeral. -/
def mostDigits : Nat :=
  4300

/-- The blanks around a numeral: all but the information separators. -/
def isNumberBlank (c : Char) : Bool :=
  isBlank c && !(0x1C ≤ c.toNat && c.toNat ≤ 0x1F)

/-- A text without the blanks around a numeral. -/
def trimNumber (text : Text) : Text :=
  ((text.dropWhile isNumberBlank).reverse.dropWhile isNumberBlank).reverse

/-- A sign, if there is one, and the text behind it. -/
def splitSign : Text → Bool × Text
  | '-' :: rest => (true, rest)
  | '+' :: rest => (false, rest)
  | text => (false, text)

/-- Are the underscores of a text single ones inside it? -/
def hasInnerUnderscores (text : Text) : Bool :=
  text.head? != some '_' && text.getLast? != some '_' && !contains ['_', '_'] text

/-- The digits of a number with single underscores between them, if it is that. -/
def groupedDigits? : Text → Option Text
  | [] => none
  | [c] => if isDigit c then some [c] else none
  | c :: '_' :: rest => if isDigit c then (groupedDigits? rest).map (c :: ·) else none
  | c :: rest => if isDigit c then (groupedDigits? rest).map (c :: ·) else none

/-- The integer of a sign and a number. -/
def signed (negative : Bool) (size : Nat) : Int :=
  if negative then -size else size

/-- The integer of an argument. -/
def argumentInteger? (text : Text) : Option Int := do
  let (negative, unsigned) := splitSign (trimNumber text)
  let digits ← groupedDigits? unsigned
  if digits.length ≤ mostDigits then some (signed negative (digitsValue digits)) else none

/-- What a text is as a numeral of data. -/
inductive Numeral where
  /-- It stands for this integer. -/
  | integer (value : Int)
  /-- It begins with too many digits. -/
  | tooLong
  /-- It is none. -/
  | malformed
  deriving DecidableEq, Repr

namespace Numeral

/-- Read a minus sign, or none, and digits that begin with no needless zero.  Where the
digits are too many, what stands behind them is not looked at. -/
def plain (text : Text) : Numeral :=
  let negative := text.head? = some '-'
  let digits := if negative then text.drop 1 else text
  let leading := digits.takeWhile Char.isDigit
  if leading.head? = some '0' then
    if digits = ['0'] then integer 0 else malformed
  else if leading.length > mostDigits then tooLong
  else if leading.isEmpty || leading != digits then malformed
  else integer (signed negative (digitsValue digits))

/-- The text without the zeros in front of it and the underscores among them.  Of
these the last stays where a point or nothing follows. -/
def withoutZeros? : Text → Option Text
  | [] => none
  | c :: rest =>
    if c = '0' then
      let (zeros, behind) := rest.span fun d => d = '0' || d = '_'
      match behind with
      | [] => some [zeros.getLastD c]
      | d :: _ =>
        if d = '.' then some (zeros.getLastD c :: behind)
        else if d = '-' || d.isDigit then some behind
        else none
    else if c.isDigit then some (c :: rest)
    else none

/-- The text without a point and zeros, at least one, at its end. -/
def withoutFraction (text : Text) : Text :=
  let (whole, fraction) := text.span (· ≠ '.')
  if fraction.length > 1 && (fraction.drop 1).all (· = '0') then whole else text

/-- An unsigned text without needless zeros, a fraction of zeros, and the
underscores that group its digits. -/
def tidiedDigits? (text : Text) : Option Text := do
  let digits := withoutFraction (← withoutZeros? text)
  if hasInnerUnderscores digits then some (digits.filter (· ≠ '_')) else none

/-- The text in its plain form, which has no plus sign and no blanks either. -/
def tidied? (text : Text) : Option Text :=
  match trimNumber text with
  | '+' :: rest => tidiedDigits? rest
  | '-' :: rest => (tidiedDigits? rest).map ('-' :: ·)
  | rest => tidiedDigits? rest

/-- Read a text as it is, or else in its plain form. -/
def ofText (text : Text) : Numeral :=
  match plain text with
  | malformed => ((tidied? text).map plain).getD malformed
  | found => found

end Numeral

end Flowchart
