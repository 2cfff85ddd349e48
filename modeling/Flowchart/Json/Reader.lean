import Flowchart.Json
import Flowchart.Text.Surrogate

/-!
# Reading JSON

The reader takes one value with blanks around it and nothing else.  It keeps an
integer apart from a real, keeps all members of an object in order, and takes
the three words for reals without digits.  An escaped pair of surrogates is one
character; half a pair is read as its stand-in.  A reader may have bounds, and
what is wrong first is what it reports.
-/

namespace Flowchart.Json

/-- Is `c` one of the blanks that may stand between tokens? -/
def isGap (c : Char) : Bool :=
  c = ' ' || c = '\t' || c = '\n' || c = '\r'

/-- The text behind its leading gaps. -/
def skipGap (text : Text) : Text :=
  text.dropWhile isGap

/-- The value of a hexadecimal digit. -/
def hexValue? (c : Char) : Option Nat :=
  if '0' ≤ c ∧ c ≤ '9' then some (c.toNat - '0'.toNat)
  else if 'a' ≤ c ∧ c ≤ 'f' then some (c.toNat - 'a'.toNat + 10)
  else if 'A' ≤ c ∧ c ≤ 'F' then some (c.toNat - 'A'.toNat + 10)
  else none

/-- The 16-bit unit of four hexadecimal digits. -/
def readUnit? : Text → Option (Nat × Text)
  | a :: b :: c :: d :: rest => do
    let a ← hexValue? a
    let b ← hexValue? b
    let c ← hexValue? c
    let d ← hexValue? d
    some (((a * 16 + b) * 16 + c) * 16 + d, rest)
  | _ => none

/-- The character behind the `u` of an escape. -/
def readEscaped? (text : Text) : Option (Char × Text) := do
  let (unit, rest) ← readUnit? text
  match isHighSurrogate unit, rest with
  | true, '\\' :: 'u' :: more =>
    let (low, more) ← readUnit? more
    if isLowSurrogate low then some (pairedChar unit low, more)
    else some (singleChar unit, rest)
  | _, _ => some (singleChar unit, rest)

/-- One character of a string, written as itself or as an escape. -/
def readChar? : Text → Option (Char × Text)
  | '\\' :: '"' :: rest => some ('"', rest)
  | '\\' :: '\\' :: rest => some ('\\', rest)
  | '\\' :: '/' :: rest => some ('/', rest)
  | '\\' :: 'b' :: rest => some ('\x08', rest)
  | '\\' :: 'f' :: rest => some ('\x0c', rest)
  | '\\' :: 'n' :: rest => some ('\n', rest)
  | '\\' :: 'r' :: rest => some ('\r', rest)
  | '\\' :: 't' :: rest => some ('\t', rest)
  | '\\' :: 'u' :: rest => readEscaped? rest
  | '\\' :: _ => none
  | c :: rest => if c.toNat < 0x20 then none else some (c, rest)
  | [] => none

/-- The characters up to the closing quote, which is passed over. -/
def readString? : (fuel : Nat) → Text → Option (Text × Text)
  | _, '"' :: rest => some ([], rest)
  | 0, _ => none
  | fuel + 1, text => do
    let (c, rest) ← readChar? text
    let (taken, rest) ← readString? fuel rest
    some (c :: taken, rest)

/-- The number that ASCII digits stand for. -/
def decimalValue (digits : Text) : Nat :=
  digits.foldl (fun n c => 10 * n + (c.toNat - '0'.toNat)) 0

/-- The digits of a whole number: one zero, or digits that begin with no zero. -/
def readWhole? : Text → Option (Text × Text)
  | '0' :: rest => some (['0'], rest)
  | text =>
    let (digits, rest) := text.span Char.isDigit
    if digits.isEmpty then none else some (digits, rest)

/-- A point and the digits behind it, if both are there. -/
def readFraction : Text → Text × Text
  | '.' :: rest =>
    let (digits, after) := rest.span Char.isDigit
    if digits.isEmpty then ([], '.' :: rest) else (digits, after)
  | text => ([], text)

/-- The sign in front of an exponent. -/
def readSign : Text → Bool × Text
  | '-' :: rest => (true, rest)
  | '+' :: rest => (false, rest)
  | text => (false, text)

/-- An exponent, if there is one with digits. -/
def readExponent : Text → Option Int × Text
  | [] => (none, [])
  | e :: rest =>
    if e = 'e' || e = 'E' then
      let (negative, unsigned) := readSign rest
      let (digits, after) := unsigned.span Char.isDigit
      if digits.isEmpty then (none, e :: rest)
      else
        let size : Int := decimalValue digits
        (some (if negative then -size else size), after)
    else (none, e :: rest)

/-- The real of `digits * 10 ^ power`; what is far beyond the greatest real is
infinite, and what is far below the least is zero. -/
def scientific (digits : Text) (power : Int) : Float :=
  let mantissa := decimalValue digits
  let size := (digits.length : Int) + power
  if mantissa = 0 ∨ size < -400 then 0
  else if size - (digits.takeWhile (· = '0')).length > 400 then 1 / 0
  else if power < 0 then Float.ofScientific mantissa true power.natAbs
  else Float.ofScientific mantissa false power.natAbs

/-- What a reader can take. -/
structure Bounds where
  /-- The most arrays and objects inside one another, if there is a bound. -/
  depth : Option Nat := none
  /-- The most digits of an integer, if there is a bound. -/
  digits : Option Nat := none
  deriving DecidableEq, Repr

/-- Why a text is not read. -/
inductive ReadError where
  /-- It is not JSON. -/
  | malformed
  /-- Arrays and objects are too deep inside one another. -/
  | tooDeep
  /-- An integer has too many digits. -/
  | tooManyDigits
  deriving DecidableEq, Repr

/-- What was read, and the text behind it; where nothing is found, the text is not
JSON. -/
def found {α : Type} : Option (α × Text) → Except ReadError (α × Text)
  | some result => .ok result
  | none => .error .malformed

/-- Is a number above a bound? -/
def exceeds (bound : Option Nat) (n : Nat) : Bool :=
  bound.any (· < n)

/-- The bounds of a reader for what stands inside an array or an object. -/
def Bounds.inside (bounds : Bounds) : Except ReadError Bounds :=
  match bounds.depth with
  | none => .ok bounds
  | some 0 => .error .tooDeep
  | some (depth + 1) => .ok { bounds with depth := some depth }

/-- A number without its sign. -/
def readUnsigned (bounds : Bounds) (negative : Bool) (text : Text) :
    Except ReadError (Json × Text) := do
  let (whole, rest) ← found (readWhole? text)
  let (fraction, rest) := readFraction rest
  let (exponent, rest) := readExponent rest
  if fraction.isEmpty && exponent.isNone then
    if exceeds bounds.digits whole.length then .error .tooManyDigits
    else
      let value : Int := decimalValue whole
      .ok (int (if negative then -value else value), rest)
  else
    let value := scientific (whole ++ fraction) (exponent.getD 0 - fraction.length)
    .ok (real (if negative then -value else value), rest)

/-- The text behind a word that stands at its front. -/
def afterWord? (word text : Text) : Option Text :=
  if word.isPrefixOf text then some (text.drop word.length) else none

/-- A number, or a word for a real without digits. -/
def readNumber (bounds : Bounds) : Text → Except ReadError (Json × Text)
  | '-' :: rest =>
    match afterWord? "Infinity".toList rest with
    | some rest => .ok (real (-1 / 0), rest)
    | none => readUnsigned bounds true rest
  | text =>
    match afterWord? "Infinity".toList text, afterWord? "NaN".toList text with
    | some rest, _ => .ok (real (1 / 0), rest)
    | none, some rest => .ok (real (0 / 0), rest)
    | none, none => readUnsigned bounds false text

/-- A value that has no parts: a constant, a string or a number. -/
def readAtom (bounds : Bounds) (fuel : Nat) (text : Text) :
    Except ReadError (Json × Text) :=
  match text with
  | '"' :: rest => do
    let (value, rest) ← found (readString? fuel rest)
    .ok (str value, rest)
  | text =>
    match afterWord? "null".toList text, afterWord? "true".toList text,
        afterWord? "false".toList text with
    | some rest, _, _ => .ok (null, rest)
    | none, some rest, _ => .ok (bool true, rest)
    | none, none, some rest => .ok (bool false, rest)
    | none, none, none => readNumber bounds text

mutual

/-- A value at the front of a text, and the text behind it. -/
def readValue (bounds : Bounds) :
    (fuel : Nat) → Text → Except ReadError (Json × Text)
  | 0, _ => .error .malformed
  | fuel + 1, '[' :: rest => do
    let inner ← bounds.inside
    match skipGap rest with
    | ']' :: rest => .ok (arr [], rest)
    | rest =>
      let (items, rest) ← readItems inner fuel rest
      .ok (arr items, rest)
  | fuel + 1, '\x7b' :: rest => do
    let inner ← bounds.inside
    match skipGap rest with
    | '\x7d' :: rest => .ok (obj [], rest)
    | rest =>
      let (members, rest) ← readMembers inner fuel rest
      .ok (obj members, rest)
  | fuel + 1, text => readAtom bounds fuel text

/-- The items of an array up to its end, at least one. -/
def readItems (bounds : Bounds) :
    (fuel : Nat) → Text → Except ReadError (List Json × Text)
  | 0, _ => .error .malformed
  | fuel + 1, text => do
    let (item, rest) ← readValue bounds fuel text
    match skipGap rest with
    | ']' :: rest => .ok ([item], rest)
    | ',' :: rest =>
      let (items, rest) ← readItems bounds fuel (skipGap rest)
      .ok (item :: items, rest)
    | _ => .error .malformed

/-- The members of an object up to its end, at least one. -/
def readMembers (bounds : Bounds) :
    (fuel : Nat) → Text → Except ReadError (List (Text × Json) × Text)
  | 0, _ => .error .malformed
  | fuel + 1, '"' :: text => do
    let (name, rest) ← found (readString? fuel text)
    match skipGap rest with
    | ':' :: rest =>
      let (value, rest) ← readValue bounds fuel (skipGap rest)
      match skipGap rest with
      | '\x7d' :: rest => .ok ([(name, value)], rest)
      | ',' :: rest =>
        let (members, rest) ← readMembers bounds fuel (skipGap rest)
        .ok ((name, value) :: members, rest)
      | _ => .error .malformed
    | _ => .error .malformed
  | _ + 1, _ => .error .malformed

end

/-- The value that a text consists of, within the bounds.  Each character is worth at
most two steps, so the fuel is never the reason for an error. -/
def read (bounds : Bounds) (text : Text) : Except ReadError Json := do
  let (value, rest) ← readValue bounds (2 * text.length + 1) (skipGap text)
  if (skipGap rest).isEmpty then .ok value else .error .malformed

/-- The value that a text consists of, without bounds. -/
def read? (text : Text) : Option Json :=
  (read {} text).toOption

end Flowchart.Json
