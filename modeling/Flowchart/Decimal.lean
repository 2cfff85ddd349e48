import Flowchart.Text

/-!
# Decimal text of binary reals

A finite real is a whole number times a power of two.  It is written with the
fewest decimal digits that still lie nearer to it than to every other real of
its format, positionally while its leading digit stands between the fourth
place behind the point and the sixteenth before it, else with an exponent of at
least two digits.  All arithmetic is exact, on natural numbers.
-/

namespace Flowchart

/-- The size of a finite real: `mantissa * 2 ^ exponent`. -/
structure Binary where
  /-- The whole number. -/
  mantissa : Nat
  /-- The power of two. -/
  exponent : Int
  /-- Is the gap to the next smaller real half of the gap to the next greater? -/
  narrowBelow : Bool
  deriving DecidableEq, Repr

namespace Binary

/-- The size of a finite real. -/
def ofFloat (x : Float) : Binary :=
  let bits := x.toBits.toNat
  let scale : Nat := bits / Nat.pow 2 52 % Nat.pow 2 11
  let fraction : Nat := bits % Nat.pow 2 52
  if scale = 0 then ⟨fraction, -1074, false⟩
  else ⟨Nat.pow 2 52 + fraction, (scale : Int) - 1075, fraction = 0 && scale > 1⟩

/-- The value in quarters of the last place, as a fraction of natural numbers
whose numerator is a multiple of `quarters`. -/
def fraction (x : Binary) (quarters : Nat) : Nat × Nat :=
  (quarters * Nat.pow 2 (x.exponent - 2).toNat, Nat.pow 2 (2 - x.exponent).toNat)

/-- The value as a fraction. -/
def value (x : Binary) : Nat × Nat :=
  x.fraction (4 * x.mantissa)

/-- The number of digits before the point; at most zero for a value below one
tenth, where the leading zeros behind the point are counted off. -/
def places (x : Binary) : Int :=
  let (num, den) := x.value
  if den ≤ num then (natText (num / den)).length
  else 1 - ((natText ((den - 1) / num)).length : Int)

/-- Is `digits * 10 ^ power` nearer to the value than to every other real? A
point half-way to a neighbour belongs to the value with the even mantissa. -/
def nearest (x : Binary) (digits : Nat) (power : Int) : Bool :=
  let (low, den) := x.fraction (4 * x.mantissa - if x.narrowBelow then 1 else 2)
  let (high, _) := x.fraction (4 * x.mantissa + 2)
  let here := digits * Nat.pow 10 power.toNat * den
  let tenths := Nat.pow 10 (-power).toNat
  if x.mantissa % 2 = 0 then low * tenths ≤ here && here ≤ high * tenths
  else low * tenths < here && here < high * tenths

/-- The better of the two numbers of `count` digits around the value, where one
of them is nearest to it: the digits and their power of ten. -/
def rounded? (x : Binary) (count : Nat) : Option (Nat × Int) :=
  let power := x.places - count
  let (num, den) := x.value
  let num := num * Nat.pow 10 (-power).toNat
  let den := den * Nat.pow 10 power.toNat
  let below := num / den
  match x.nearest below power, x.nearest (below + 1) power with
  | true, true =>
    let digits :=
      if 2 * num < (2 * below + 1) * den then below
      else if 2 * num = (2 * below + 1) * den ∧ below % 2 = 0 then below
      else below + 1
    some (digits, power)
  | true, false => some (below, power)
  | false, true => some (below + 1, power)
  | false, false => none

/-- The fewest digits that identify the value, without zeros at the end, and the
number of them that stand before the point. -/
def shortest (x : Binary) : Text × Int :=
  match (List.range' 1 17).findSome? x.rounded? with
  | none => (['0'], 1)
  | some (digits, power) =>
    let text := natText digits
    ((text.reverse.dropWhile (· = '0')).reverse, power + text.length)

/-- The text of a positive value. -/
def text (x : Binary) : Text :=
  let (digits, point) := x.shortest
  let zeros (n : Int) : Text := List.replicate n.toNat '0'
  if -4 < point ∧ point ≤ 16 then
    if point ≤ 0 then '0' :: '.' :: zeros (-point) ++ digits
    else if digits.length ≤ point then
      digits ++ zeros (point - digits.length) ++ ['.', '0']
    else digits.take point.toNat ++ '.' :: digits.drop point.toNat
  else
    let power := point - 1
    let exponent := natText power.natAbs
    let fraction := if digits.length ≤ 1 then [] else '.' :: digits.drop 1
    digits.take 1 ++ fraction ++ ['e', if power < 0 then '-' else '+']
      ++ (if exponent.length < 2 then '0' :: exponent else exponent)

end Binary

/-- The text of a real, with the given words for those that have no digits. -/
def realText (notANumber infinity : Text) (x : Float) : Text :=
  if x.isNaN then notANumber
  else
    let sign : Text := if x.toBits.toNat / Nat.pow 2 63 = 1 then ['-'] else []
    if x.isInf then sign ++ infinity
    else
      let size := Binary.ofFloat x
      if size.mantissa = 0 then sign ++ "0.0".toList else sign ++ size.text

/-- The integer that a real is equal to. -/
def wholeValue? (x : Float) : Option Int :=
  if x.isNaN || x.isInf then none
  else
    let (num, den) := (Binary.ofFloat x).value
    if num % den ≠ 0 then none
    else if x.toBits.toNat / Nat.pow 2 63 = 1 then some (-(num / den : Nat))
    else some (num / den : Nat)

end Flowchart
