import Flowchart.Text

/-!
# Surrogates

A character above U+FFFF is written in two 16-bit units, a high surrogate and a
low one.  A surrogate that has lost its partner is no character.  So that a text
with one can still be read, it is kept as a stand-in, a character of the private
area; what holds a stand-in cannot be written out again.
-/

namespace Flowchart

/-- Is the unit the first half of a pair? -/
def isHighSurrogate (unit : Nat) : Bool :=
  0xD800 ≤ unit && unit < 0xDC00

/-- Is the unit the second half of a pair? -/
def isLowSurrogate (unit : Nat) : Bool :=
  0xDC00 ≤ unit && unit < 0xE000

/-- The character of a high surrogate and a low one. -/
def pairedChar (high low : Nat) : Char :=
  Char.ofNat (0x10000 + (high - 0xD800) * 0x400 + (low - 0xDC00))

/-- The first stand-in, that of the first surrogate. -/
def firstStandIn : Nat :=
  0x10E000

/-- The character of a unit by itself, a stand-in if the unit is a surrogate. -/
def singleChar (unit : Nat) : Char :=
  if isHighSurrogate unit || isLowSurrogate unit then
    Char.ofNat (firstStandIn + (unit - 0xD800))
  else Char.ofNat unit

/-- The surrogate for which a character stands in. -/
def surrogate? (c : Char) : Option Nat :=
  if firstStandIn ≤ c.toNat ∧ c.toNat < firstStandIn + 0x800 then
    some (0xD800 + (c.toNat - firstStandIn))
  else none

/-- The characters of 16-bit units. -/
def charsOfUnits : List Nat → Text
  | [] => []
  | [unit] => [singleChar unit]
  | high :: low :: rest =>
    if isHighSurrogate high && isLowSurrogate low then
      pairedChar high low :: charsOfUnits rest
    else singleChar high :: charsOfUnits (low :: rest)

end Flowchart
