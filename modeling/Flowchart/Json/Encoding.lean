import Flowchart.Text.Surrogate
import Flowchart.Text.Utf8

/-!
# Encodings of JSON text

JSON text comes in units of one, two or four bytes.  It begins with characters of
ASCII, so that the zeros among its first four bytes tell which units it has.
-/

namespace Flowchart.Json

/-- The order of the bytes of a unit. -/
inductive ByteOrder where
  /-- The least byte comes first. -/
  | little
  /-- The greatest byte comes first. -/
  | big
  deriving DecidableEq, Repr

/-- The unit of some bytes in that order. -/
def ByteOrder.unit : ByteOrder → List UInt8 → Nat
  | big, bytes => bytes.foldl (fun n byte => 256 * n + byte.toNat) 0
  | little, bytes => bytes.foldr (fun byte n => 256 * n + byte.toNat) 0

/-- An encoding of text. -/
inductive Encoding where
  /-- One byte for a unit. -/
  | utf8
  /-- Two bytes for a unit. -/
  | utf16 (order : ByteOrder)
  /-- Four bytes for a unit. -/
  | utf32 (order : ByteOrder)
  deriving DecidableEq, Repr

/-- The units of two bytes, if the bytes are even in number. -/
def pairsOf? (order : ByteOrder) : List UInt8 → Option (List Nat)
  | [] => some []
  | a :: b :: rest => (pairsOf? order rest).map (order.unit [a, b] :: ·)
  | _ => none

/-- The units of four bytes, if that divides the number of bytes. -/
def quadsOf? (order : ByteOrder) : List UInt8 → Option (List Nat)
  | [] => some []
  | a :: b :: c :: d :: rest => (quadsOf? order rest).map (order.unit [a, b, c, d] :: ·)
  | _ => none

/-- The text without a byte order mark at its front. -/
def dropByteOrderMark : Text → Text
  | c :: rest => if c = '\uFEFF' then rest else c :: rest
  | [] => []

namespace Encoding

/-- The encoding that the first bytes show. -/
def ofBytes : List UInt8 → Encoding
  | [a, b] => if a = 0 then utf16 .big else if b = 0 then utf16 .little else utf8
  | a :: b :: c :: d :: _ =>
    if a = 0 then (if b = 0 then utf32 .big else utf16 .big)
    else if b = 0 then (if c = 0 ∧ d = 0 then utf32 .little else utf16 .little)
    else utf8
  | _ => utf8

/-- The text of the bytes; nothing where they are no text.  Only UTF-8 may begin
with a byte order mark. -/
def decode? (bytes : List UInt8) : Encoding → Option Text
  | utf8 =>
    let text := Utf8.decode bytes
    if Utf8.encode text = bytes then some (dropByteOrderMark text) else none
  | utf16 order => (pairsOf? order bytes).map charsOfUnits
  | utf32 order => do
    let units ← quadsOf? order bytes
    if units.all (· < 0x110000) then some (units.map singleChar) else none

end Encoding

/-- The text of bytes that should be JSON. -/
def textOf? (bytes : List UInt8) : Option Text :=
  (Encoding.ofBytes bytes).decode? bytes

end Flowchart.Json
