import Flowchart.Text

/-!
# UTF-8

Encoding writes a character in one to four bytes.  Decoding accepts every byte
string: each longest start of a character that its bytes do not finish becomes
one replacement character, and the byte that broke it is read anew.  The decoder
is a machine on single bytes whose state is what the open character still owes.
-/

namespace Flowchart.Utf8

/-- The character that stands for bytes which form none. -/
def replacement : Char :=
  '\uFFFD'

/-- The bytes of a text. -/
def encode (text : Text) : List UInt8 :=
  text.flatMap String.utf8EncodeChar

/-- Where the decoder stands between two bytes. -/
inductive State where
  /-- Between characters. -/
  | idle
  /-- Inside a character: `owed + 1` bytes are to come, the next of them at
  least `least` and at most `most`, and the bits so far make `value`. -/
  | within (owed : Nat) (least most : Nat) (value : Nat)
  deriving DecidableEq, Repr

/-- What the end of the bytes, or a byte that does not fit, makes of an open
character. -/
def State.finish : State → Text
  | idle => []
  | within .. => [replacement]

/-- The first byte of a character. -/
def start (byte : Nat) : Text × State :=
  if byte < 0x80 then ([Char.ofNat byte], .idle)
  else if 0xC2 ≤ byte ∧ byte ≤ 0xDF then ([], .within 0 0x80 0xBF (byte - 0xC0))
  else if byte = 0xE0 then ([], .within 1 0xA0 0xBF 0)
  else if byte = 0xED then ([], .within 1 0x80 0x9F 0xD)
  else if 0xE1 ≤ byte ∧ byte ≤ 0xEF then ([], .within 1 0x80 0xBF (byte - 0xE0))
  else if byte = 0xF0 then ([], .within 2 0x90 0xBF 0)
  else if 0xF1 ≤ byte ∧ byte ≤ 0xF3 then ([], .within 2 0x80 0xBF (byte - 0xF0))
  else if byte = 0xF4 then ([], .within 2 0x80 0x8F 4)
  else ([replacement], .idle)

/-- One byte: the characters that it completes, and the state behind it. -/
def step : State → Nat → Text × State
  | .idle, byte => start byte
  | .within owed least most value, byte =>
    if least ≤ byte ∧ byte ≤ most then
      let value := 64 * value + byte % 64
      match owed with
      | 0 => ([Char.ofNat value], .idle)
      | owed + 1 => ([], .within owed 0x80 0xBF value)
    else
      let (characters, state) := start byte
      (replacement :: characters, state)

/-- The characters of the bytes, read from a state. -/
def decodeFrom (state : State) : List UInt8 → Text
  | [] => state.finish
  | byte :: bytes =>
    let (characters, state) := step state byte.toNat
    characters ++ decodeFrom state bytes

/-- The characters of a byte string. -/
def decode (bytes : List UInt8) : Text :=
  decodeFrom .idle bytes

end Flowchart.Utf8
