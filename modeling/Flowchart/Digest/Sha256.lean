import Flowchart.Text.Quoted
import Flowchart.Text.Utf8

/-!
# The SHA-256 digest

The message is padded to whole blocks of sixty-four bytes.  Each block is read
as sixteen words, which are expanded to sixty-four, one for each round; a round
moves the eight registers on by one place.
-/

namespace Flowchart.Sha256

/-- The word that each round adds. -/
def roundWords : List UInt32 :=
  [0x428a2f98, 0x71374491, 0xb5c0fbcf, 0xe9b5dba5, 0x3956c25b, 0x59f111f1,
   0x923f82a4, 0xab1c5ed5, 0xd807aa98, 0x12835b01, 0x243185be, 0x550c7dc3,
   0x72be5d74, 0x80deb1fe, 0x9bdc06a7, 0xc19bf174, 0xe49b69c1, 0xefbe4786,
   0x0fc19dc6, 0x240ca1cc, 0x2de92c6f, 0x4a7484aa, 0x5cb0a9dc, 0x76f988da,
   0x983e5152, 0xa831c66d, 0xb00327c8, 0xbf597fc7, 0xc6e00bf3, 0xd5a79147,
   0x06ca6351, 0x14292967, 0x27b70a85, 0x2e1b2138, 0x4d2c6dfc, 0x53380d13,
   0x650a7354, 0x766a0abb, 0x81c2c92e, 0x92722c85, 0xa2bfe8a1, 0xa81a664b,
   0xc24b8b70, 0xc76c51a3, 0xd192e819, 0xd6990624, 0xf40e3585, 0x106aa070,
   0x19a4c116, 0x1e376c08, 0x2748774c, 0x34b0bcb5, 0x391c0cb3, 0x4ed8aa4a,
   0x5b9cca4f, 0x682e6ff3, 0x748f82ee, 0x78a5636f, 0x84c87814, 0x8cc70208,
   0x90befffa, 0xa4506ceb, 0xbef9a3f7, 0xc67178f2]

/-- The eight words that are carried from block to block. -/
structure Registers where
  /-- The first register. -/
  a : UInt32
  /-- The second register. -/
  b : UInt32
  /-- The third register. -/
  c : UInt32
  /-- The fourth register. -/
  d : UInt32
  /-- The fifth register. -/
  e : UInt32
  /-- The sixth register. -/
  f : UInt32
  /-- The seventh register. -/
  g : UInt32
  /-- The eighth register. -/
  h : UInt32

namespace Registers

/-- The registers before the first block. -/
def initial : Registers :=
  ⟨0x6a09e667, 0xbb67ae85, 0x3c6ef372, 0xa54ff53a,
   0x510e527f, 0x9b05688c, 0x1f83d9ab, 0x5be0cd19⟩

/-- The sums of two sets of registers, word by word. -/
def add (r s : Registers) : Registers :=
  ⟨r.a + s.a, r.b + s.b, r.c + s.c, r.d + s.d, r.e + s.e, r.f + s.f, r.g + s.g, r.h + s.h⟩

/-- The registers as a list. -/
def toList (r : Registers) : List UInt32 :=
  [r.a, r.b, r.c, r.d, r.e, r.f, r.g, r.h]

end Registers

/-- Rotate a word to the right by `n` bits, for `n` between 1 and 31. -/
def rotate (n word : UInt32) : UInt32 :=
  (word >>> n) ||| (word <<< (32 - n))

/-- One round with the sum of its round word and its message word. -/
def round (r : Registers) (word : UInt32) : Registers :=
  let upper := rotate 6 r.e ^^^ rotate 11 r.e ^^^ rotate 25 r.e
  let choice := (r.e &&& r.f) ^^^ (~~~r.e &&& r.g)
  let carried := r.h + upper + choice + word
  let lower := rotate 2 r.a ^^^ rotate 13 r.a ^^^ rotate 22 r.a
  let majority := (r.a &&& r.b) ^^^ (r.a &&& r.c) ^^^ (r.b &&& r.c)
  ⟨carried + lower + majority, r.a, r.b, r.c, r.d + carried, r.e, r.f, r.g⟩

/-- The message word that follows the words so far. -/
def nextWord (words : Array UInt32) : UInt32 :=
  let back (n : Nat) := words.getD (words.size - n) 0
  let near := back 2
  let far := back 15
  back 16 + (rotate 7 far ^^^ rotate 18 far ^^^ (far >>> 3))
    + back 7 + (rotate 17 near ^^^ rotate 19 near ^^^ (near >>> 10))

/-- The words with `n` more of them. -/
def expand (words : Array UInt32) : Nat → Array UInt32
  | 0 => words
  | n + 1 => expand (words.push (nextWord words)) n

/-- The registers behind a block of sixteen words. -/
def absorb (r : Registers) (block : Array UInt32) : Registers :=
  let words := (expand block 48).toList
  r.add ((List.zipWith (· + ·) roundWords words).foldl round r)

/-- The words of four bytes each, the high byte first. -/
def wordsOf : List UInt8 → List UInt32
  | a :: b :: c :: d :: rest =>
    ((a.toUInt32 <<< 24) ||| (b.toUInt32 <<< 16) ||| (c.toUInt32 <<< 8) ||| d.toUInt32)
      :: wordsOf rest
  | _ => []

/-- The low `n` bytes of a number, the high byte first. -/
def bytesOf (n value : Nat) : List UInt8 :=
  (List.range n).reverse.map fun place => UInt8.ofNat (value / Nat.pow 256 place % 256)

/-- The message with a one bit, zeros, and its length in bits behind it. -/
def padded (message : List UInt8) : List UInt8 :=
  let zeros := (119 - message.length % 64) % 64
  message ++ [0x80] ++ List.replicate zeros 0 ++ bytesOf 8 (8 * message.length)

/-- The first `n` blocks of sixteen words each. -/
def blocks : Nat → List UInt32 → List (Array UInt32)
  | 0, _ => []
  | n + 1, words => (words.take 16).toArray :: blocks n (words.drop 16)

/-- The registers behind a whole message. -/
def digest (message : List UInt8) : Registers :=
  let words := wordsOf (padded message)
  (blocks (words.length / 16) words).foldl absorb .initial

/-- The digest of a text in UTF-8, in hexadecimal. -/
def hexDigest (text : Text) : Text :=
  (digest (Utf8.encode text)).toList.flatMap fun word => hexText 8 word.toNat

end Flowchart.Sha256
