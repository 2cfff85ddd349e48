import Flowchart.Text.LowerCase

/-!
# Upper case

Upper case is the full mapping of the character standard too: most small letters have
one capital, and some become two or three characters.  A capital is found by way of its
small letter, but for the small letters that share their capital with another.
-/

namespace Flowchart

/-- The capital of the small letter with that code point, if it belongs to the run. -/
def CaseRun.upper? (run : CaseRun) (n : Nat) : Option Nat :=
  if run.small ≤ n && n - run.small ≤ run.last - run.first && (n - run.small) % run.step == 0 then
    some (run.first + (n - run.small))
  else none

/-- Letters above ASCII that are not the small letter of their capital, each with it. -/
def sharedCapitals : List (Nat × Nat) :=
  [(0xB5, 0x39C), (0x131, 0x49), (0x17F, 0x53), (0x1C5, 0x1C4), (0x1C8, 0x1C7),
   (0x1CB, 0x1CA), (0x1F2, 0x1F1), (0x345, 0x399), (0x3C2, 0x3A3), (0x3D0, 0x392),
   (0x3D1, 0x398), (0x3D5, 0x3A6), (0x3D6, 0x3A0), (0x3F0, 0x39A), (0x3F1, 0x3A1),
   (0x3F5, 0x395), (0x1C80, 0x412), (0x1C81, 0x414), (0x1C82, 0x41E), (0x1C83, 0x421),
   (0x1C84, 0x422), (0x1C85, 0x422), (0x1C86, 0x42A), (0x1C87, 0x462), (0x1C88, 0xA64A),
   (0x1E9B, 0x1E60), (0x1FBE, 0x399)]

/-- The letters of which eight at a time have an iota below: the first of them, and the capital
of the first without it. -/
def iotaRuns : List (Nat × Nat) :=
  [(0x1F80, 0x1F08), (0x1F88, 0x1F08), (0x1F90, 0x1F28), (0x1F98, 0x1F28),
   (0x1FA0, 0x1F68), (0x1FA8, 0x1F68)]

/-- All other letters whose capital takes several characters. -/
def longCapitals : List (Nat × List Nat) :=
  [(0xDF, [0x53, 0x53]), (0x149, [0x2BC, 0x4E]), (0x1F0, [0x4A, 0x30C]),
   (0x390, [0x399, 0x308, 0x301]), (0x3B0, [0x3A5, 0x308, 0x301]),
   (0x587, [0x535, 0x552]), (0x1E96, [0x48, 0x331]), (0x1E97, [0x54, 0x308]),
   (0x1E98, [0x57, 0x30A]), (0x1E99, [0x59, 0x30A]), (0x1E9A, [0x41, 0x2BE]),
   (0x1F50, [0x3A5, 0x313]), (0x1F52, [0x3A5, 0x313, 0x300]),
   (0x1F54, [0x3A5, 0x313, 0x301]), (0x1F56, [0x3A5, 0x313, 0x342]),
   (0x1FB2, [0x1FBA, 0x399]), (0x1FB3, [0x391, 0x399]), (0x1FB4, [0x386, 0x399]),
   (0x1FB6, [0x391, 0x342]), (0x1FB7, [0x391, 0x342, 0x399]), (0x1FBC, [0x391, 0x399]),
   (0x1FC2, [0x1FCA, 0x399]), (0x1FC3, [0x397, 0x399]), (0x1FC4, [0x389, 0x399]),
   (0x1FC6, [0x397, 0x342]), (0x1FC7, [0x397, 0x342, 0x399]), (0x1FCC, [0x397, 0x399]),
   (0x1FD2, [0x399, 0x308, 0x300]), (0x1FD3, [0x399, 0x308, 0x301]),
   (0x1FD6, [0x399, 0x342]), (0x1FD7, [0x399, 0x308, 0x342]),
   (0x1FE2, [0x3A5, 0x308, 0x300]), (0x1FE3, [0x3A5, 0x308, 0x301]),
   (0x1FE4, [0x3A1, 0x313]), (0x1FE6, [0x3A5, 0x342]), (0x1FE7, [0x3A5, 0x308, 0x342]),
   (0x1FF2, [0x1FFA, 0x399]), (0x1FF3, [0x3A9, 0x399]), (0x1FF4, [0x38F, 0x399]),
   (0x1FF6, [0x3A9, 0x342]), (0x1FF7, [0x3A9, 0x342, 0x399]), (0x1FFC, [0x3A9, 0x399]),
   (0xFB00, [0x46, 0x46]), (0xFB01, [0x46, 0x49]), (0xFB02, [0x46, 0x4C]),
   (0xFB03, [0x46, 0x46, 0x49]), (0xFB04, [0x46, 0x46, 0x4C]), (0xFB05, [0x53, 0x54]),
   (0xFB06, [0x53, 0x54]), (0xFB13, [0x544, 0x546]), (0xFB14, [0x544, 0x535]),
   (0xFB15, [0x544, 0x53B]), (0xFB16, [0x54E, 0x546]), (0xFB17, [0x544, 0x53D])]

/-- The several characters of a capital, if it takes several. -/
def longCapital? (n : Nat) : Option (List Nat) :=
  match iotaRuns.find? fun run => run.1 ≤ n && n < run.1 + 8 with
  | some (first, capital) => some [capital + (n - first), 0x399]
  | none => (longCapitals.find? fun entry => entry.1 = n).map (·.2)

/-- The one character of a capital, if it takes one. -/
def capital? (n : Nat) : Option Nat :=
  match sharedCapitals.find? fun entry => entry.1 = n with
  | some (_, capital) => some capital
  | none => caseRuns.findSome? (·.upper? n)

/-- The upper case of a character. -/
def upperChar (c : Char) : Text :=
  if isAscii c then [c.toUpper]
  else
    match longCapital? c.toNat with
    | some capitals => capitals.map Char.ofNat
    | none => [Char.ofNat ((capital? c.toNat).getD c.toNat)]

/-- The upper case of a text. -/
def upper (text : Text) : Text :=
  text.flatMap upperChar

end Flowchart
