import Flowchart.Text

/-!
# Blanks

The blank characters are the spaces, the line and paragraph ends, the tabs and
the four information separators.  Trimming removes them from the ends of a text.
-/

namespace Flowchart

/-- The ranges of the blank characters. -/
def blankRanges : List (Nat × Nat) :=
  [(0x09, 0x0D), (0x1C, 0x20), (0x85, 0x85), (0xA0, 0xA0), (0x1680, 0x1680),
   (0x2000, 0x200A), (0x2028, 0x2029), (0x202F, 0x202F), (0x205F, 0x205F),
   (0x3000, 0x3000)]

/-- Is `c` a blank character? -/
def isBlank (c : Char) : Bool :=
  inRanges blankRanges c.toNat

/-- The blanks at the front of a text. -/
def indentOf (text : Text) : Text :=
  text.takeWhile isBlank

/-- The text without the blanks at its front. -/
def trimStart (text : Text) : Text :=
  text.dropWhile isBlank

/-- The text without the blanks at its end. -/
def trimEnd (text : Text) : Text :=
  (text.reverse.dropWhile isBlank).reverse

/-- The text without the blanks at its ends. -/
def trim (text : Text) : Text :=
  trimEnd (trimStart text)

/-- The characters up to the first blank behind the leading blanks; empty for a
text of blanks only. -/
def firstWord (text : Text) : Text :=
  (trimStart text).takeWhile fun c => !isBlank c

end Flowchart
