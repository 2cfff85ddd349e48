import Flowchart.Text

/-!
# Timestamps

A time is written as a date and a time of day with a `T` between them, to the
second, or to the microsecond where the second is not whole.
-/

namespace Flowchart

/-- A date and a time of day. -/
structure Timestamp where
  /-- The year. -/
  year : Nat
  /-- The month, from one on. -/
  month : Nat
  /-- The day, from one on. -/
  day : Nat
  /-- The hour. -/
  hour : Nat
  /-- The minute. -/
  minute : Nat
  /-- The second. -/
  second : Nat
  /-- The microsecond. -/
  microsecond : Nat := 0
  deriving DecidableEq, Repr

/-- A number with zeros in front, up to a width. -/
def paddedText (width n : Nat) : Text :=
  (natText n).leftpad width '0'

/-- The text of a time. -/
def Timestamp.text (time : Timestamp) : Text :=
  joinWith ['-'] [paddedText 4 time.year, paddedText 2 time.month, paddedText 2 time.day]
    ++ 'T' :: joinWith [':']
      [paddedText 2 time.hour, paddedText 2 time.minute, paddedText 2 time.second]
    ++ (if time.microsecond = 0 then [] else '.' :: paddedText 6 time.microsecond)

end Flowchart
