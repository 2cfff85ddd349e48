import Flowchart.Json.Encoding
import Flowchart.Json.Reader
import Flowchart.Text.Numeral

/-!
# Bodies of requests

A body is a string of bytes that should be JSON.  What is no JSON at all is told
apart from what cannot be read: bytes that are no text, a value that is nested too
deep, and an integer of too many digits.
-/

namespace Flowchart

/-- The body of a request. -/
inductive Body where
  /-- The bytes that were sent. -/
  | bytes (bytes : List UInt8)
  /-- JSON that has been read. -/
  | json (value : Json)

/-- What a body holds. -/
inductive Content where
  /-- It is empty. -/
  | nothing
  /-- It holds this value. -/
  | value (json : Json)
  /-- It is not JSON. -/
  | malformed
  /-- It cannot be read. -/
  | unreadable

namespace Body

/-- How deep arrays and objects may stand inside one another, so that reading them
does not use up the stack. -/
def bounds : Json.Bounds where
  depth := some 960
  digits := some mostDigits

/-- What a body holds. -/
def content : Body → Content
  | json value => .value value
  | bytes [] => .nothing
  | bytes sent =>
    match Json.textOf? sent with
    | none => .unreadable
    | some text =>
      match Json.read bounds text with
      | .ok value => .value value
      | .error .malformed => .malformed
      | .error _ => .unreadable

end Body

end Flowchart
