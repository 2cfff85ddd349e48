import Flowchart.Record.Detail

/-!
# Responses

A response has a status and a body of JSON.  It is written as text before it is
sent, and that fails where the body holds a real that JSON has no number for, or
a surrogate without its partner.
-/

namespace Flowchart

/-- A response. -/
structure Response where
  /-- The status code. -/
  status : Nat
  /-- The body. -/
  body : Json

/-- Why a response cannot be written. -/
inductive Unwritable where
  /-- A real is not finite. -/
  | number
  /-- So many surrogates stand alone at that offset, and this is the first. -/
  | surrogates (first offset count : Nat)
  deriving DecidableEq, Repr

namespace Unwritable

/-- What is said of the error. -/
def message : Unwritable → Text
  | number => "Out of range float values are not JSON compliant".toList
  | surrogates first offset count =>
    let what :=
      if count = 1 then
        "character '\\u".toList ++ hexText 4 first ++ "' in position ".toList
          ++ natText offset
      else
        "characters in position ".toList ++ natText offset ++ '-'
          :: natText (offset + count - 1)
    "'utf-8' codec can't encode ".toList ++ what ++ ": surrogates not allowed".toList

/-- The first run of surrogates in a text, of which `offset` characters are read. -/
def ofText? (offset : Nat) : Text → Option Unwritable
  | [] => none
  | c :: rest =>
    match surrogate? c with
    | some unit =>
      some (surrogates unit offset
        (1 + (rest.takeWhile fun d => (surrogate? d).isSome).length))
    | none => ofText? (offset + 1) rest

end Unwritable

namespace Response

/-- The response to a request that was carried out. -/
def ok (body : Json) : Response :=
  ⟨200, body⟩

/-- A response that says why a request was not carried out. -/
def refusal (status : Nat) (detail : Json) : Response :=
  ⟨status, .ofMembers [("detail", detail)]⟩

/-- The response to a body with faults, which repeats what is faulty in it. -/
def ofFaults (faults : List Fault) (body : Json) : Response :=
  refusal 422 (.arr (faults.map (Fault.detail [.field "body".toList] body)))

/-- The response to a request with faults, or the one that `carryOut` makes. -/
def ofChecked {α : Type} (carryOut : α → Json) (body : Json) : Checked α → Response
  | .valid request => ok (carryOut request)
  | .faulty faults => ofFaults faults body

/-- The body as it is sent. -/
def text (response : Response) : Except Unwritable Text :=
  if response.body.isFinite then
    let text := response.body.compact
    match Unwritable.ofText? 0 text with
    | none => .ok text
    | some error => .error error
  else .error .number

end Response

end Flowchart
