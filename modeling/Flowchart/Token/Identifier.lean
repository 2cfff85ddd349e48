import Flowchart.Lexeme
import Flowchart.Text.Blank
import Flowchart.Token.Shape

/-!
# Identifiers

An identifier is a letter and then letters, digits, underscores, colons and
hyphens, all of ASCII.  A hyphen with which an arrow begins is not part of it.
What may stand in an identifier must not stand before it, hyphens excepted.
A class tag names a style for the node before it.
-/

namespace Flowchart

/-- A character of an identifier, hyphens apart. -/
def isNameChar (c : Char) : Bool :=
  c.isAlphanum || c = '_' || c = ':'

/-- Does the text go on with a character that makes an arrow of the hyphen
before it? -/
def continuesArrow : Text → Bool
  | [] => false
  | c :: _ => c = '-' || c = '.' || c = '>' || c = '='

/-- The longest front part that can go on an identifier. -/
def nameRun : Text → Text
  | [] => []
  | c :: rest =>
    if isNameChar c || (c = '-' && !continuesArrow rest) then c :: nameRun rest else []

/-- The identifier at the front of a text, whatever stands before it. -/
def leadingName? : Text → Option Text
  | [] => none
  | c :: rest => if c.isAlpha then some (c :: nameRun rest) else none

/-- An identifier. -/
def identifier : Recogniser := fun before text =>
  if before.any isNameChar then none else leadingName? text

/-- Does a shape begin at the front of a text? -/
def opensShape : Text → Bool
  | [] => false
  | c :: _ => isOpener c

/-- Is there nothing in a text but a masked shape and blanks? -/
def endsEndpoint (text : Text) : Bool :=
  (dropShape text).all isBlank

/-- The identifiers that a shape follows at once. -/
def shapedNames (text : Text) : List Occurrence :=
  (occurrences identifier text).filter fun name => opensShape name.rest

/-- The first identifier with which the text ends, shape and blanks apart. -/
def lastEndpoint? (text : Text) : Option Occurrence :=
  (occurrences identifier text).find? fun name => endsEndpoint name.rest

/-- The identifier with which the text begins, blanks apart. -/
def firstEndpoint? (text : Text) : Option Occurrence :=
  (leadingName? (trimStart text)).map fun name =>
    ⟨(indentOf text).length, name, (trimStart text).drop name.length⟩

/-- A character of a class name. -/
def isTagChar (c : Char) : Bool :=
  c.isAlphanum || c = '_' || c = '-'

/-- A class tag: three colons and a class name. -/
def classTag : Recogniser
  | _, ':' :: ':' :: ':' :: rest =>
    let name := rest.takeWhile isTagChar
    if name.isEmpty then none else some (':' :: ':' :: ':' :: name)
  | _, _ => none

/-- The text without its class tags. -/
def dropClassTags (text : Text) : Text :=
  replaceEach classTag (fun _ => []) text

end Flowchart
