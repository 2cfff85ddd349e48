import Flowchart.Text.Word

/-!
# Reading arguments

A command line is read in two goes.  First each argument is told apart: two
hyphens alone end the options, what begins with a hyphen is an option if it is
the name of one, the start of just one long name, or a cluster of short ones,
and the rest is plain.  A negative number and a text with a blank are plain too,
where they are no option.  Then the arguments are obeyed from left to right, so
that a request for help is answered before a later mistake is seen.  Two hyphens
that are attached to an option as its value leave it without one.
-/

namespace Flowchart

/-- Why a command line is not carried out. -/
inductive Refusal where
  /-- Help was asked for. -/
  | help
  /-- The command line is not well formed. -/
  | misuse
  deriving DecidableEq, Repr

/-- What an option does to the values that are collected. -/
inductive OptionAction (σ : Type) where
  /-- An option without a value. -/
  | flag (set : σ → Except Refusal σ)
  /-- An option with a value, which may be left out. -/
  | value (set : Option Text → σ → Except Refusal σ)

/-- Does the option take a value? -/
def OptionAction.takesValue {σ : Type} : OptionAction σ → Bool
  | flag _ => false
  | value _ => true

/-- What is done with the plain arguments. -/
inductive Positional (σ : Type) where
  /-- There is no place for one. -/
  | none
  /-- There is one, which must be there. -/
  | one (set : Text → σ → σ)
  /-- The first is a command that takes everything behind it.  It answers with
  the arguments that it could not place. -/
  | command (read : Text → List Text → σ → Except Refusal (σ × List Text))

/-- The options and the plain arguments of a command. -/
structure Grammar (σ : Type) where
  /-- The options by their names, hyphens and all. -/
  options : List (Text × OptionAction σ)
  /-- The plain arguments. -/
  positional : Positional σ

/-- An argument, told apart. -/
inductive Argument where
  /-- It stands for itself. -/
  | plain (text : Text)
  /-- It ends the options. -/
  | separator
  /-- It was written for the option of that name, perhaps with a text attached. -/
  | option (written name : Text) (attached : Option Text)
  /-- It looks like an option and is none. -/
  | unknown (text : Text)
  deriving DecidableEq, Repr

namespace Argument

/-- Two hyphens. -/
def hyphens : Text :=
  ['-', '-']

/-- Split at the first equals sign. -/
def splitEquals (text : Text) : Text × Option Text :=
  let (name, rest) := text.span (· ≠ '=')
  (name, if rest.isEmpty then none else some (rest.drop 1))

/-- The options of which a text of two characters or more may be short for. -/
def abbreviated (names : List Text) (text : Text) : List Argument :=
  if hyphens.isPrefixOf text then
    let (start, attached) := splitEquals text
    (names.filter fun name => start.isPrefixOf name).map fun name =>
      option text name attached
  else
    names.filterMap fun name =>
      if name = text.take 2 then some (option text name (some (text.drop 2)))
      else if text.isPrefixOf name then some (option text name none)
      else none

/-- Is the text a minus sign and a number, with or without a point?  One line
feed may stand behind it. -/
def isNegativeNumber : Text → Bool
  | '-' :: rest =>
    let number := if rest.getLast? == some '\n' then rest.dropLast else rest
    let (whole, fraction) := number.span isDigit
    match fraction with
    | [] => !whole.isEmpty
    | c :: digits => c = '.' && !digits.isEmpty && digits.all isDigit
  | _ => false

/-- Tell an argument apart that is not the separator. -/
def ofText (names : List Text) (text : Text) : Except Refusal Argument :=
  if text.head? != some '-' then .ok (plain text)
  else if names.contains text then .ok (option text text none)
  else if text.length = 1 then .ok (plain text)
  else
    let (name, attached) := splitEquals text
    if attached.isSome && names.contains name then .ok (option text name attached)
    else
      match abbreviated names text with
      | [found] => .ok found
      | _ :: _ :: _ => .error .misuse
      | [] =>
        if isNegativeNumber text || text.contains ' ' then .ok (plain text)
        else .ok (unknown text)

/-- Tell arguments apart; behind the separator all are plain. -/
def ofTexts (names : List Text) : List Text → Except Refusal (List Argument)
  | [] => .ok []
  | text :: rest =>
    if text = hyphens then .ok (separator :: rest.map plain)
    else do
      let first ← ofText names text
      let more ← ofTexts names rest
      .ok (first :: more)

/-- The argument as it was written. -/
def text : Argument → Text
  | plain text => text
  | separator => hyphens
  | option written _ _ => written
  | unknown text => text

end Argument

namespace Grammar

variable {σ : Type}

/-- The option of that name. -/
def action? (grammar : Grammar σ) (name : Text) : Option (OptionAction σ) :=
  (grammar.options.find? fun entry => entry.1 = name).map (·.2)

/-- Options in the order in which they are obeyed, each with the text that is attached
to it. -/
abbrev Requests (σ : Type) := List (OptionAction σ × Option Text)

/-- What a short option asks for that has a text attached to it.  Behind an option that
takes no value the text is more short options, of which each must be known. -/
def cluster (grammar : Grammar σ) (action : OptionAction σ) :
    (attached : Text) → Except Refusal (Requests σ)
  | [] => .error .misuse
  | c :: rest =>
    if action.takesValue then .ok [(action, some (c :: rest))]
    else
      match grammar.action? ['-', c], rest with
      | none, _ => .error .misuse
      | some next, [] => .ok [(action, none), (next, none)]
      | some next, rest => do
        let more ← grammar.cluster next rest
        .ok ((action, none) :: more)

/-- What the option of a name asks for. -/
def expand (grammar : Grammar σ) (name : Text) (attached : Option Text) :
    Except Refusal (Requests σ) :=
  match grammar.action? name, attached with
  | none, _ => .error .misuse
  | some action, none => .ok [(action, none)]
  | some action, some text =>
    if action.takesValue then .ok [(action, some text)]
    else if Argument.hyphens.isPrefixOf name then .error .misuse
    else grammar.cluster action text

/-- Does the last of some options still want a value? -/
def wantsValue : Requests σ → Bool
  | [] => false
  | [(action, value)] => action.takesValue && value.isNone
  | _ :: rest => wantsValue rest

/-- The value of an option to which a text is attached. -/
def attachedValue (text : Text) : Option Text :=
  if text = Argument.hyphens then none else some text

/-- Obey options in order; `following` is the value of one that has no text attached. -/
def obey (following : Text) : Requests σ → σ → Except Refusal σ
  | [], values => .ok values
  | (.flag set, _) :: rest, values => do
    let values ← set values
    obey following rest values
  | (.value set, attached) :: rest, values => do
    let values ← set (attachedValue (attached.getD following)) values
    obey following rest values

/-- The end of a command line: a plain argument must not be missing. -/
def finish (place : Positional σ) (unplaced : List Text) (values : σ) :
    Except Refusal (σ × List Text) :=
  match place with
  | .one _ => .error .misuse
  | _ => .ok (values, unplaced)

/-- Obey arguments in order.  `place` is what is left for plain arguments, and
`unplaced` are the arguments so far that had no place. -/
def readFrom (grammar : Grammar σ) :
    Positional σ → (unplaced : List Text) → σ → List Argument →
      Except Refusal (σ × List Text)
  | place, unplaced, values, [] => finish place unplaced values
  | place, unplaced, values, .unknown text :: rest =>
    readFrom grammar place (unplaced ++ [text]) values rest
  | place, unplaced, values, .option _ name attached :: rest => do
    let requests ← grammar.expand name attached
    if wantsValue requests then
      match rest with
      | .plain value :: rest =>
        let values ← obey value requests values
        readFrom grammar place unplaced values rest
      | _ => .error .misuse
    else
      let values ← obey [] requests values
      readFrom grammar place unplaced values rest
  | .one set, unplaced, values, .separator :: .plain text :: rest =>
    readFrom grammar .none unplaced (set text values) rest
  | .one set, unplaced, values, .plain text :: .separator :: rest =>
    readFrom grammar .none unplaced (set text values) rest
  | .one set, unplaced, values, .plain text :: rest =>
    readFrom grammar .none unplaced (set text values) rest
  | .command read, unplaced, values, .plain text :: rest => do
    let (values, more) ← read text (rest.map Argument.text) values
    .ok (values, unplaced ++ more)
  | .command _, _, _, .separator :: .plain _ :: _ => .error .misuse
  | place, unplaced, values, argument :: rest =>
    readFrom grammar place (unplaced ++ [argument.text]) values rest

/-- Read the arguments of a command: the values, and the arguments that had no
place. -/
def read (grammar : Grammar σ) (values : σ) (arguments : List Text) :
    Except Refusal (σ × List Text) := do
  let arguments ← Argument.ofTexts (grammar.options.map (·.1)) arguments
  readFrom grammar grammar.positional [] values arguments

end Grammar

end Flowchart
