import Flowchart.Limits
import Flowchart.Record.Form
import Flowchart.Text.LowerCase

/-!
# Settings

Settings come from the environment: a variable sets the field of its name behind
a common start, in any case.  Of several such variables the last one counts, and
a field without one keeps its default.
-/

namespace Flowchart

/-- How log lines are written. -/
inductive LogFormat where
  /-- As JSON. -/
  | json
  /-- As text. -/
  | console
  deriving DecidableEq, Repr

namespace LogFormat

/-- The name of a log format. -/
def name : LogFormat → Text
  | json => "json".toList
  | console => "console".toList

/-- A log format, by its name. -/
def form : Form LogFormat where
  encode format := .str format.name
  decode
    | .str text =>
      if text = json.name then .valid json
      else if text = console.name then .valid console
      else .fault .literal
    | _ => .fault .literal

end LogFormat

/-- The settings of the linter and its service. -/
structure Settings where
  /-- The limits of an analysis. -/
  limits : Limits := {}
  /-- The text of the seconds between two frames, if it was set. -/
  frameInterval : Option Text := none
  /-- The host of the service. -/
  apiHost : Text := "127.0.0.1".toList
  /-- The number of the service's socket. -/
  apiSocket : Int := 8001
  /-- Does the service watch its own code? -/
  apiReload : Bool := false
  /-- The least level of log lines. -/
  logLevel : Text := "INFO".toList
  /-- The format of log lines. -/
  logFormat : LogFormat := .console
  deriving DecidableEq, Repr

/-- Is the text digits with a point among them, before them or behind them? -/
def isDecimalText (text : Text) : Bool :=
  let (whole, rest) := text.span Char.isDigit
  match rest with
  | [] => !whole.isEmpty
  | c :: fraction =>
    c = '.' && fraction.all Char.isDigit && !(whole.isEmpty && fraction.isEmpty)

/-- Is the text that of a real without a sign? -/
def isUnsignedReal (text : Text) : Bool :=
  let small := text.map Char.toLower
  let (decimal, exponent) := small.span (· ≠ 'e')
  ["inf".toList, "infinity".toList, "nan".toList].contains small
    || (isDecimalText decimal
      && (exponent.isEmpty
        || (let digits := (splitSign (exponent.drop 1)).2
            !digits.isEmpty && digits.all Char.isDigit)))

/-- Is the text that of a real, perhaps with underscores inside? -/
def isRealText (text : Text) : Bool :=
  let text := trimNumber text
  isUnsignedReal (splitSign text).2
    || (hasInnerUnderscores text && isUnsignedReal (splitSign (text.filter (· ≠ '_'))).2)

/-- The text of a real. -/
def Form.real : Form (Option Text) where
  encode := Json.ofOption .str
  decode
    | .str text => if isRealText text then .valid (some text) else .fault .floatParsing
    | _ => .fault .floatParsing

namespace Settings

/-- The limits among members. -/
def limitsOf (members : Members) : Checked Limits :=
  let plain : Limits := {}
  Limits.mk <$> defaultField "typo_min_length" .integer plain.typoMinLength members
    <*> defaultField "typo_max_distance" .integer plain.typoMaxDistance members
    <*> defaultField "typo_max_length_delta" .integer plain.typoMaxLengthDelta members
    <*> defaultField "max_line_length" .integer plain.maxLineLength members

/-- The settings from members of their names. -/
def ofMembers (members : Members) : Checked Settings :=
  let plain : Settings := {}
  Settings.mk <$> limitsOf members
    <*> defaultField "frame_interval_seconds" .real plain.frameInterval members
    <*> defaultField "api_host" .text plain.apiHost members
    <*> defaultField "api_port" .integer plain.apiSocket members
    <*> defaultField "api_reload" .truth plain.apiReload members
    <*> defaultField "log_level" .text plain.logLevel members
    <*> defaultField "log_format" LogFormat.form plain.logFormat members

/-- The start of the names of all variables, in small letters. -/
def variableStart : Text :=
  "flowlint_".toList

/-- The member that a variable of the environment sets, if it sets one. -/
def member? (name value : Text) : Option (Text × Json) :=
  let small := lower name
  if variableStart.isPrefixOf small then
    some (small.drop variableStart.length, .str value)
  else none

/-- The settings from the variables of an environment. -/
def ofEnvironment (environment : List (Text × Text)) : Checked Settings :=
  ofMembers (environment.filterMap fun (name, value) => member? name value)

/-- The settings as JSON, the frame interval apart. -/
def toJson (settings : Settings) : Json :=
  .ofMembers
    [("typo_min_length", .int settings.limits.typoMinLength),
     ("typo_max_distance", .int settings.limits.typoMaxDistance),
     ("typo_max_length_delta", .int settings.limits.typoMaxLengthDelta),
     ("max_line_length", .int settings.limits.maxLineLength),
     ("api_host", .str settings.apiHost),
     ("api_port", .int settings.apiSocket),
     ("api_reload", .bool settings.apiReload),
     ("log_level", .str settings.logLevel),
     ("log_format", LogFormat.form.encode settings.logFormat)]

end Settings

end Flowchart
