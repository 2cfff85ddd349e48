import Flowchart.Command.Arguments
import Flowchart.Report.Export
import Flowchart.Settings
import Flowchart.Text.Numeral

/-!
# Command lines

A command line names one of four commands: to report on a file, to fix it, to
print it as it is handed to the renderer, or to serve.  An option that may be
shortened has a long name; where it is repeated, the last value counts, and a
value that was left out counts too.
-/

namespace Flowchart

/-- What to do for a report. -/
structure LintOptions where
  /-- The file. -/
  file : Text := []
  /-- The file for the report. -/
  output : Text := []
  /-- The format of the report, unless it was left out. -/
  format : Option ReportFormat := some .console
  /-- Are the issues sorted by line and column? -/
  sorted : Bool := false
  /-- Is nothing logged? -/
  quiet : Bool := false
  deriving DecidableEq, Repr

/-- What to do for a fix. -/
structure FixOptions where
  /-- The file. -/
  file : Text := []
  /-- The place of the issue, unless it was left out. -/
  issue : Option Int := some 0
  /-- Are the issues sorted by line and column? -/
  sorted : Bool := false
  /-- The place of the candidate, unless it was left out. -/
  candidate : Option Int := some 0
  /-- The file for the fixed text. -/
  output : Text := []
  /-- Is nothing logged? -/
  quiet : Bool := false
  deriving DecidableEq, Repr

/-- Where to serve. -/
structure ServeOptions where
  /-- The host, unless it was left out. -/
  host : Option Text
  /-- The number of the socket, unless it was left out. -/
  socket : Option Int
  deriving DecidableEq, Repr

/-- What a command line asks for. -/
inductive Command where
  /-- Report on a file. -/
  | lint (options : LintOptions)
  /-- Fix a file. -/
  | fix (options : FixOptions)
  /-- Print a file as it is handed to the renderer. -/
  | sanitize (file : Text)
  /-- Serve. -/
  | serve (options : ServeOptions)
  deriving DecidableEq, Repr

/-- Is nothing logged while the command is carried out?  Two commands can ask for it. -/
def Command.quiet : Command → Bool
  | lint options => options.quiet
  | fix options => options.quiet
  | sanitize _ | serve _ => false

/-- A command line. -/
structure Invocation where
  /-- Is the version asked for? -/
  showVersion : Bool := false
  /-- The command, if there is one. -/
  command : Option Command := none
  deriving DecidableEq, Repr

/-- Is nothing logged? -/
def Invocation.quiet (invocation : Invocation) : Bool :=
  (invocation.command.map Command.quiet).getD false

/-- Set something from the value of an option, or from its absence. -/
def setValue {α σ : Type} (read? : Text → Option α) (set : Option α → σ → σ) :
    OptionAction σ :=
  .value fun value options =>
    match value, value.bind read? with
    | some _, none => .error .misuse
    | _, found => .ok (set found options)

/-- Set something that has no value. -/
def setFlag {σ : Type} (set : σ → σ) : OptionAction σ :=
  .flag fun values => .ok (set values)

/-- Options under all their names. -/
def optionTable {σ : Type} (entries : List (List String × OptionAction σ)) :
    List (Text × OptionAction σ) :=
  entries.flatMap fun (names, action) => names.map fun name => (name.toList, action)

/-- The options that ask for help. -/
def helpEntry {σ : Type} : List String × OptionAction σ :=
  (["-h", "--help"], .flag fun _ => .error .help)

/-- The arguments of a report. -/
def LintOptions.grammar : Grammar LintOptions where
  options := optionTable
    [helpEntry,
     (["-o", "--output"], setValue some fun path options =>
       { options with output := path.getD [] }),
     (["-f", "--format"], setValue ReportFormat.ofName? fun format options =>
       { options with format := format }),
     (["--sorted"], setFlag fun options => { options with sorted := true }),
     (["--quiet", "-q"], setFlag fun options => { options with quiet := true })]
  positional := .one fun path options => { options with file := path }

/-- The arguments of a fix. -/
def FixOptions.grammar : Grammar FixOptions where
  options := optionTable
    [helpEntry,
     (["--issue"], setValue argumentInteger? fun place options =>
       { options with issue := place }),
     (["--sorted"], setFlag fun options => { options with sorted := true }),
     (["--candidate"], setValue argumentInteger? fun place options =>
       { options with candidate := place }),
     (["-o", "--output"], setValue some fun path options =>
       { options with output := path.getD [] }),
     (["--quiet", "-q"], setFlag fun options => { options with quiet := true })]
  positional := .one fun path options => { options with file := path }

/-- The arguments of a command that takes a file alone. -/
def fileGrammar : Grammar Text where
  options := optionTable [helpEntry]
  positional := .one fun path _ => path

/-- The arguments of the service. -/
def ServeOptions.grammar : Grammar ServeOptions where
  options := optionTable
    [helpEntry,
     (["--host"], setValue some fun host options => { options with host := host }),
     (["--port"], setValue argumentInteger? fun socket options =>
       { options with socket := socket })]
  positional := .none

/-- Read the arguments of a command and add it to a command line. -/
def Invocation.readCommand {σ : Type} (grammar : Grammar σ) (plain : σ)
    (make : σ → Command) (arguments : List Text) (invocation : Invocation) :
    Except Refusal (Invocation × List Text) := do
  let (options, unplaced) ← grammar.read plain arguments
  .ok ({ invocation with command := some (make options) }, unplaced)

/-- The arguments of a command line. -/
def Invocation.grammar (settings : Settings) : Grammar Invocation where
  options := optionTable
    [helpEntry,
     (["--version"], setFlag fun invocation => { invocation with showVersion := true })]
  positional := .command fun name arguments invocation =>
    if name = "lint".toList then
      readCommand LintOptions.grammar {} .lint arguments invocation
    else if name = "fix".toList then
      readCommand FixOptions.grammar {} .fix arguments invocation
    else if name = "sanitize".toList then
      readCommand fileGrammar [] .sanitize arguments invocation
    else if name = "serve".toList then
      readCommand ServeOptions.grammar
        ⟨some settings.apiHost, some settings.apiSocket⟩ .serve arguments invocation
    else .error .misuse

/-- Read a command line, in which every argument must have a place. -/
def Invocation.read (settings : Settings) (arguments : List Text) :
    Except Refusal Invocation := do
  let (invocation, unplaced) ← (grammar settings).read {} arguments
  if unplaced.isEmpty then .ok invocation else .error .misuse

end Flowchart
