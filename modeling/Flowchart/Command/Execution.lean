import Flowchart.Clean.Label
import Flowchart.Command.Directory
import Flowchart.Command.Invocation
import Flowchart.Editor.Session
import Flowchart.Logging
import Flowchart.Text.Utf8

/-!
# Carrying out a command

A command sees the working directory as it is, and answers with what it prints,
its exit code, and the directory as it leaves it.  At most the one file that the
output option names is written, and nothing is written by a command that fails.
Arguments and all that is printed and written are in UTF-8.  Logging is set up before
the command is looked at, and a command line that asks for none fails with it too.
-/

namespace Flowchart

/-- Why nothing is reported, of a file or of what is done to it. -/
inductive ReportError where
  /-- The report cannot be exported. -/
  | format (error : ExportError)
  /-- Nothing can be logged. -/
  | level (error : UnknownLevel)
  deriving DecidableEq, Repr

/-- What is said of the error. -/
def ReportError.message : ReportError → Text
  | format error => error.message
  | level error => error.message

/-- Why a command fails. -/
inductive CommandError where
  /-- A file cannot be read or written. -/
  | path (error : PathError)
  /-- There is no way to report. -/
  | report (error : ReportError)
  /-- An issue or a candidate has no place. -/
  | noPlace
  deriving DecidableEq, Repr

/-- What is said of the error. -/
def CommandError.message : CommandError → Text
  | path error => error.message
  | report error => error.message
  | noPlace => "'<=' not supported between instances of 'int' and 'list'".toList

/-- What comes of a command line. -/
inductive Outcome where
  /-- The usage is printed. -/
  | usage (exit : Nat)
  /-- The command failed. -/
  | failed (error : CommandError)
  /-- The command came to its end. -/
  | finished (exit : Nat) (output errors : Text) (directory : Directory)
  /-- The service is to be started. -/
  | serving (options : ServeOptions)
  deriving DecidableEq, Repr

/-- A line that is printed. -/
def printed (text : Text) : Text :=
  text ++ ['\n']

/-- What is printed for the version. -/
def versionText : Text :=
  "flowlint v".toList ++ version
    ++ ("\n\nChecks:\n  - Unknown graph direction\n  - Unbalanced subgraph/end\n"
      ++ "  - Possible node reference typos\n\nExport formats:\n"
      ++ "  - JSON, SARIF, Console").toList

/-- Go on with the text of a file, unless it cannot be read. -/
def withSource (directory : Directory) (path : Text) (go : Text → Outcome) : Outcome :=
  match directory.entryAt path with
  | .error error => .failed (.path error)
  | .ok (.file content) => go (Utf8.decode content)
  | .ok .directory => .failed (.path ⟨.isDirectory, path⟩)
  | .ok .nothing =>
    .finished 1 [] (printed ("Error: File not found: ".toList ++ path)) directory

/-- Print a text, or write it to the file of that path and say so. -/
def emit (directory : Directory) (path text saved : Text) (exit : Nat) : Outcome :=
  if path.isEmpty then .finished exit (printed text) [] directory
  else
    match directory.write path (Utf8.encode text) with
    | .error error => .failed (.path error)
    | .ok directory => .finished exit (printed (saved ++ path)) [] directory

/-- Refuse a choice that is not there. -/
def noChoice (directory : Directory) (message : Text) : Outcome :=
  .finished 1 [] (printed ("Error: ".toList ++ message)) directory

/-- The report in a format.  Where the format was left out an empty list stands in its
place, which is the name of none. -/
def Report.exportIn (report : Report) : Option ReportFormat → Except ExportError Text
  | some format => .ok (report.exportText format)
  | none => .error (.unknownFormat "[]".toList)

/-- Report on a file. -/
def LintOptions.execute (options : LintOptions) (limits : Limits) (run : Run)
    (directory : Directory) : Outcome :=
  withSource directory options.file fun source =>
    let report := lint limits run options.sorted options.file source
    match report.exportIn options.format with
    | .error error => .failed (.report (.format error))
    | .ok text =>
      emit directory options.output text
        "Report saved to: ".toList (if report.issues.isEmpty then 0 else 1)

/-- Go on with the item at a place of a list and the place, or with nothing where there is
no such item; a place must have been given. -/
def withItem {α : Type} (items : List α) (place : Option Int)
    (go : Int → Option α → Outcome) : Outcome :=
  match place with
  | none => .failed .noPlace
  | some place => go place (itemAt? items place)

/-- Fix a file. -/
def FixOptions.execute (options : FixOptions) (limits : Limits) (directory : Directory) :
    Outcome :=
  withSource directory options.file fun source =>
    withItem (orderedIssues limits options.sorted source) options.issue
      fun place found =>
        match found with
        | none => noChoice directory ("No issue with index ".toList ++ intText place)
        | some issue =>
          withItem issue.candidates options.candidate fun candidate found =>
            match found with
            | none =>
              noChoice directory ("Issue ".toList ++ intText place
                ++ " has no fix candidate ".toList ++ intText candidate)
            | some fix =>
              emit directory options.output (fix.apply source)
                "Fixed source saved to: ".toList 0

/-- Carry out a command. -/
def Command.execute (limits : Limits) (run : Run) (directory : Directory) :
    Command → Outcome
  | .lint options => options.execute limits run directory
  | .fix options => options.execute limits directory
  | .sanitize file =>
    withSource directory file fun source =>
      .finished 0 (printed (Flowchart.sanitize source)) [] directory
  | .serve options => .serving options

/-- Carry out a command line. -/
def execute (settings : Settings) (run : Run) (directory : Directory)
    (arguments : List Text) : Outcome :=
  match Invocation.read settings arguments with
  | .error .help => .usage 0
  | .error .misuse => .usage 2
  | .ok invocation =>
    if invocation.showVersion then .finished 0 (printed versionText) [] directory
    else
      match settings.logging invocation.quiet with
      | .error error => .failed (.report (.level error))
      | .ok _ =>
        match invocation.command with
        | none => .usage 1
        | some command => command.execute settings.limits run directory

end Flowchart
