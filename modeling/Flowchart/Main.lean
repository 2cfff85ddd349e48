import Flowchart.Command.Execution
import Std.Time.Format

/-!
# The command line program

The program reads its settings from the environment, and ends with the faults in them
if there are any.  Else it finds out about the files that the command line names, lets
the command be carried out on a directory that holds no others, and writes what the
outcome says.
-/

namespace Flowchart

/-- The settings of the environment, by the names of their variables in capitals. -/
def environmentSettings : IO (Checked Settings) := do
  let fields :=
    ["TYPO_MIN_LENGTH", "TYPO_MAX_DISTANCE", "TYPO_MAX_LENGTH_DELTA", "MAX_LINE_LENGTH",
     "FRAME_INTERVAL_SECONDS", "API_HOST", "API_PORT", "API_RELOAD", "LOG_LEVEL", "LOG_FORMAT"]
  let entries ← fields.filterMapM fun field => do
    let name := "FLOWLINT_" ++ field
    let value ← IO.getEnv name
    return value.map fun value => (name.toList, value.toList)
  return Settings.ofEnvironment entries

/-- The files that a command line reads and writes. -/
def namedFiles : Command → List Text
  | .lint options => [options.file, options.output]
  | .fix options => [options.file, options.output]
  | .sanitize file => [file]
  | .serve _ => []

/-- Is there a directory at the end of the steps? -/
def isFolderOnDisk (steps : List Text) : IO Bool := do
  try
    let _ ← IO.FS.realPath (String.ofList (stepsText steps ++ "/.".toList))
    return true
  catch _ => return false

/-- The file at the end of the steps, if it can be read. -/
def fileOnDisk (steps : List Text) : IO (Option StoredFile) := do
  try
    let bytes ← IO.FS.readBinFile (String.ofList (stepsText steps))
    return some ⟨steps, bytes.toList⟩
  catch _ => return none

/-- What is known of the files of a command line, and of the directories on the
way to them. -/
def directoryOf (command : Option Command) : IO Directory := do
  let paths := ((command.map namedFiles).getD []).filter fun path => !path.isEmpty
  let onTheWay := paths.flatMap fun path =>
    let steps := pathSteps path
    (List.range (steps.length + 1)).map fun count => (steps.take count).foldl descend []
  let known ← (paths.map resolvedSteps).eraseDups.filterMapM fileOnDisk
  let folders ← onTheWay.eraseDups.filterM isFolderOnDisk
  return ⟨known, folders⟩

/-- Write what an outcome says; the answer is the exit code. -/
def perform (before : Directory) : Outcome → IO UInt32
  | .usage exit => do
    IO.println "usage: flowlint [-h] [--version] [lint | fix | sanitize | serve] ..."
    return exit.toUInt32
  | .failed error => do
    IO.eprintln (String.ofList error.message)
    return 1
  | .finished exit output errors directory => do
    for file in directory.changes before do
      IO.FS.writeBinFile (String.ofList (stepsText file.steps)) ⟨file.content.toArray⟩
    IO.print (String.ofList output)
    IO.eprint (String.ofList errors)
    return exit.toUInt32
  | .serving options => do
    IO.eprintln ("Error: cannot serve on " ++ String.ofList (options.host.getD []))
    return 1

/-- A fresh identity: sixteen bytes by chance, as a random identifier has them. -/
def freshIdentity : IO Text := do
  let bytes ← IO.getRandomBytes 16
  let marked := bytes.toList.zipIdx.map fun (byte, place) =>
    if place = 6 then byte % 16 + 0x40
    else if place = 8 then byte % 64 + 0x80
    else byte
  let digits := marked.flatMap fun byte => hexText 2 byte.toNat
  return joinWith ['-']
    [digits.take 8, (digits.drop 8).take 4, (digits.drop 12).take 4,
     (digits.drop 16).take 4, digits.drop 20]

/-- The time of the clock on the wall. -/
def currentTime : IO Timestamp := do
  let now ← Std.Time.PlainDateTime.now
  return ⟨now.year.toInt.toNat, now.month.toInt.toNat, now.day.toInt.toNat,
    now.hour.toInt.toNat, now.minute.toInt.toNat, now.second.toInt.toNat,
    now.nanosecond.toInt.toNat / 1000⟩

/-- Carry out a command line with valid settings. -/
def carryOut (settings : Settings) (arguments : List String) : IO UInt32 := do
  let arguments := arguments.map String.toList
  let command :=
    match Invocation.read settings arguments with
    | .ok invocation => invocation.command
    | .error _ => none
  let directory ← directoryOf command
  let run : Run := ⟨← freshIdentity, ← currentTime⟩
  perform directory (execute settings run directory arguments)

end Flowchart

open Flowchart

/-- Carry out the command line, if the settings are valid. -/
def main (arguments : List String) : IO UInt32 := do
  match ← environmentSettings with
  | .valid settings => carryOut settings arguments
  | .faulty faults => do
    for fault in faults do
      IO.eprintln (String.ofList fault.toJson.plainText)
    return 1
