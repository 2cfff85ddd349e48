import Flowchart.Text.Quoted
import Flowchart.Text.Utf8

/-!
# The working directory

A command reads and writes files in a working directory, of which the files and
directories are known that matter to the command.  A path is read step by step:
empty steps and single points stay where they are, two points lead to the
directory above, and all steps but the last must lead to a directory.  The bytes
of a step and of a whole path are limited in number, and none of them is zero.
-/

namespace Flowchart

/-- The slashes that a path begins with where it begins at the root: two if there are
just two, else one. -/
def rootText (path : Text) : Text :=
  let slashes := path.takeWhile (· = '/')
  if slashes.length = 2 then slashes else slashes.take 1

/-- The steps of a path that have a name. -/
def namedSteps (path : Text) : List Text :=
  (path.splitOn '/').filter fun step => !step.isEmpty && step != ['.']

/-- The steps of a path; one that begins at the root has the root for its first. -/
def pathSteps (path : Text) : List Text :=
  if (rootText path).isEmpty then namedSteps path else ['/'] :: namedSteps path

/-- A path without the steps that stay where they are. -/
def tidyPath (path : Text) : Text :=
  let text := rootText path ++ joinWith ['/'] (namedSteps path)
  if text.isEmpty then ['.'] else text

/-- The path of some steps. -/
def stepsText : List Text → Text
  | [] => ['.']
  | ['/'] :: steps => '/' :: joinWith ['/'] steps
  | steps => joinWith ['/'] steps

/-- Why a file cannot be read or written. -/
inductive PathProblem where
  /-- There is nothing at the path. -/
  | notFound
  /-- A step leads through a file. -/
  | notDirectory
  /-- There is a directory at the path. -/
  | isDirectory
  /-- A step or the whole path has too many bytes. -/
  | tooLong
  /-- One of the bytes is zero. -/
  | zeroByte
  deriving DecidableEq, Repr

/-- A file that cannot be read or written. -/
structure PathError where
  /-- What is wrong. -/
  problem : PathProblem
  /-- The path. -/
  path : Text
  deriving DecidableEq, Repr

/-- What is said of the error. -/
def PathError.message (error : PathError) : Text :=
  let place := quoted (tidyPath error.path)
  match error.problem with
  | .notFound => "[Errno 2] No such file or directory: ".toList ++ place
  | .notDirectory => "[Errno 20] Not a directory: ".toList ++ place
  | .isDirectory => "[Errno 21] Is a directory: ".toList ++ place
  | .tooLong => "[Errno 36] File name too long: ".toList ++ place
  | .zeroByte => "embedded null byte".toList

/-- The most bytes of a step. -/
def mostStepBytes : Nat :=
  255

/-- The most bytes of a path. -/
def mostPathBytes : Nat :=
  4095

/-- The step to the directory above. -/
def upward : Text :=
  ['.', '.']

/-- The steps to the directory above another; above the root is the root. -/
def parentSteps (steps : List Text) : List Text :=
  if steps.getLast? = none ∨ steps.getLast? = some upward then steps ++ [upward]
  else if steps = [['/']] then steps
  else steps.dropLast

/-- The steps behind one more step. -/
def descend (here : List Text) (step : Text) : List Text :=
  if step = upward then parentSteps here else here ++ [step]

/-- The steps to what a path leads to, none of them upward but the first ones. -/
def resolvedSteps (path : Text) : List Text :=
  (pathSteps path).foldl descend []

/-- A file that is known. -/
structure StoredFile where
  /-- The steps to the file. -/
  steps : List Text
  /-- Its bytes. -/
  content : List UInt8
  deriving DecidableEq, Repr

/-- A working directory. -/
structure Directory where
  /-- The files that are known. -/
  files : List StoredFile := []
  /-- The directories that are known, besides those on the way to a file. -/
  folders : List (List Text) := []
  deriving DecidableEq, Repr

/-- What stands at a path. -/
inductive Entry where
  /-- A file with these bytes. -/
  | file (content : List UInt8)
  /-- A directory. -/
  | directory
  /-- Nothing. -/
  | nothing
  deriving DecidableEq, Repr

namespace Directory

/-- A working directory from the paths and bytes of its files. -/
def ofList (files : List (Text × List UInt8)) : Directory :=
  ⟨files.map fun (path, content) => ⟨resolvedSteps path, content⟩, []⟩

/-- Do the steps lead to a directory?  The working directory, those above it and
the root are there in any case. -/
def isFolder (directory : Directory) (steps : List Text) : Bool :=
  steps.all (· = upward) || steps = [['/']]
    || directory.folders.any (fun folder => steps.isPrefixOf folder)
    || directory.files.any (fun file => steps.isPrefixOf file.steps)

/-- What stands at the end of some steps. -/
def entry (directory : Directory) (steps : List Text) : Entry :=
  match directory.files.find? (·.steps = steps) with
  | some file => .file file.content
  | none => if directory.isFolder steps then .directory else .nothing

/-- The steps from the working directory to what a path leads to, read from
`here` on; the last step may lead to nothing. -/
def follow (directory : Directory) :
    (here steps : List Text) → Except PathProblem (List Text)
  | here, [] => .ok here
  | here, step :: rest =>
    if mostStepBytes < (Utf8.encode step).length then .error .tooLong
    else if rest.isEmpty then .ok (descend here step)
    else
      match directory.entry (descend here step) with
      | .file _ => .error .notDirectory
      | .directory => directory.follow (descend here step) rest
      | .nothing => .error .notFound

/-- The steps from the working directory to what a path leads to. -/
def locate (directory : Directory) (path : Text) : Except PathProblem (List Text) :=
  if path.contains '\x00' then .error .zeroByte
  else if mostPathBytes < (Utf8.encode (tidyPath path)).length then .error .tooLong
  else directory.follow [] (pathSteps path)

/-- What stands at a path.  There is nothing where a path leads to nothing or through
a file, and none has a zero among its bytes. -/
def entryAt (directory : Directory) (path : Text) : Except PathError Entry :=
  match directory.locate path with
  | .ok steps => .ok (directory.entry steps)
  | .error .tooLong => .error ⟨.tooLong, path⟩
  | .error _ => .ok .nothing

/-- The directory with a file written. -/
def put (directory : Directory) (steps : List Text) (content : List UInt8) : Directory :=
  let others := directory.files.filter fun file => file.steps != steps
  { directory with files := others ++ [⟨steps, content⟩] }

/-- Write a file at a path. -/
def write (directory : Directory) (path : Text) (content : List UInt8) :
    Except PathError Directory :=
  match directory.locate path with
  | .error problem => .error ⟨problem, path⟩
  | .ok steps =>
    match directory.entry steps with
    | .directory => .error ⟨.isDirectory, path⟩
    | _ => .ok (directory.put steps content)

/-- The files that are not as they are in another directory. -/
def changes (directory earlier : Directory) : List StoredFile :=
  directory.files.filter fun file => !earlier.files.contains file

/-- The files that have no place in another directory. -/
def additions (directory earlier : Directory) : List StoredFile :=
  directory.files.filter fun file => earlier.files.all (·.steps != file.steps)

end Directory

end Flowchart
