import SignalBinding.CommandLine.Inputs
import Std.Time.Zoned

/-!
# The program

Takes what a command may look at from the disk into a file tree, does the command there, and brings
what it has changed back to the disk.
-/

namespace SignalBinding.Disk

/-- The text of a place. -/
def pathText (place : Place) : String :=
  "/" ++ "/".intercalate place

/-- Takes what is at a place on the disk into a file tree, in which the folder of the place is. -/
def take (tree : FileTree) (place : Place) : IO FileTree := do
  let path := (← IO.currentDir) / pathText place
  match ← path.metadata.toBaseIO with
  | .error _ => return tree
  | .ok found =>
    match found.type with
    | .dir => return tree.set place .folder
    | .file => return put tree (← IO.FS.readBinFile path)
    | _ => return put tree .empty
where
  put (tree : FileTree) (content : ByteArray) : FileTree :=
    (tree.write place content).toOption.getD tree

/-- Takes what some paths may pass into the files of a workspace. -/
def takeAll (w : Workspace) (paths : List Path) : IO Workspace := do
  return { w with files := ← (w.placesOf paths).foldlM take w.files }

/-- Brings what is not in `before` to the disk. Folders come before what is in them. -/
def bring (before after : FileTree) : IO Unit :=
  for (place, entry) in after.entries do
    match entry, before.entry? place with
    | .folder, none => IO.FS.createDir (pathText place)
    | .file _ content, some (.file _ old) =>
      if content.data != old.data then IO.FS.writeBinFile (pathText place) content
    | .file _ content, none => IO.FS.writeBinFile (pathText place) content
    | _, _ => pure ()

/-- The local time, with milliseconds. -/
def time : IO String := do
  let t ← Std.Time.PlainDateTime.now
  let number (width : Nat) (n : Int) := Document.padded width n.toNat
  return number 4 t.year ++ "-" ++ number 2 t.month.val ++ "-" ++ number 2 t.day.val ++ " " ++
    number 2 t.hour.val ++ ":" ++ number 2 t.minute.val ++ ":" ++ number 2 t.second.val ++ "," ++
    number 3 (t.nanosecond.val / 1000000)

/-- The workspace of the process, with no files yet. -/
def workspace : IO Workspace := do
  let folder := Path.ofText (← IO.currentDir).toString
  let home := Path.ofText ((← IO.getEnv "HOME").getD "/")
  return { folder, home, time := ← time, files := {} }

/-- The workspace with all that a command may look at. -/
def workspaceFor (arguments : List String) : IO Workspace := do
  let w ← workspace
  match CommandLine.Request.ofArguments arguments with
  | .generate g =>
    let w ← takeAll w (w.folder :: g.inputs w.folder w.home)
    match ((Session.loadConfig (g.configPath w.folder w.home)).perform w).1 with
    | .ok c => takeAll w (g.furtherInputs c)
    | .error _ => return w
  | _ => return w

/-- What is said about a failure that a command does not deal with. -/
def failureText : Failure → String
  | .template .undefined => "a template uses a name without a value"
  | .template .notRepeatable => "a template repeats a part over what is no list"
  | .template .malformed => "a template is malformed"
  | .template .notText | .notText => "a file is not a text"
  | .file .missing => "a file is missing"
  | .file .isFolder => "a folder is where a file should be"
  | .file .notFolder | .file .exists => "a file is where a folder should be"
  | .config _ | .bridge _ => "a value does not have the type that it is said to have"
  | .bridgeMissing path => (Failure.bridgeMissing path).message?.getD ""

end SignalBinding.Disk

open SignalBinding in
/-- Does the command of the arguments. -/
def main (arguments : List String) : IO UInt32 := do
  let before ← Disk.workspaceFor arguments
  let (result, after) := (Session.command arguments).perform before
  Disk.bring before.files after.files
  IO.eprint after.shown
  match result with
  | .ok r =>
    IO.print r.output
    if r.exitCode = 2 then IO.eprint CommandLine.helpText
    return r.exitCode.toUInt32
  | .error e =>
    IO.eprintln ("signalgen: " ++ Disk.failureText e)
    return 1
