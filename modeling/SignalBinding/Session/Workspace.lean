import SignalBinding.Config
import SignalBinding.Generation.Rendering
import SignalBinding.Log.Logger
import SignalBinding.Template.Reading
import SignalBinding.Text.Lines

/-!
# Workspaces

What a session works on: the user's files, the library's logger, and what the user has been shown.
What a step of a session has done stays done when a later step fails.

## Main definitions

- `Libraries`: what a session leaves to other libraries
- `Workspace`: the state of a session
- `Failure`: why a step fails
- `Session`: a step of a session
- `Workspace.log`: what becomes of a record; `Session.tell`, `Session.setUpLog`
- `Session.readText`, `Session.writeText`: text files
- `Workspace.templates`: the templates of a folder
-/

namespace SignalBinding

/-- What a session leaves to other libraries. -/
structure Libraries where
  decode : Yaml.Decoder := Yaml.decode
  /-- What the template that is written in a text does with a signal. -/
  template : String → Writer := Template.writer fun _ => none
  deriving Inhabited

/-- The state of a session. -/
structure Workspace where
  libraries : Libraries := {}
  /-- The current folder. -/
  folder : Path
  /-- The user's home folder. -/
  home : Path
  /-- The time that log files show. -/
  time : String
  files : FileTree
  /-- The logger of the library's topic, which nobody has set up in the beginning. -/
  logger : Logger := {}
  /-- The topics of the records that users of the library have made themselves. -/
  topics : List String := []
  /-- What the user has been shown besides results. -/
  shown : String := ""
  /-- For each template folder that a generator has for itself, the built-in templates it has used.
  It goes on using these when the folder gets templates of the same names. -/
  settled : List (String × List TemplateName) := []
  deriving Inhabited

/-- Why a step of a session fails. -/
inductive Failure
  | config (e : TextFault ConfigFault)
  | bridge (e : TextFault Description.Fault)
  | bridgeMissing (path : Path)
  | template (e : TemplateError)
  | file (e : FileError)
  /-- A file does not hold a text. -/
  | notText
  deriving DecidableEq, Repr

/-- The message of a failure that users are told about. -/
def Failure.message? : Failure → Option String
  | config (.notYaml name) | bridge (.notYaml name) => some (TextFault.notYamlMessage name)
  | config (.content e) => some e.message
  | bridge (.content e) => some e.message
  | bridgeMissing path => some ("Bridge description not found: " ++ path.text)
  | _ => none

/-- A step of a session. -/
abbrev Session : Type → Type := ExceptT Failure (StateM Workspace)

namespace Workspace

/-- The steps from the root that a path means. -/
def way (w : Workspace) (p : Path) : List String :=
  (w.folder.append p).steps

/-- Shows a text to the user. -/
def «show» (w : Workspace) (text : String) : Workspace :=
  { w with shown := w.shown ++ text }

/-- Hands a record to a handler. -/
def deliver (r : Record) (w : Workspace) (h : Handler) : Workspace :=
  if h.takes r then
    match h.sink with
    | .user => w.show r.shown
    | .file none => w
    | .file (some f) =>
      { w with files := w.files.append f.place f.number (r.written w.time).toUTF8 }
  else w

/-- Hands a record to its logger, which is the first of `chain`; the others are those above it. -/
def log (w : Workspace) (chain : List Logger) (r : Record) : Workspace :=
  if (Logger.threshold chain).rank ≤ r.level.rank then
    match Logger.reached chain with
    | [] => if Level.warning.rank ≤ r.level.rank then w.show r.bare else w
    | hs => hs.foldl (deliver r) w
  else w

/-- Hands a record of the library to its logger. -/
def record (w : Workspace) (r : Record) : Workspace :=
  w.log [w.logger, .root] r

/-- Hands a record that a user of the library makes to its logger, which is below that of the
library if its topic is. -/
def report (w : Workspace) (r : Record) : Workspace :=
  let w := { w with topics := r.topic :: w.topics }
  if Topic.isFiled w.topics r.topic then w.record r else w.log [.root] r

/-- The template that a folder has in place of a built-in one, if it has one. -/
def override? (w : Workspace) (folder : Path) (name : TemplateName) :
    Option Writer :=
  match w.files.read (w.way ((folder.child "signals").child name.fileName)) with
  | .error _ => none
  | .ok bytes =>
    match Text.ofBytes? bytes with
    | none => some (.failing .notText)
    | some s => some (w.libraries.template s)

/-- The templates of a folder, and the built-in ones for those that it does not have and for those
in `settled`. -/
def templates (w : Workspace) (folder : Path) (settled : List TemplateName) : TemplateSet :=
  fun name =>
    if name ∈ settled then TemplateSet.builtin name
    else (w.override? folder name).getD (TemplateSet.builtin name)

/-- The built-in templates that a generator with the folder `own` has used. -/
def settledFor (w : Workspace) (own : String) : List TemplateName :=
  (w.settled.lookup own).getD []

end Workspace

namespace Session

/-- Does a step: its result, and the workspace behind it. -/
def perform {α : Type} (step : Session α) (w : Workspace) : Except Failure α × Workspace :=
  ExceptT.run step w

/-- Fails with the file error that there is, if there is one. -/
def check {α : Type} : Except FileError α → Session α
  | .ok a => return a
  | .error e => throw (.file e)

def tell (r : Record) : Session Unit :=
  modify (·.record r)

/-- Hands some records to the logger, one after the other. -/
def tellAll (rs : List Record) : Session Unit :=
  modify fun w => rs.foldl Workspace.record w

/-- Makes a folder and those on the way to it. -/
def makeFolders (p : Path) : Session Unit := do
  let w ← get
  let (error?, files) := w.files.makeFolders (w.way p)
  set { w with files }
  match error? with
  | some e => throw (.file e)
  | none => return ()

def readText (p : Path) : Session String := do
  let w ← get
  match Text.ofBytes? (← check (w.files.read (w.way p))) with
  | some s => return s
  | none => throw .notText

/-- Writes a text file, in a folder that is made if it is missing. -/
def writeText (p : Path) (text : String) : Session Unit := do
  makeFolders p.parent
  let w ← get
  set { w with files := ← check (w.files.write (w.way p) text.toUTF8) }

/-- Opens the log file at a path. -/
def openLogFile (p : Path) : Session LogFile := do
  makeFolders p.parent
  let w ← get
  let (place, number, files) ← check (w.files.openFile (p.resolve w.folder).steps)
  set { w with files }
  return { place, number }

def changeLogger (change : Logger → Logger) : Session Unit :=
  modify fun w => { w with logger := change w.logger }

/-- Sets the logger up anew. If its file cannot be opened, it goes on without one. -/
def setUpLog (verbose : Bool) (file? : Option Path) : Session Unit := do
  let level := Logger.thresholdOf verbose
  changeLogger fun l => { l with level? := some level, propagates := false }
  changeLogger Logger.reset
  changeLogger (·.add { sink := .user, level })
  match file? with
  | none => return ()
  | some p =>
    let file ← openLogFile p
    changeLogger (·.add { sink := .file (some file), level })

end Session

end SignalBinding
