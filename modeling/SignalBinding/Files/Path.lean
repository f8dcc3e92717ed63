/-!
# Paths

Paths as users write them. Slashes in a row count as one and steps `.` do not count; steps `..`
stay until the path is resolved.

## Main definitions

- `Path`: where a path starts, and its steps
- `Path.ofText`, `Path.text`: paths and their texts
- `Path.expandHome`, `Path.resolve`: what a path means for a user in a folder
-/

namespace SignalBinding

/-- Where a path starts. -/
inductive PathRoot
  /-- At the current folder. -/
  | here
  /-- At the root. -/
  | top
  /-- At the root, written with two slashes. -/
  | doubleTop
  deriving DecidableEq, Repr, Inhabited

/-- A path. -/
structure Path where
  root : PathRoot
  steps : List String
  deriving DecidableEq, Repr, Inhabited

namespace Path

/-- The parts of a text between slashes. -/
def splitSlashes (s : String) : List String :=
  (s.toList.splitOn '/').map String.ofList

def ofText (s : String) : Path where
  root :=
    match s.toList with
    | '/' :: '/' :: '/' :: _ => .top
    | '/' :: '/' :: _ => .doubleTop
    | '/' :: _ => .top
    | _ => .here
  steps := (splitSlashes s).filter fun step => step ≠ "" ∧ step ≠ "."

/-- The text of a path; the current folder is a point. -/
def text (p : Path) : String :=
  match p.root, p.steps with
  | .here, [] => "."
  | .here, steps => "/".intercalate steps
  | .top, steps => "/" ++ "/".intercalate steps
  | .doubleTop, steps => "//" ++ "/".intercalate steps

def isAbsolute (p : Path) : Bool :=
  p.root != .here

/-- The path `q` from `p` on; `q` itself if it starts at the root. -/
def append (p q : Path) : Path :=
  if q.isAbsolute then q else { p with steps := p.steps ++ q.steps }

/-- The path with one more step. -/
def child (p : Path) (name : String) : Path :=
  { p with steps := p.steps ++ [name] }

/-- The path without its last step. -/
def parent (p : Path) : Path :=
  { p with steps := p.steps.dropLast }

/-- The last step. -/
def name (p : Path) : String :=
  (p.steps.getLast?).getD ""

/-- The path with a leading `~` replaced by the home folder. -/
def expandHome (p home : Path) : Path :=
  match p.root, p.steps with
  | .here, "~" :: rest => { home with steps := home.steps ++ rest }
  | _, _ => p

/-- Takes the steps `..` back, together with the steps before them; `done` holds the last step
first. -/
def cancel (done : List String) : List String → List String
  | [] => done.reverse
  | step :: rest =>
    if step = ".." then cancel done.tail rest else cancel (step :: done) rest

/-- The absolute path, from `folder` on, without steps `..`. -/
def resolve (p folder : Path) : Path where
  root := .top
  steps := cancel [] (folder.append p).steps

example : (ofText "./a//b/../c.h").text = "a/b/../c.h" := by decide

example : ((ofText "x/../../b").resolve (ofText "/r")).text = "/b" := by decide

end Path

end SignalBinding
