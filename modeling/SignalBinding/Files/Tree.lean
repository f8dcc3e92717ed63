import SignalBinding.Files.Path

/-!
# File trees

Folders and files by their places under the root. A file keeps a number of its own from its
creation to its removal, so that an open file can be told from a later one at the same place.

## Main definitions

- `FileTree`: a file tree
- `FileTree.locate`: the place that a way of steps leads to
- `FileTree.read`, `write`, `makeFolders`, `remove`, `append`: what can be done with files
-/

namespace SignalBinding

/-- Why something cannot be done with a file. -/
inductive FileError
  | missing
  | isFolder
  | notFolder
  | exists
  deriving DecidableEq, Repr, Inhabited

/-- A place in a file tree: the names of the folders on the way, and the last name. -/
abbrev Place : Type := List String

/-- What is at a place. -/
inductive FileEntry
  | folder
  | file (number : Nat) (content : ByteArray)
  deriving Inhabited

/-- Folders and files. The root is a folder always. -/
structure FileTree where
  entries : List (Place × FileEntry) := []
  /-- The number of the next file. -/
  next : Nat := 0
  deriving Inhabited

namespace FileTree

/-- What is at a place. -/
def entry? (tree : FileTree) (place : Place) : Option FileEntry :=
  if place.isEmpty then some .folder else tree.entries.lookup place

/-- Puts an entry into the list of entries, in the place of the one that is there. -/
def put (place : Place) (entry : FileEntry) :
    List (Place × FileEntry) → List (Place × FileEntry)
  | [] => [(place, entry)]
  | (p, e) :: rest => if p = place then (place, entry) :: rest else (p, e) :: put place entry rest

def set (tree : FileTree) (place : Place) (entry : FileEntry) : FileTree :=
  { tree with entries := put place entry tree.entries }

/--
The place that a way leads to from a folder. All steps but the last must lead to folders; a step
`..` leads back.
-/
def locate (tree : FileTree) (from_ : Place) : List String → Except FileError Place
  | [] => .ok from_
  | step :: rest =>
    if step = ".." then locate tree from_.dropLast rest
    else
      let place := from_ ++ [step]
      match rest, tree.entry? place with
      | [], _ => .ok place
      | _, some .folder => locate tree place rest
      | _, some (.file _ _) => .error .notFolder
      | _, none => .error .missing

/-- Whether there is a folder at a place. -/
def hasFolder (tree : FileTree) (place : Place) : Bool :=
  match tree.entry? place with
  | some .folder => true
  | _ => false

/-- What a way of steps from the root leads to. -/
def find? (tree : FileTree) (way : List String) : Option FileEntry :=
  match tree.locate [] way with
  | .ok place => tree.entry? place
  | .error _ => none

def isFile (tree : FileTree) (way : List String) : Bool :=
  match tree.find? way with
  | some (.file _ _) => true
  | _ => false

def isFolder (tree : FileTree) (way : List String) : Bool :=
  match tree.find? way with
  | some .folder => true
  | _ => false

def read (tree : FileTree) (way : List String) : Except FileError ByteArray := do
  match tree.entry? (← tree.locate [] way) with
  | some (.file _ content) => return content
  | some .folder => throw .isFolder
  | none => throw .missing

/-- Opens the file at the end of a way, which is created if it is not there. -/
def openFile (tree : FileTree) (way : List String) : Except FileError (Place × Nat × FileTree) := do
  let place ← tree.locate [] way
  match tree.entry? place with
  | some (.file number _) => return (place, number, tree)
  | some .folder => throw .isFolder
  | none =>
    if tree.hasFolder place.dropLast then
      let number := tree.next
      return (place, number, { tree.set place (.file number .empty) with next := number + 1 })
    else throw .missing

/-- Gives a file a content, in place of the one that it has. -/
def write (tree : FileTree) (way : List String) (content : ByteArray) :
    Except FileError FileTree := do
  let (place, number, tree) ← tree.openFile way
  return tree.set place (.file number content)

/-- Adds to the end of the open file with a number, if it is still there. -/
def append (tree : FileTree) (place : Place) (number : Nat) (more : ByteArray) : FileTree :=
  match tree.entry? place with
  | some (.file n content) =>
    if n = number then tree.set place (.file n (content ++ more)) else tree
  | _ => tree

/-- Makes one folder. -/
def makeFolder (tree : FileTree) (way : List String) : Except FileError FileTree := do
  let place ← tree.locate [] way
  match tree.entry? place with
  | some _ => throw .exists
  | none => return tree.set place .folder

/-- Makes a folder unless it is there. -/
def ensureFolder (tree : FileTree) (way : List String) : Except FileError FileTree :=
  match tree.makeFolder way with
  | .ok tree => .ok tree
  | .error e => if tree.isFolder way then .ok tree else .error e

/--
Makes a folder and, if they are missing, the folders on the way to it, the last of which comes
first in `reversed`. What was made before a failure stays.
-/
def makeFoldersReversed (tree : FileTree) : List String → Option FileError × FileTree
  | [] => (none, tree)
  | step :: before =>
    let way := (step :: before).reverse
    match tree.makeFolder way with
    | .ok tree => (none, tree)
    | .error .missing =>
      match makeFoldersReversed tree before with
      | (some e, tree) => (some e, tree)
      | (none, tree) =>
        match tree.ensureFolder way with
        | .ok tree => (none, tree)
        | .error e => (some e, tree)
    | .error e => if tree.isFolder way then (none, tree) else (some e, tree)

/-- Makes the folder at the end of a way. -/
def makeFolders (tree : FileTree) (way : List String) : Option FileError × FileTree :=
  tree.makeFoldersReversed way.reverse

/-- Takes away what is at a place, with all that is below it. -/
def remove (tree : FileTree) (place : Place) : FileTree :=
  { tree with entries := tree.entries.filter fun (p, _) => !(place.isPrefixOf p) }

end FileTree

end SignalBinding
