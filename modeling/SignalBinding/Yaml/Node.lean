import SignalBinding.Yaml.Resolution
import SignalBinding.Yaml.TokenStream

/-!
# YAML nodes

The scalars, sequences and mappings of a text. A node may stand in several places, since an alias
is the node that it names, and it may even lie inside itself. So nodes are kept in one array, and
the parts of a node are given by their places in it.

The readers below have a bound on the depth of their calls. Two calls in a row read a token at
least, so that twice the number of tokens is enough.

## Main definitions

- `Node`, `Graph`: a node, and the nodes of a text
- `Reading`: readers of nodes from tokens
- `Graph.ofText?`: the nodes of a text that holds one document, or none
-/

namespace SignalBinding.Yaml

/-- The place of a node among all nodes of its text. -/
abbrev NodeId : Type := Nat

inductive Node
  | scalar (tag : Tag) (text : String)
  | sequence (tag : Tag) (items : List NodeId)
  | mapping (tag : Tag) (entries : List (NodeId × NodeId))
  deriving Repr, Inhabited

def Node.tag : Node → Tag
  | scalar tag _ => tag
  | sequence tag _ => tag
  | mapping tag _ => tag

def Node.withTag (tag : Tag) : Node → Node
  | scalar _ s => scalar tag s
  | sequence _ items => sequence tag items
  | mapping _ entries => mapping tag entries

/-- The nodes of a text. -/
structure Graph where
  nodes : Array Node
  root : NodeId
  deriving Repr, Inhabited

/-- Tokens to read, what is wrong behind them, and the nodes so far with the names of some. -/
structure ReadState where
  tokens : List Token
  fault? : Option Fault := none
  nodes : Array Node := #[]
  anchors : List (String × NodeId) := []

/-- A reader of tokens. -/
abbrev Reading : Type → Type := StateT ReadState (Except Fault)

/-- What tag handles stand for. -/
abbrev Handles : Type := List (String × String)

namespace Reading

/-- The token ahead; none at the end of the text. What is wrong with the text shows when all tokens
before are read. -/
def peek : Reading (Option Token) := do
  let s ← get
  match s.tokens, s.fault? with
  | t :: _, _ => return some t
  | [], none => return none
  | [], some f => throw f

def drop : Reading Unit :=
  modify fun s => { s with tokens := s.tokens.tail }

/-- Reads the token `t` if it is ahead. -/
def accept (t : Token) : Reading Bool := do
  if (← peek) = some t then
    drop
    return true
  else return false

/-- Whether one of some tokens, or the end, is ahead. -/
def at? (ts : List Token) : Reading Bool := do
  match ← peek with
  | none => return true
  | some t => return t ∈ ts

/-- What stands in front of a node: its name and its tag. -/
structure Properties where
  anchor? : Option String := none
  tag? : Option (Option String × String) := none

def readAnchor : Reading (Option String) := do
  match ← peek with
  | some (.anchor name) => do
    drop
    return some name
  | _ => return none

def readTag : Reading (Option (Option String × String)) := do
  match ← peek with
  | some (.tag handle? suffix) => do
    drop
    return some (handle?, suffix)
  | _ => return none

/-- Reads name and tag in either order. -/
def properties : Reading Properties := do
  match ← readAnchor with
  | some anchor => return { anchor? := some anchor, tag? := ← readTag }
  | none =>
    match ← readTag with
    | some tag => return { tag? := some tag, anchor? := ← readAnchor }
    | none => return {}

/-- The full text of a tag; none for the tag `!`, which leaves the question to the form. -/
def fullTag (handles : Handles) : Option (Option String × String) → Except Fault (Option String)
  | none => return none
  | some (none, suffix) => return some suffix
  | some (some handle, suffix) =>
    match handles.lookup handle with
    | some start => return some (start ++ suffix)
    | none => throw .malformed

/-- Adds a node, which may have a name. -/
def add (n : Node) (anchor? : Option String := none) : Reading NodeId :=
  modifyGet fun s =>
    let id := s.nodes.size
    let named := (anchor?.map fun name => (name, id)).toList
    (id, { s with nodes := s.nodes.push n, anchors := named ++ s.anchors })

/-- Adds the node that stands where nothing is written. -/
def nothing : Reading NodeId :=
  add (.scalar .null "")

/-- Adds the node `make []` and reads its parts, which may have that node among them. -/
def addCollection {α : Type} (make : List α → Node) (anchor? : Option String)
    (parts : Reading (List α)) : Reading NodeId := do
  let id ← add (make []) anchor?
  let xs ← parts
  modify fun s => { s with nodes := s.nodes.set! id (make xs) }
  return id

/-- Fails if a name is taken. -/
def checkNew (anchor? : Option String) : Reading Unit := do
  match anchor? with
  | none => return ()
  | some name => if ((← get).anchors.lookup name).isSome then throw .malformed

def collectionTag (standard : Tag) : Option String → Tag
  | none => standard
  | some "!" => standard
  | some s => .ofText s

/-- What a scalar is: by its form if it is plain and has no tag, or has the tag `!`. -/
def scalarTag (text : String) (plain : Bool) : Option String → Tag
  | none => if plain then .ofPlain text else .text
  | some "!" => .ofPlain text
  | some s => .ofText s

mutual

/--
Reads a node. Block collections may start only where `block` holds, and a sequence without an
indentation of its own only where `indentless` holds.
-/
def node (handles : Handles) (block indentless : Bool) : Nat → Reading NodeId
  | 0 => throw .malformed
  | bound + 1 => do
    match ← peek with
    | some (.alias name) => do
      drop
      match (← get).anchors.lookup name with
      | some id => return id
      | none => throw .malformed
    | _ => do
      let p ← properties
      let tag? ← fullTag handles p.tag?
      let ahead ← peek
      checkNew p.anchor?
      let sequence := addCollection (.sequence (collectionTag .list tag?)) p.anchor?
      let mapping := addCollection (.mapping (collectionTag .map tag?)) p.anchor?
      match ahead with
      | some (.scalar text plain) => do
        drop
        add (.scalar (scalarTag text plain tag?) text) p.anchor?
      | some .flowSequenceStart => do
        drop
        sequence (flowItems handles true bound)
      | some .flowMappingStart => do
        drop
        mapping (flowEntries handles true bound)
      | some .blockEntry =>
        if indentless then sequence (indentlessItems handles bound) else emptyScalar p tag?
      | some .blockSequenceStart =>
        if block then do
          drop
          sequence (blockItems handles bound)
        else emptyScalar p tag?
      | some .blockMappingStart =>
        if block then do
          drop
          mapping (blockEntries handles bound)
        else emptyScalar p tag?
      | _ => emptyScalar p tag?
where
  /-- A node of which only the name or the tag is written. -/
  emptyScalar (p : Properties) (tag? : Option String) : Reading NodeId :=
    if p.anchor?.isNone && p.tag?.isNone then throw .malformed
    else add (.scalar (scalarTag "" true tag?) "") p.anchor?

/-- Reads a node, or nothing if one of the tokens `ends` is ahead. -/
def nodeUnless (handles : Handles) (ends : List Token) (block indentless : Bool) :
    Nat → Reading NodeId
  | 0 => throw .malformed
  | bound + 1 => do
    if ← at? ends then nothing else node handles block indentless bound

/-- Reads the items of a block sequence and its end. -/
def blockItems (handles : Handles) : Nat → Reading (List NodeId)
  | 0 => throw .malformed
  | bound + 1 => do
    if ← accept .blockEntry then
      let n ← nodeUnless handles [.blockEntry, .blockEnd] true false bound
      return n :: (← blockItems handles bound)
    else if ← accept .blockEnd then return []
    else throw .malformed

/-- Reads the items of a sequence without an end of its own. -/
def indentlessItems (handles : Handles) : Nat → Reading (List NodeId)
  | 0 => throw .malformed
  | bound + 1 => do
    if ← accept .blockEntry then
      let n ← nodeUnless handles [.blockEntry, .key, .value, .blockEnd] true false bound
      return n :: (← indentlessItems handles bound)
    else return []

/-- Reads the entries of a block mapping and its end. -/
def blockEntries (handles : Handles) : Nat → Reading (List (NodeId × NodeId))
  | 0 => throw .malformed
  | bound + 1 => do
    if ← accept .key then
      let k ← nodeUnless handles [.key, .value, .blockEnd] true true bound
      let v ← valueUnless handles [.key, .value, .blockEnd] true bound
      return (k, v) :: (← blockEntries handles bound)
    else if ← accept .blockEnd then return []
    else throw .malformed

/-- Reads the value behind a key; without a colon it is nothing. -/
def valueUnless (handles : Handles) (ends : List Token) (block : Bool) : Nat → Reading NodeId
  | 0 => throw .malformed
  | bound + 1 => do
    if ← accept .value then nodeUnless handles ends block block bound else nothing

/-- Reads the items of a flow sequence and its end; a pair is a mapping of its own. -/
def flowItems (handles : Handles) (first : Bool) : Nat → Reading (List NodeId)
  | 0 => throw .malformed
  | bound + 1 => do
    if ← accept .flowSequenceEnd then return []
    else
      if !first then
        if !(← accept .flowEntry) then throw .malformed
      if ← accept .key then
        let k ← nodeUnless handles [.value, .flowEntry, .flowSequenceEnd] false false bound
        let v ← valueUnless handles [.flowEntry, .flowSequenceEnd] false bound
        let pair ← add (.mapping .map [(k, v)])
        return pair :: (← flowItems handles false bound)
      else if ← accept .flowSequenceEnd then return []
      else
        let n ← node handles false false bound
        return n :: (← flowItems handles false bound)

/-- Reads the entries of a flow mapping and its end; a node without a colon is a key. -/
def flowEntries (handles : Handles) (first : Bool) : Nat → Reading (List (NodeId × NodeId))
  | 0 => throw .malformed
  | bound + 1 => do
    if ← accept .flowMappingEnd then return []
    else
      if !first then
        if !(← accept .flowEntry) then throw .malformed
      if ← accept .key then
        let k ← nodeUnless handles [.value, .flowEntry, .flowMappingEnd] false false bound
        let v ← valueUnless handles [.flowEntry, .flowMappingEnd] false bound
        return (k, v) :: (← flowEntries handles false bound)
      else if ← accept .flowMappingEnd then return []
      else
        let k ← node handles false false bound
        let v ← nothing
        return (k, v) :: (← flowEntries handles false bound)

end

/-! ### Documents -/

/-- The tag handles that every document has. -/
def standardHandles : Handles := [("!", "!"), ("!!", tagStart)]

/-- Reads directives; each handle has one meaning, and one directive may say the version. -/
def directives : Nat → Bool → Handles → Reading Handles
  | 0, _, handles => return handles
  | bound + 1, versioned, handles => do
    match ← peek with
    | some (.version major) => do
      if versioned || major != 1 then throw .malformed
      drop
      directives bound true handles
    | some (.handle name start) => do
      if (handles.lookup name).isSome then throw .malformed
      drop
      directives bound versioned ((name, start) :: handles)
    | some .otherDirective => do
      drop
      directives bound versioned handles
    | _ => return handles

/-- Whether a directive is ahead. -/
def atDirective : Reading Bool := do
  match ← peek with
  | some (.version _) | some (.handle _ _) | some .otherDirective => return true
  | _ => return false

def skipDocumentEnds : Nat → Reading Unit
  | 0 => return ()
  | bound + 1 => do
    if ← accept .documentEnd then skipDocumentEnds bound

/-- Reads the only document of a text, and gives its root. -/
def document (bound : Nat) : Reading (Option NodeId) := do
  match ← peek with
  | none => return none
  | _ => do
    let id ←
      if (← atDirective) || (← peek) = some .documentStart then do
        let handles ← directives bound false []
        if !(← accept .documentStart) then throw .malformed
        if (← atDirective) || (← at? [.documentStart, .documentEnd]) then nothing
        else node (handles ++ standardHandles) true false bound
      else node standardHandles true false bound
    skipDocumentEnds bound
    if (← peek).isNone then return some id
    else do
      let _ ← directives bound false []
      throw .malformed

end Reading

/-- The nodes of a text, which must hold one document at most. -/
def Graph.ofText? (s : String) : Except Fault (Option Graph) := do
  let ts := tokenize s
  let (root?, state) ←
    (Reading.document (2 * ts.tokens.length + 3)).run { tokens := ts.tokens, fault? := ts.fault? }
  return root?.map fun root => { nodes := state.nodes, root }

end SignalBinding.Yaml
