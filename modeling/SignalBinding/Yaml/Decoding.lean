import SignalBinding.Yaml.Value

/-!
# From YAML to values

The value of a YAML text. A node that is a scalar has its value at once. A list, map or set is there
before its parts, which are decoded later, in the order in which these values were met. So a value
may have itself as a part, and of several faults the one nearest to the root counts.

Entries that a mapping takes over from others come before its own, and a later entry for a key
replaces the value of an earlier one.

## Main definitions

- `Decoding`: a step on the way from nodes to values
- `takeOver`: the entries that a mapping takes over from others
- `Decoder`, `decode`: the value of a text
-/

namespace SignalBinding.Yaml

/-- What is known on the way from nodes to values. -/
structure DecodeState where
  /-- The nodes, which change where entries are taken over. -/
  nodes : Array Node
  /-- The values so far. -/
  cells : Array (Option Cell)
  /-- The lists, maps and sets so far, in the order in which they were met. -/
  collections : Array NodeId := #[]

/-- A step on the way from nodes to values. -/
abbrev Decoding : Type → Type := StateT DecodeState (Except Fault)

namespace Decoding

def nodeAt (id : NodeId) : Decoding Node := do
  return (← get).nodes[id]?.getD default

def cellAt (id : NodeId) : Decoding (Option Cell) := do
  return (← get).cells[id]?.join

def setCell (id : NodeId) (c : Cell) : Decoding Unit :=
  modify fun s => { s with cells := s.cells.set! id (some c) }

/-! ### Values without parts -/

/--
The text of a node where a scalar is wanted. A mapping with a key `=` stands for the value of that
key. A mapping that stands for itself has no text; the bound finds it out.
-/
def scalarText? (nodes : Array Node) : Nat → NodeId → Option String
  | 0, _ => none
  | bound + 1, id =>
    match nodes[id]? with
    | some (.scalar _ s) => some s
    | some (.mapping _ entries) =>
      match entries.find? fun (k, _) => (nodes[k]?.map Node.tag) == some .value with
      | some (_, v) => scalarText? nodes bound v
      | none => none
    | _ => none

/-- The value of a node with a tag for values without parts. -/
def single (id : NodeId) (tag : Tag) : Decoding Single := do
  let nodes := (← get).nodes
  match scalarText? nodes (nodes.size + 1) id with
  | none => throw .malformed
  | some s => return { atom := ← tag.convert s, origin? := if isNanText s then none else some id }

/-! ### Lists and maps -/

/-- Begins the value of a node if it is not there yet. -/
def start (id : NodeId) : Decoding Unit := do
  if (← cellAt id).isNone then
    let collection (c : Cell) : Decoding Unit := do
      setCell id c
      modify fun s => { s with collections := s.collections.push id }
    match (← nodeAt id).tag with
    | .list | .pairs => collection (.list [])
    | .map => collection (.map [])
    | .set => collection (.set [])
    | tag => setCell id (.single (← single id tag))

def entriesAt (id : NodeId) : Decoding (List (NodeId × NodeId)) := do
  match ← nodeAt id with
  | .mapping _ entries => return entries
  | _ => return []

def setEntries (id : NodeId) (entries : List (NodeId × NodeId)) : Decoding Unit := do
  let n : Node := .mapping (← nodeAt id).tag entries
  modify fun s => { s with nodes := s.nodes.set! id n }

/-- Makes the key `=` of a mapping an ordinary text, wherever else it stands. -/
def settleKey (id : NodeId) : Decoding Unit := do
  let n ← nodeAt id
  if n.tag = .value then
    modify fun s => { s with nodes := s.nodes.set! id (n.withTag .text) }

mutual

/--
Makes a mapping take over what its merge keys name, so that no such key is left. The entries `taken`
have been taken over so far. Each round drops a merge key, which bounds their number.
-/
def takeOver : Nat → List (NodeId × NodeId) → NodeId → Decoding Unit
  | 0, _, _ => throw .malformed
  | bound + 1, taken, id => do
    let entries ← entriesAt id
    let nodes := (← get).nodes
    let isOwn (e : NodeId × NodeId) : Bool := (nodes[e.1]?.map Node.tag) != some .merge
    match entries.span isOwn with
    | (_, []) => do
      entries.forM fun (k, _) => settleKey k
      setEntries id (taken ++ entries)
    | (before, (_, source) :: after) => do
      setEntries id (before ++ after)
      let more ← sourceEntries bound source
      takeOver bound (taken ++ more) id

/-- The entries to take over from a node: a mapping, or a sequence of mappings, of which the last
comes first. -/
def sourceEntries : Nat → NodeId → Decoding (List (NodeId × NodeId))
  | 0, _ => throw .malformed
  | bound + 1, id => do
    match ← nodeAt id with
    | .mapping _ _ => mappingEntries bound id
    | .sequence _ items => do
      let parts ← items.mapM fun item => do
        match ← nodeAt item with
        | .mapping _ _ => mappingEntries bound item
        | _ => throw .malformed
      return parts.reverse.flatten
    | .scalar _ _ => throw .malformed

/-- All entries of a mapping, with those that it takes over itself. -/
def mappingEntries : Nat → NodeId → Decoding (List (NodeId × NodeId))
  | 0, _ => throw .malformed
  | bound + 1, id => do
    takeOver bound [] id
    entriesAt id

end

/-- The key that a node denotes; lists and maps are no keys. -/
def key (id : NodeId) : Decoding Single := do
  start id
  match ← cellAt id with
  | some (.single a) => return a
  | _ => throw .malformed

def entry (e : NodeId × NodeId) : Decoding (Single × NodeId) := do
  let k ← key e.1
  start e.2
  return (k, e.2)

/-- The value of an item of a list of pairs: the one entry of a mapping. It comes behind the values
of all nodes. -/
def pair (item : NodeId) : Decoding NodeId := do
  match ← nodeAt item with
  | .mapping _ [(first, second)] =>
    start first
    start second
    modifyGet fun s => (s.cells.size, { s with cells := s.cells.push (some (.pair first second)) })
  | _ => throw .malformed

/-- Decodes the parts of a list, map or set. -/
def fill (bound : Nat) (id : NodeId) : Decoding Unit := do
  match ← nodeAt id with
  | .sequence .list items => do
    items.forM start
    setCell id (.list items)
  | .sequence .pairs items => do
    setCell id (.list (← items.mapM pair))
  | .mapping .map _ => do
    let entries ← mappingEntries bound id
    setCell id (.map (Entries.ofList Single.sameKey (← entries.mapM entry)))
  | .mapping .set _ => do
    let entries ← mappingEntries bound id
    setCell id (.set ((Entries.ofList Single.sameKey (← entries.mapM entry)).map Prod.fst))
  | _ => throw .malformed

/-- Decodes the parts of the lists, maps and sets from the one with the number `i` on. Each node is
among them at most once, which bounds their number. -/
def fillFrom (bound : Nat) : Nat → Nat → Decoding Unit
  | 0, _ => return ()
  | rounds + 1, i => do
    match (← get).collections[i]? with
    | none => return ()
    | some id => do
      fill bound id
      fillFrom bound rounds (i + 1)

end Decoding

/-- The number of entries of all mappings. -/
def Graph.entryCount (g : Graph) : Nat :=
  g.nodes.foldl (fun n node =>
    match node with
    | .mapping _ entries => n + entries.length
    | _ => n) 0

open Decoding in
/-- The value of the root. -/
def Graph.decode (g : Graph) : Except Fault Value := do
  let size := g.nodes.size
  let steps : Decoding Unit := do
    start g.root
    fillFrom (3 * g.entryCount + 4) size 0
  let (_, s) ← steps.run { nodes := g.nodes, cells := Array.replicate size none }
  return { cells := s.cells, id := g.root }

/-- What gives texts their values. -/
abbrev Decoder : Type := String → Except Fault Value

/-- The value of a text; null for a text without a document. -/
def decode : Decoder := fun s => do
  match ← Graph.ofText? s with
  | none => return .null
  | some g => g.decode

end SignalBinding.Yaml
