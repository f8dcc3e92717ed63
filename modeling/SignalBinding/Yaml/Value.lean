import SignalBinding.Document.Text
import SignalBinding.Yaml.Node

/-!
# Values of YAML texts

What the nodes of a text denote. Each node has one value, which may be a part of several values and
even of itself. Values are therefore kept side by side, one for each node that has one, and are
looked into level by level.

In a text, a value that lies inside itself is cut short where it comes up for the second time.

## Main definitions

- `Single`: an atom that remembers where it comes from
- `Cell`: the value of one node
- `Value`: a value of a text; `Value.layer`, `Value.print`
-/

namespace SignalBinding.Yaml

/-- A value without parts. -/
structure Single where
  atom : Atom
  /-- The node that it comes from. Where several nodes denote one and the same value, there is
  none. -/
  origin? : Option NodeId := none
  deriving DecidableEq, Repr, Inhabited

def Single.isNan (a : Single) : Bool :=
  match a.atom with
  | .float x => x.value == .nan
  | _ => false

/-- Whether two values are the same key. A NaN is the same key as itself. -/
def Single.sameKey (a b : Single) : Bool :=
  a.atom.sameKey b.atom || (a.isNan && b.isNan && a.origin? == b.origin?)

/-- The value of a node. The parts of a list, pair or map are the values of the given nodes. -/
inductive Cell
  | single (a : Single)
  | list (items : List NodeId)
  | pair (first second : NodeId)
  | map (entries : List (Single × NodeId))
  /-- A set, with its members in the order of the text. -/
  | set (members : List Single)
  deriving DecidableEq, Repr, Inhabited

/-- The value of one of the nodes of a text. -/
structure Value where
  cells : Array (Option Cell)
  id : NodeId
  deriving DecidableEq, Inhabited

namespace Value

/-- The value null. -/
def null : Value where
  cells := #[]
  id := 0

/-- The cell of a value; null stands for a value that there is not. -/
def cell (v : Value) : Cell :=
  (v.cells[v.id]?.join).getD (.single { atom := .null })

/-- The outermost level of a value. -/
def layer (v : Value) : Layer Value :=
  match v.cell with
  | .single a => .atom a.atom
  | .list items => .list (items.map fun id => { v with id })
  | .map entries => .map (entries.map fun (k, id) => (k.atom, { v with id }))
  | .pair _ _ => .other false
  | .set members => .other members.isEmpty

/--
A value inside the lists, pairs and maps `around`. No more values can be inside each other without
one coming up twice than there are, which bounds the depth.
-/
def inner : Nat → List NodeId → Value → String
  | 0, _, _ => ""
  | bound + 1, around, v =>
    let part (id : NodeId) : String := inner bound (v.id :: around) { v with id }
    match v.cell with
    | .single a => a.atom.inner
    | .list items =>
      if v.id ∈ around then "[...]" else Document.listText (items.map part)
    | .pair first second =>
      if v.id ∈ around then "(...)" else Document.pairText (part first) (part second)
    | .map entries =>
      if v.id ∈ around then "\x7b...\x7d"
      else Document.mapText (entries.map fun (k, id) => (k.atom.inner, part id))
    | .set members => Document.setText (members.map (·.atom.inner))

/-- A value on its own. -/
def print (v : Value) : String :=
  match v.cell with
  | .single a => a.atom.print
  | _ => inner (v.cells.size + 1) [] v

instance : Layered Value where
  layer := Value.layer
  print := Value.print

end Value

end SignalBinding.Yaml
