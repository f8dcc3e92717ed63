import SignalBinding.Calendar
import SignalBinding.Decimal.Binary64

/-!
# Documents

Decoded data: atoms, lists, maps whose keys keep the order of their first entry, and values of other
kinds, into which nothing looks. What looks into data does so level by level, so that it works on a
tree and on data whose parts are shared or lie inside themselves alike.

## Main definitions

- `Atom`: a value without parts
- `Layer`, `Layered`: one level of a value, and values that are looked into level by level
- `Document`: a value as a tree
- `Atom.sameKey`: which keys of a map are the same
- `Entries.put`, `Entries.field`: entries of maps
-/

namespace SignalBinding

/-- A value without parts. -/
inductive Atom
  | null
  | bool (b : Bool)
  | int (n : Int)
  | float (x : Binary64)
  | text (s : String)
  | bytes (b : List UInt8)
  | date (d : Date)
  | moment (t : Moment)
  deriving DecidableEq, Repr, Inhabited

namespace Atom

/-- The integer that a truth value counts as. -/
def truthInt (b : Bool) : Int := if b then 1 else 0

/--
Whether two values are the same key. Numbers are compared by value, and truth values count as the
numbers 0 and 1.
-/
def sameKey : Atom → Atom → Bool
  | null, null => true
  | text s, text t => s == t
  | bytes b, bytes c => b == c
  | date d, date e => d == e
  | moment t, moment u => t.same u
  | bool a, bool b => a == b
  | bool a, int n | int n, bool a => truthInt a == n
  | bool a, float x | float x, bool a => x.isInt (truthInt a)
  | int m, int n => m == n
  | int n, float x | float x, int n => x.isInt n
  | float x, float y => x.sameNumber y
  | _, _ => false

/-- Whether the value is an empty one: null, false, zero, the empty text or no bytes. -/
def isVoid : Atom → Bool
  | null => true
  | bool b => !b
  | int n => n == 0
  | float x => x.isZero
  | text s => s == ""
  | bytes b => b.isEmpty
  | date _ | moment _ => false

end Atom

/-- One level of a value, the parts of which are of type `δ`. -/
inductive Layer (δ : Type)
  | atom (a : Atom)
  | list (items : List δ)
  | map (entries : List (Atom × δ))
  /-- A value of another kind, such as a set or a pair. Nothing looks into it. -/
  | other (isEmpty : Bool)

/-- Whether the value is an empty one: an empty atom, list, map or other value. -/
def Layer.isVoid {δ : Type} : Layer δ → Bool
  | atom a => a.isVoid
  | list items => items.isEmpty
  | map entries => entries.isEmpty
  | other isEmpty => isEmpty

/-- Values that are looked into level by level, and have a text. -/
class Layered (δ : Type) where
  layer : δ → Layer δ
  print : δ → String

export Layered (layer)

/-- A value as a tree. -/
inductive Document
  | atom (a : Atom)
  | list (items : List Document)
  | map (entries : List (Atom × Document))
  /-- A value of another kind, which has a text of its own. -/
  | other (text : String) (isEmpty : Bool)
  deriving Repr, Inhabited

/-- The outermost level of a tree. -/
def Document.layer : Document → Layer Document
  | atom a => .atom a
  | list items => .list items
  | map entries => .map entries
  | other _ isEmpty => .other isEmpty

namespace Entries

/--
Gives a key a value: in its place if it is there, else after all others. Which keys are the same is
for `same` to say.
-/
def put {κ α : Type} (same : κ → κ → Bool) (key : κ) (value : α) : List (κ × α) → List (κ × α)
  | [] => [(key, value)]
  | (k, v) :: rest =>
    if same k key then (k, value) :: rest else (k, v) :: put same key value rest

/-- The entries that come from giving values to keys one after the other. -/
def ofList {κ α : Type} (same : κ → κ → Bool) (entries : List (κ × α)) : List (κ × α) :=
  entries.foldl (fun es e => put same e.1 e.2 es) []

/-- The value of a text key; null if there is none. -/
def field {δ : Type} [Layered δ] (name : String) : List (Atom × δ) → Layer δ
  | [] => .atom .null
  | (k, v) :: rest => if k.sameKey (.text name) then layer v else field name rest

end Entries

end SignalBinding
