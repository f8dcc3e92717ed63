import SignalBinding.Document.Text
import SignalBinding.Signal

/-!
# Bridge descriptions

A bridge as a document: a map with the objects, the free signals and the name table. What is null
is as if it were missing, except inside the two parts of the table, where every value has a text.

## Main definitions

- `Place`: where in a document something is
- `Fault`: what is wrong with a document, and where; `Fault.message`
- `tableOf`: the name table of a document
- `Bridge.ofDocument`: the bridge of a document, or the first fault in it
-/

namespace SignalBinding

namespace Description

/-- A step into a document. -/
inductive Step
  | key (name : String)
  | index (i : Nat)
  deriving DecidableEq, Repr, Inhabited

/-- A way into a document, from the root. -/
abbrev Place : Type := List Step

/-- The rest of a place behind its first step. -/
def Place.tailText : Place → String
  | [] => ""
  | .key name :: rest => "." ++ name ++ tailText rest
  | .index i :: rest => "[" ++ toString i ++ "]" ++ tailText rest

/-- A place with points before keys and brackets around indices. -/
def Place.text : Place → String
  | .key name :: rest => name ++ Place.tailText rest
  | place => Place.tailText place

/-- What is wrong with a value. -/
inductive Problem
  | notMap
  | notList
  | notFlag
  | missing (key : String)
  deriving DecidableEq, Repr, Inhabited

/-- A place where a document breaks a rule. -/
structure Fault where
  place : Place
  problem : Problem
  deriving DecidableEq, Repr, Inhabited

def Fault.message (f : Fault) : String :=
  match f.problem, f.place with
  | .notMap, [] => "Bridge description must contain a mapping at the root"
  | .notMap, place => place.text ++ " must be a mapping"
  | .notList, place => place.text ++ " must be a list"
  | .notFlag, place => place.text ++ " must be true or false"
  | .missing key, place => place.text ++ " is missing required key `" ++ key ++ "`"

variable {δ : Type}

/-! ### Values of the kinds that a description has -/

def asMap (place : Place) : Layer δ → Except Fault (List (Atom × δ))
  | .map entries => .ok entries
  | _ => .error { place, problem := .notMap }

/-- A list; null is the empty one. -/
def asList (place : Place) : Layer δ → Except Fault (List δ)
  | .atom .null => .ok []
  | .list items => .ok items
  | _ => .error { place, problem := .notList }

/-- A truth value; null is the one that counts when nothing is said. -/
def asFlag (standard : Bool) (place : Place) : Layer δ → Except Fault Bool
  | .atom .null => .ok standard
  | .atom (.bool b) => .ok b
  | _ => .error { place, problem := .notFlag }

/-- The text of a text or of a number; other values have none here. -/
def asText? : Layer δ → Option String
  | .atom (.text s) => some s
  | .atom (.int n) => some (toString n)
  | .atom (.float x) => some (Document.floatText x)
  | _ => none

variable [Layered δ]

/-- The text under `key`, which must be there and not empty. -/
def required (entries : List (Atom × δ)) (key : String) (place : Place) : Except Fault String :=
  match asText? (Entries.field key entries) with
  | some s => if s = "" then .error { place, problem := .missing key } else .ok s
  | none => .error { place, problem := .missing key }

/-- Reads the items of a list with their places, the first at index `i`. -/
def each {α : Type} (read : Place → Layer δ → Except Fault α) (place : Place) :
    Nat → List δ → Except Fault (List α)
  | _, [] => return []
  | i, d :: rest => do
    let x ← read (place ++ [.index i]) (layer d)
    let xs ← each read place (i + 1) rest
    return x :: xs

/-- Reads the items of the list under `key`. -/
def eachUnder {α : Type} (entries : List (Atom × δ)) (key : String) (place : Place)
    (read : Place → Layer δ → Except Fault α) : Except Fault (List α) := do
  let place := place ++ [.key key]
  each read place 0 (← asList place (Entries.field key entries))

/-! ### The parts of a description -/

def parameterOf (place : Place) (d : Layer δ) : Except Fault Parameter := do
  let entries ← asMap place d
  let ident ← required entries "ident" place
  let type ← required entries "type" place
  return { ident, type }

/-- The signal of a map's entries, on the object `owner`. -/
def signalOf (entries : List (Atom × δ)) (owner : String) (place : Place) :
    Except Fault Signal := do
  let name ← required entries "name" place
  let parameters ← eachUnder entries "parameters" place parameterOf
  let flag (key : String) (standard : Bool) :=
    asFlag standard (place ++ [.key key]) (Entries.field key entries)
  let «mutable» ← flag "mutable" true
  let safe ← flag "safe" true
  let inherit ← flag "inherit" false
  return {
    owner, parameters, «mutable», safe, inherit
    name := .ofRust name (asText? (Entries.field "cxx_name" entries)) }

/-- A signal of the object `owner`. -/
def memberOf (owner : String) (place : Place) (d : Layer δ) : Except Fault Signal := do
  signalOf (← asMap place d) owner place

def objectOf (place : Place) (d : Layer δ) : Except Fault Object := do
  let entries ← asMap place d
  let ident ← required entries "ident" place
  let signals ← eachUnder entries "signals" place (memberOf ident)
  return { ident, signals, cppName? := asText? (Entries.field "cxx_name" entries) }

/-- A signal that names its object itself. -/
def freeSignalOf (place : Place) (d : Layer δ) : Except Fault Signal := do
  let entries ← asMap place d
  let owner ← required entries "qobject" place
  signalOf entries owner place

/-- Names and their texts; any value may stand for its text. -/
def glossaryOf (place : Place) : Layer δ → Except Fault Glossary
  | .atom .null => return {}
  | d => do
    let entries ← asMap place d
    return .ofList (entries.map fun (k, v) => (k.print, Layered.print v))

/-- The name table of a document. -/
def tableOf : Layer δ → Except Fault NameTable
  | .atom .null => return {}
  | d => do
    let place := [.key "mappings"]
    let entries ← asMap place d
    let part (key : String) := glossaryOf (place ++ [.key key]) (Entries.field key entries)
    let renames ← part "cxx_names"
    let namespaces ← part "namespaces"
    return { renames, namespaces }

end Description

open Description

/-- The bridge that a document describes. -/
def Bridge.ofDocument {δ : Type} [Layered δ] (d : δ) : Except Fault Bridge := do
  let entries ← asMap [] (layer d)
  let objects ← eachUnder entries "qobjects" [] objectOf
  let freeSignals ← eachUnder entries "free_signals" [] freeSignalOf
  let table ← tableOf (Entries.field "mappings" entries)
  return { table, objects, freeSignals }

end SignalBinding
