import SignalBinding.Bridge.Description

/-!
# The form of a bridge description

Which documents describe a bridge, and which bridge each of them describes, said without the order
in which a document is read and without places in it. A form says what a value has to be; the image
of a value is what it describes, entry by entry, and has a meaning for all values.

## Main definitions

- `Entries.value?`: the value of a key, if the key is there
- `Requires`, `Allows`: what a map says of the value of a key
- `IsBridge`, and the forms of its parts before it
- `bridgeImage`, and the images of its parts before it
-/

namespace SignalBinding

variable {δ : Type}

/-- The value of a key, if the key is there. -/
def Entries.value? (key : Atom) (entries : List (Atom × δ)) : Option δ :=
  (entries.find? fun e => e.1.sameKey key).map Prod.snd

/-- A key that is not there counts as null. -/
theorem Entries.field_eq_value? [Layered δ] (key : String) (entries : List (Atom × δ)) :
    field key entries = ((value? (.text key) entries).map layer).getD (.atom .null) := by
  induction entries with
  | nil => rfl
  | cons e entries ih =>
    obtain ⟨k, v⟩ := e
    cases hk : k.sameKey (.text key) with
    | true => simp [field, value?, hk]
    | false => simpa [field, value?, hk] using ih

namespace Description

/-! ### Forms of values -/

/-- A text that may stand where one is required: not the empty one, but any number. -/
def IsText : Layer δ → Prop
  | .atom (.text s) => s ≠ ""
  | .atom (.int _) => True
  | .atom (.float _) => True
  | _ => False

def IsFlag : Layer δ → Prop
  | .atom (.bool _) => True
  | _ => False

def IsMap : Layer δ → Prop
  | .map _ => True
  | _ => False

/-- A map of which the entries are as `p` says. -/
def IsMapWith (p : List (Atom × δ) → Prop) : Layer δ → Prop
  | .map entries => p entries
  | _ => False

section

variable [Layered δ]

def IsListOf (p : Layer δ → Prop) : Layer δ → Prop
  | .list items => ∀ d ∈ items, p (layer d)
  | _ => False

/-- The key is there, and its value has the form `p`. -/
def Requires (key : String) (p : Layer δ → Prop) (entries : List (Atom × δ)) : Prop :=
  ∃ d, Entries.value? (.text key) entries = some d ∧ p (layer d)

/-- The key is not there, or its value is null or has the form `p`. -/
def Allows (key : String) (p : Layer δ → Prop) (entries : List (Atom × δ)) : Prop :=
  ∀ d, Entries.value? (.text key) entries = some d → layer d = .atom .null ∨ p (layer d)

/-! ### Forms of the parts of a description -/

structure IsParameter (entries : List (Atom × δ)) : Prop where
  ident : Requires "ident" IsText entries
  type : Requires "type" IsText entries

structure IsSignal (entries : List (Atom × δ)) : Prop where
  name : Requires "name" IsText entries
  parameters : Allows "parameters" (IsListOf (IsMapWith IsParameter)) entries
  «mutable» : Allows "mutable" IsFlag entries
  safe : Allows "safe" IsFlag entries
  inherit : Allows "inherit" IsFlag entries

structure IsObject (entries : List (Atom × δ)) : Prop where
  ident : Requires "ident" IsText entries
  signals : Allows "signals" (IsListOf (IsMapWith IsSignal)) entries

structure IsFreeSignal (entries : List (Atom × δ)) : Prop where
  owner : Requires "qobject" IsText entries
  signal : IsSignal entries

structure IsTable (entries : List (Atom × δ)) : Prop where
  renames : Allows "cxx_names" IsMap entries
  namespaces : Allows "namespaces" IsMap entries

structure IsBridge (entries : List (Atom × δ)) : Prop where
  objects : Allows "qobjects" (IsListOf (IsMapWith IsObject)) entries
  freeSignals : Allows "free_signals" (IsListOf (IsMapWith IsFreeSignal)) entries
  table : Allows "mappings" (IsMapWith IsTable) entries

end

/-! ### Images -/

/-- The items of a list; other values have none. -/
def itemsOf : Layer δ → List δ
  | .list items => items
  | _ => []

/-- The entries of a map; other values have none. -/
def entriesOf : Layer δ → List (Atom × δ)
  | .map entries => entries
  | _ => []

/-- The truth value that is given, or else `standard`. -/
def flagOf (standard : Bool) : Layer δ → Bool
  | .atom (.bool b) => b
  | _ => standard

/-- The text of a text or a number; other values count as the empty text. -/
def textOf (d : Layer δ) : String :=
  (asText? d).getD ""

variable [Layered δ]

open Entries (field)

def parameterImage (d : Layer δ) : Parameter where
  ident := textOf (field "ident" (entriesOf d))
  type := textOf (field "type" (entriesOf d))

/-- The C++ name is derived from the Rust name unless one that is not empty is given. -/
def nameImage (entries : List (Atom × δ)) : NamePair where
  rust := textOf (field "name" entries)
  cpp :=
    if textOf (field "cxx_name" entries) = "" then
      Naming.lowerCamel (textOf (field "name" entries))
    else textOf (field "cxx_name" entries)

def signalImage (owner : String) (d : Layer δ) : Signal where
  owner
  name := nameImage (entriesOf d)
  parameters := (itemsOf (field "parameters" (entriesOf d))).map fun p => parameterImage (layer p)
  «mutable» := flagOf true (field "mutable" (entriesOf d))
  safe := flagOf true (field "safe" (entriesOf d))
  inherit := flagOf false (field "inherit" (entriesOf d))

def objectImage (d : Layer δ) : Object where
  ident := textOf (field "ident" (entriesOf d))
  cppName? := asText? (field "cxx_name" (entriesOf d))
  signals := (itemsOf (field "signals" (entriesOf d))).map fun s =>
    signalImage (textOf (field "ident" (entriesOf d))) (layer s)

def freeSignalImage (d : Layer δ) : Signal :=
  signalImage (textOf (field "qobject" (entriesOf d))) d

/-- The texts of the keys and of their values, whatever they are. -/
def glossaryImage (d : Layer δ) : Glossary :=
  .ofList ((entriesOf d).map fun (k, v) => (k.print, Layered.print v))

def tableImage (d : Layer δ) : NameTable where
  renames := glossaryImage (field "cxx_names" (entriesOf d))
  namespaces := glossaryImage (field "namespaces" (entriesOf d))

def bridgeImage (d : Layer δ) : Bridge where
  objects := (itemsOf (field "qobjects" (entriesOf d))).map fun o => objectImage (layer o)
  freeSignals :=
    (itemsOf (field "free_signals" (entriesOf d))).map fun s => freeSignalImage (layer s)
  table := tableImage (field "mappings" (entriesOf d))

/-! ### Forms and the values that count -/

variable {key : String} {p : Layer δ → Prop} {entries : List (Atom × δ)}

theorem allows_iff :
    Allows key p entries ↔ field key entries = .atom .null ∨ p (field key entries) := by
  rw [Entries.field_eq_value?, Allows]
  cases Entries.value? (.text key) entries <;> simp

theorem requires_iff (hp : ¬ p (.atom .null)) : Requires key p entries ↔ p (field key entries) := by
  rw [Entries.field_eq_value?, Requires]
  cases Entries.value? (.text key) entries <;> simp [hp]

end Description

end SignalBinding
