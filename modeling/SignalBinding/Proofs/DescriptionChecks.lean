import SignalBinding.Proofs.DescriptionForm

/-!
# The checks of a bridge description

What a description says of its document, rule by rule in the order of the document: which rule there
is at which place. The table does not say what a reader does when a rule is broken, and a rule is
looked at where its place leads to from the root.

## Main definitions

- `Rule`, `Rule.Holds`: what may be said of a value
- `valueAt?`: the value at a place
- `Check`: a rule at a place; `Check.Respected`, `Check.Violated`, `Check.IsFirstViolated`
- `bridgeChecks`: all checks of a description in order, and those of its parts before it
-/

namespace SignalBinding

namespace Description

variable {δ : Type}

/-! ### Rules and places -/

/-- What a description says of a value. -/
inductive Rule
  | map
  /-- A map; nothing need be there. -/
  | optionalMap
  /-- A list; nothing need be there. -/
  | list
  /-- A truth value; nothing need be there. -/
  | flag
  /-- A map with a text that is not empty under the key. -/
  | text (key : String)
  deriving DecidableEq, Repr

/-- What is wrong where the rule is broken. -/
def Rule.problem : Rule → Problem
  | map | optionalMap => .notMap
  | list => .notList
  | flag => .notFlag
  | text key => .missing key

variable [Layered δ]

def Rule.Holds : Rule → Layer δ → Prop
  | map, d => IsMap d
  | optionalMap, d => d = .atom .null ∨ IsMap d
  | list, d => d = .atom .null ∨ ∃ items, d = .list items
  | flag, d => d = .atom .null ∨ IsFlag d
  | text key, d => IsMapWith (Requires key IsText) d

/-- The value at a place, if all indices on the way are in range. A key that is not there counts as
null. -/
def valueAt? : Place → Layer δ → Option (Layer δ)
  | [], d => some d
  | .key name :: place, .map entries => valueAt? place (Entries.field name entries)
  | .index i :: place, .list items => items[i]?.bind fun d => valueAt? place (layer d)
  | _ :: _, _ => none

@[simp] theorem valueAt?_nil (d : Layer δ) : valueAt? [] d = some d := by
  cases d <;> rfl

@[simp] theorem valueAt?_key (name : String) (place : Place) (entries : List (Atom × δ)) :
    valueAt? (.key name :: place) (.map entries) = valueAt? place (Entries.field name entries) :=
  rfl

@[simp] theorem valueAt?_index (i : Nat) (place : Place) (items : List δ) :
    valueAt? (.index i :: place) (.list items) =
      items[i]?.bind fun d => valueAt? place (layer d) :=
  rfl

/-! ### Checks -/

/-- A rule for the value at a place. -/
structure Check where
  place : Place
  rule : Rule
  deriving DecidableEq, Repr

namespace Check

/-- The value is there, and the rule holds of it. -/
def Respected (d : Layer δ) (c : Check) : Prop :=
  ∃ v, valueAt? c.place d = some v ∧ c.rule.Holds v

/-- The value is there, and the rule does not hold of it. -/
def Violated (d : Layer δ) (c : Check) : Prop :=
  ∃ v, valueAt? c.place d = some v ∧ ¬c.rule.Holds v

/-- The first of some checks that is violated; those before it are respected. -/
def IsFirstViolated (checks : List Check) (d : Layer δ) (c : Check) : Prop :=
  ∃ before after, checks = before ++ c :: after ∧ (∀ b ∈ before, b.Respected d) ∧ c.Violated d

/-- The same check, for the part of a value that a step leads to. -/
def under (step : Step) (c : Check) : Check :=
  { c with place := step :: c.place }

/-- The fault in a document that breaks the rule, which is about the part at `place`. -/
def fault (place : Place) (c : Check) : Fault where
  place := place ++ c.place
  problem := c.rule.problem

/-- What a user is told who has broken the rule. -/
def complaint (c : Check) : String :=
  match c.place, c.rule with
  | [], .map | [], .optionalMap => "Bridge description must contain a mapping at the root"
  | place, .map | place, .optionalMap => place.text ++ " must be a mapping"
  | place, .list => place.text ++ " must be a list"
  | place, .flag => place.text ++ " must be true or false"
  | place, .text key => place.text ++ " is missing required key `" ++ key ++ "`"

end Check

/-! ### The checks of a description -/

/-- A map is checked for being one, and then as `inside` says. -/
def mapChecks (rule : Rule) (inside : List (Atom × δ) → List Check) (d : Layer δ) : List Check :=
  { place := [], rule } ::
    match d with
    | .map entries => inside entries
    | _ => []

/-- A list is checked for being one, and then item by item. -/
def listChecks (checks : Layer δ → List Check) (d : Layer δ) : List Check :=
  { place := [], rule := .list } ::
    (itemsOf d).zipIdx.flatMap fun (item, i) => (checks (layer item)).map (.under (.index i))

/-- The checks of the value of a key. -/
def fieldChecks (key : String) (checks : Layer δ → List Check) (entries : List (Atom × δ)) :
    List Check :=
  (checks (Entries.field key entries)).map (.under (.key key))

def parameterChecks : Layer δ → List Check :=
  mapChecks .map fun _ =>
    [{ place := [], rule := .text "ident" }, { place := [], rule := .text "type" }]

def signalChecks (entries : List (Atom × δ)) : List Check :=
  [{ place := [], rule := .text "name" }] ++
    fieldChecks "parameters" (listChecks parameterChecks) entries ++
    ["mutable", "safe", "inherit"].map fun key => { place := [.key key], rule := .flag }

def memberChecks : Layer δ → List Check :=
  mapChecks .map signalChecks

def objectChecks : Layer δ → List Check :=
  mapChecks .map fun entries =>
    [{ place := [], rule := .text "ident" }] ++
      fieldChecks "signals" (listChecks memberChecks) entries

def freeSignalChecks : Layer δ → List Check :=
  mapChecks .map fun entries =>
    [{ place := [], rule := .text "qobject" }] ++ signalChecks entries

def tableChecks : Layer δ → List Check :=
  mapChecks .optionalMap fun _ =>
    ["cxx_names", "namespaces"].map fun key => { place := [.key key], rule := .optionalMap }

/-- All checks of a description, in the order of the document. -/
def bridgeChecks : Layer δ → List Check :=
  mapChecks .map fun entries =>
    fieldChecks "qobjects" (listChecks objectChecks) entries ++
      fieldChecks "free_signals" (listChecks freeSignalChecks) entries ++
      fieldChecks "mappings" tableChecks entries

end Description

end SignalBinding
