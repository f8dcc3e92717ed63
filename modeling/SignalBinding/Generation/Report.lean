import SignalBinding.Generation.Signal

/-!
# Generating a bridge

All signals of a bridge are generated one by one. A signal with a type that has no
counterpart in C++ is left out and reported; it takes nothing else with it.

## Main definitions

- `Report`: the fragments by owner, and the signals left out
- `Bridge.generate`: the report of a bridge
-/

namespace SignalBinding

open TypeExpr (Unresolved)

/-- The fragments of one class, or of one free signal. -/
structure Owner where
  name : String
  block : Block
  deriving DecidableEq, Repr, Inhabited

/-- A signal that was left out, and the type that is to blame. -/
structure Skipped where
  label : String
  cause : Unresolved
  deriving DecidableEq, Repr, Inhabited

/-- What became of the signals of a bridge. -/
structure Report where
  owners : List Owner := []
  skipped : List Skipped := []
  deriving DecidableEq, Repr, Inhabited

namespace Report

instance : Append Report where
  append r s := ⟨r.owners ++ s.owners, r.skipped ++ s.skipped⟩

/-- Whether no signal was left out. -/
def ok (r : Report) : Bool :=
  r.skipped.isEmpty

def blocks (r : Report) : List Block :=
  r.owners.map Owner.block

/-- The text of the header file. -/
def header (r : Report) : String :=
  Block.headerText r.blocks

/-- The text of the source file. -/
def source (r : Report) : String :=
  Block.sourceText r.blocks

@[simp] theorem owners_append (r s : Report) : (r ++ s).owners = r.owners ++ s.owners := rfl
@[simp] theorem skipped_append (r s : Report) : (r ++ s).skipped = r.skipped ++ s.skipped := rfl

end Report

namespace Generation

/-- Reports about whole bridges. -/
def bridgeReporter : Reporter where
  name? := some "orchestrator"

/-- Says that a signal is left out. -/
def skippedRecord (s : Skipped) : Record :=
  bridgeReporter.record .error ("Skipping " ++ s.label ++ ": " ++ s.cause.message)

/-- Says how many fragments a class has. -/
def blockRecord (owner : String) (block : Block) : Record :=
  { bridgeReporter with owner? := some owner }.record .debug
    ("Generated " ++ toString block.length ++ " fragment(s)")

/-- How a member signal is called in a report. -/
def memberLabel (owner : String) (s : Signal) : String :=
  owner ++ "::" ++ s.name.cpp

/-- How a free signal is called in a report: by the name of its connect helper. -/
def freeLabel (s : Signal) : String :=
  s.owner ++ "_" ++ s.name.connect.cpp

/-- Leaves a signal out. -/
def skip (label : String) (cause : Unresolved) : Journaled TemplateError Skipped := do
  let skipped : Skipped := { label, cause }
  Journaled.tell (skippedRecord skipped)
  return skipped

/-- The fragments and the left-out signals of a class. -/
def memberSignals (templates : TemplateSet) (table : NameTable) (owner : String) :
    List Signal → Journaled TemplateError (Block × List Skipped)
  | [] => return ([], [])
  | s :: rest => do
    match ← s.member templates table owner with
    | .ok fragments =>
      let (block, skipped) ← memberSignals templates table owner rest
      return (fragments ++ block, skipped)
    | .error e =>
      let first ← skip (memberLabel owner s) e
      let (block, skipped) ← memberSignals templates table owner rest
      return (block, first :: skipped)

/-- The report of an object; a class without fragments is no owner. -/
def object (templates : TemplateSet) (table : NameTable) (o : Object) :
    Journaled TemplateError Report := do
  let (block, skipped) ← memberSignals templates table o.className o.signals
  if block.isEmpty then
    return { skipped }
  else
    Journaled.tell (blockRecord o.className block)
    return { owners := [{ name := o.className, block }], skipped }

/-- The report of a free signal. -/
def freeSignal (templates : TemplateSet) (table : NameTable) (s : Signal) :
    Journaled TemplateError Report := do
  match ← s.free templates table with
  | .ok fragment => return { owners := [{ name := freeLabel s, block := [fragment] }] }
  | .error e => return { skipped := [← skip (freeLabel s) e] }

/-- The reports of several things as one. -/
def combine {α : Type} (report : α → Journaled TemplateError Report) :
    List α → Journaled TemplateError Report
  | [] => return {}
  | x :: rest => do
    let r ← report x
    return r ++ (← combine report rest)

end Generation

open Generation

/--
The report of a bridge: the objects in declared order, then the free signals. The entries of
`table?` count before those of the bridge's own table.
-/
def Bridge.generate (b : Bridge) (table? : Option NameTable := none)
    (templates : TemplateSet := TemplateSet.builtin) : Journaled TemplateError Report := do
  let table := b.effectiveTable table?
  let objects ← combine (object templates table) b.objects
  let freeSignals ← combine (freeSignal templates table) b.freeSignals
  return objects ++ freeSignals

end SignalBinding
