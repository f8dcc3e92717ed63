import SignalBinding.Proofs.SignalFate

/-!
# The report of a bridge

Every signal of a bridge has one fate: its fragments are written, or it is skipped. The report says
what the fates are and nothing else, as long as no template fails.

## Main definitions

- `Fate`: what becomes of one signal
- `Group`: the fates of the signals of one class, or of one free signal
- `Report.ofGroups`: the report about some groups
- `Bridge.groups`: the groups of a bridge
-/

namespace SignalBinding

open Generation
open Parameter

/-- What becomes of a signal. -/
inductive Fate
  | written (block : Block)
  | skipped (entry : Skipped)
  deriving DecidableEq, Repr

namespace Fate

def block : Fate → Block
  | written block => block
  | skipped _ => []

def skipped? : Fate → Option Skipped
  | written _ => none
  | skipped entry => some entry

@[simp] theorem block_written (block : Block) : (written block).block = block := rfl
@[simp] theorem block_skipped (entry : Skipped) : (skipped entry).block = [] := rfl
@[simp] theorem skipped?_written (block : Block) : (written block).skipped? = none := rfl
@[simp] theorem skipped?_skipped (entry : Skipped) : (skipped entry).skipped? = some entry := rfl

end Fate

/-- The fates of signals that are reported together, in declared order. -/
structure Group where
  owner : String
  fates : List Fate
  deriving DecidableEq, Repr

namespace Group

def block (g : Group) : Block :=
  g.fates.flatMap Fate.block

def skipped (g : Group) : List Skipped :=
  g.fates.filterMap Fate.skipped?

/-- The owner of the fragments, if there are any. -/
def owners (g : Group) : List Owner :=
  if g.block.isEmpty then [] else [{ name := g.owner, block := g.block }]

end Group

namespace Report

/-- What is reported of some groups. -/
def ofGroups (gs : List Group) : Report where
  owners := gs.flatMap Group.owners
  skipped := gs.flatMap Group.skipped

theorem owners_ofGroups (gs : List Group) :
    (ofGroups gs).owners = gs.flatMap Group.owners := rfl

theorem skipped_eq_filterMap (gs : List Group) :
    (ofGroups gs).skipped = (gs.flatMap Group.fates).filterMap Fate.skipped? :=
  List.filterMap_flatMap.symm

theorem ofGroups_singleton (g : Group) :
    ofGroups [g] = { owners := g.owners, skipped := g.skipped } := by
  simp [ofGroups]

theorem ofGroups_append (gs hs : List Group) :
    ofGroups (gs ++ hs) = ofGroups gs ++ ofGroups hs := by
  change Report.mk _ _ = Report.mk _ _
  simp [ofGroups]

end Report

namespace Signal

/-- What becomes of the signal `label` if `block` is all that is written for it. -/
def fate (table : NameTable) (s : Signal) (label : String) (block : Block) : Fate :=
  match firstRefusal? table s.parameters with
  | some cause => .skipped { label, cause }
  | none => .written block

/-- A signal is written as a whole or not at all. -/
theorem block_fate (table : NameTable) (s : Signal) (label : String) (block : Block) :
    (s.fate table label block).block = if s.Failing table then [] else block := by
  unfold fate
  split
  next h => simp [failing_iff, h]
  next h => simp [failing_iff, h]

theorem skipped?_fate (table : NameTable) (s : Signal) (label : String) (block : Block) :
    (s.fate table label block).skipped? =
      (firstRefusal? table s.parameters).map fun cause => { label, cause } := by
  unfold fate
  split
  next h => simp [h]
  next h => simp [h]

/-- What becomes of a member signal. -/
def memberFate (text : Texts) (table : NameTable) (owner : String) (s : Signal) : Fate :=
  s.fate table (memberLabel owner s) (s.memberPieces text table owner)

/-- What becomes of a free signal. -/
def freeFate (text : Texts) (table : NameTable) (s : Signal) : Fate :=
  s.fate table (freeLabel s) [s.freePiece text table]

end Signal

/-- The fates of the signals of an object. -/
def Object.group (text : Texts) (table : NameTable) (o : Object) : Group where
  owner := o.className
  fates := o.signals.map (Signal.memberFate text table o.className)

/-- A free signal is a group of its own. -/
def Signal.freeGroup (text : Texts) (table : NameTable) (s : Signal) : Group where
  owner := freeLabel s
  fates := [s.freeFate text table]

/-- The groups of a bridge, the objects before the free signals. -/
def Bridge.groups (text : Texts) (table : NameTable) (b : Bridge) : List Group :=
  b.objects.map (Object.group text table) ++ b.freeSignals.map (Signal.freeGroup text table)

theorem Bridge.fates_groups {text : Texts} {table : NameTable} {b : Bridge} :
    (b.groups text table).flatMap Group.fates =
      b.objects.flatMap (fun o => o.signals.map (Signal.memberFate text table o.className)) ++
        b.freeSignals.map (Signal.freeFate text table) := by
  rw [groups, List.flatMap_append, List.flatMap_map, List.flatMap_map, List.map_eq_flatMap]
  rfl

namespace Generation

variable {templates : TemplateSet} {text : Texts} {table : NameTable}

theorem result_memberSignals {owner : String} {signals : List Signal}
    (h : ∀ s ∈ signals, templates.Gives text (memberRenderings table owner s)) :
    (memberSignals templates table owner signals).result =
      .ok ((signals.map (Signal.memberFate text table owner)).flatMap Fate.block,
        (signals.map (Signal.memberFate text table owner)).filterMap Fate.skipped?) := by
  induction signals with
  | nil => rfl
  | cons s signals ih =>
    have hs := Signal.result_member (h s (by simp))
    have hrest := ih fun s' hs' => h s' (List.mem_cons_of_mem _ hs')
    rw [memberSignals, Journaled.result_bind_of_ok hs, List.map_cons, Signal.memberFate,
      Signal.fate, Signal.outcome]
    cases firstRefusal? table s.parameters with
    | none =>
      rw [Journaled.result_bind_of_ok hrest]
      rfl
    | some cause =>
      rw [Journaled.result_bind_of_ok rfl, Journaled.result_bind_of_ok hrest]
      rfl

/-- The report of an object. -/
theorem result_object {o : Object}
    (h : ∀ s ∈ o.signals, templates.Gives text (memberRenderings table o.className s)) :
    (object templates table o).result = .ok (.ofGroups [o.group text table]) := by
  have hmember : (memberSignals templates table o.className o.signals).result =
      .ok ((o.group text table).block, (o.group text table).skipped) := result_memberSignals h
  rw [object, Journaled.result_bind_of_ok hmember, Report.ofGroups_singleton, Group.owners]
  dsimp only
  split
  · rfl
  · rfl

/-- The report of a free signal. -/
theorem result_freeSignal {s : Signal} (h : templates.Gives text (freeRenderings table s)) :
    (freeSignal templates table s).result = .ok (.ofGroups [s.freeGroup text table]) := by
  rw [freeSignal, Journaled.result_bind_of_ok (Signal.result_free h), Signal.freeGroup,
    Signal.freeFate, Signal.fate, Signal.outcome]
  cases firstRefusal? table s.parameters with
  | none => rfl
  | some cause => rfl

/-- The reports of several things, each of them about one group. -/
theorem result_combine {α : Type} {report : α → Journaled TemplateError Report}
    {group : α → Group} {xs : List α}
    (h : ∀ x ∈ xs, (report x).result = .ok (.ofGroups [group x])) :
    (combine report xs).result = .ok (.ofGroups (xs.map group)) := by
  induction xs with
  | nil => rfl
  | cons x xs ih =>
    have hrest := ih fun x' hx' => h x' (List.mem_cons_of_mem _ hx')
    rw [combine, Journaled.result_bind_of_ok (h x (by simp)), Journaled.result_bind_of_ok hrest]
    rw [Journaled.result_pure, ← Report.ofGroups_append]
    rfl

end Generation

/-- If no template fails, the report says what the fates of the signals are. -/
theorem Bridge.result_generate {b : Bridge} {table? : Option NameTable} {templates : TemplateSet}
    {text : Texts} (h : templates.Gives text (b.renderings table?)) :
    (b.generate table? templates).result =
      .ok (.ofGroups (b.groups text (b.effectiveTable table?))) := by
  have hobjects : (combine (object templates (b.effectiveTable table?)) b.objects).result = _ :=
    result_combine fun o ho => result_object fun s hs => h.mono fun r hr =>
      List.mem_append_left _ (List.mem_flatMap.2 ⟨o, ho, List.mem_flatMap.2 ⟨s, hs, hr⟩⟩)
  have hfree :
      (combine (freeSignal templates (b.effectiveTable table?)) b.freeSignals).result = _ :=
    result_combine fun s hs => result_freeSignal <| h.mono fun r hr =>
      List.mem_append_right _ (List.mem_flatMap.2 ⟨s, hs, hr⟩)
  rw [generate, Journaled.result_bind_of_ok hobjects, Journaled.result_bind_of_ok hfree,
    Journaled.result_pure, ← Report.ofGroups_append]
  rfl

theorem Bridge.result_generate_builtin (b : Bridge) (table? : Option NameTable) :
    (b.generate table?).result =
      .ok (.ofGroups (b.groups TemplateSet.builtinTexts (b.effectiveTable table?))) :=
  result_generate (TemplateSet.builtin_gives _)

end SignalBinding
