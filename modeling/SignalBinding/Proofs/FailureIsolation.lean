import SignalBinding.Proofs.BridgeReport

/-!
# Failing signals take nothing with them

A signal with a type that has no counterpart in C++ has one entry among the skipped signals and
nothing else. All other signals have all of their fragments, as if the failing ones were not there.

## Main definitions

- `Bridge.withoutFailing`: a bridge with its failing signals deleted
- `Bridge.present`: the owners that the signals that do not fail make up
- `Bridge.declared`, `Bridge.failures`: all signals by label, and what is to be said of failing ones
-/

namespace SignalBinding

open Parameter
open TemplateSet (builtinTexts)

variable {text : Texts} {table : NameTable}

/-- What gives nothing may be left out beforehand. -/
theorem flatMap_ite_nil {α β : Type} (p : α → Prop) [DecidablePred p] (f : α → List β)
    (xs : List α) :
    xs.flatMap (fun x => if p x then [] else f x) = (xs.filter (¬ p ·)).flatMap f := by
  induction xs with
  | nil => rfl
  | cons x xs ih =>
    by_cases hx : p x
    · simp [hx, ih]
    · simp [hx, ih]

namespace Object

/-- The object with its failing signals deleted. -/
def withoutFailing (table : NameTable) (o : Object) : Object :=
  { o with signals := o.signals.filter (¬ ·.Failing table) }

/-- The fragments of the signals that do not fail, in declared order. -/
def present (text : Texts) (table : NameTable) (o : Object) : Block :=
  (o.signals.filter (¬ ·.Failing table)).flatMap (Signal.memberPieces text table o.className)

theorem block_group (o : Object) : (o.group text table).block = o.present text table := by
  unfold group Group.block present
  rw [List.flatMap_map, ← flatMap_ite_nil]
  simp only [Signal.memberFate, Signal.block_fate]

end Object

namespace Signal

variable {s : Signal}

theorem not_failing_iff : ¬ s.Failing table ↔ firstRefusal? table s.parameters = none := by
  rw [failing_iff, Bool.not_eq_true, Option.isSome_eq_false_iff, Option.isNone_iff_eq_none]

theorem owners_freeGroup :
    (s.freeGroup text table).owners =
      if s.Failing table then []
      else [{ name := Generation.freeLabel s, block := [s.freePiece text table] }] := by
  have hblock : (s.freeGroup text table).block =
      if s.Failing table then [] else [s.freePiece text table] := by
    rw [Group.block, freeGroup, List.flatMap_singleton, freeFate, block_fate]
  rw [Group.owners, hblock]
  by_cases hs : s.Failing table
  · simp [hs]
  · simp [hs, freeGroup]

end Signal

namespace Bridge

/-- The bridge with its failing signals deleted. -/
def withoutFailing (table : NameTable) (b : Bridge) : Bridge :=
  { b with
    objects := b.objects.map (Object.withoutFailing table)
    freeSignals := b.freeSignals.filter (¬ ·.Failing table) }

/--
What there is apart from failing signals: a class for each object that has fragments, and a helper
for each free signal.
-/
def present (text : Texts) (table : NameTable) (b : Bridge) : List Owner :=
  b.objects.flatMap (fun o =>
      if (o.present text table).isEmpty then []
      else [{ name := o.className, block := o.present text table }]) ++
    (b.freeSignals.filter (¬ ·.Failing table)).map fun s =>
      { name := s.owner ++ "_" ++ s.name.connect.cpp, block := [s.freePiece text table] }

/-- All signals in declared order, those of objects before the free ones, each with its label. -/
def declared (b : Bridge) : List (String × Signal) :=
  b.objects.flatMap (fun o => o.signals.map fun s => (o.className ++ "::" ++ s.name.cpp, s)) ++
    b.freeSignals.map fun s => (s.owner ++ "_" ++ s.name.connect.cpp, s)

theorem mem_declared_of_member (b : Bridge) {o : Object} {s : Signal} (ho : o ∈ b.objects)
    (hs : s ∈ o.signals) : (o.className ++ "::" ++ s.name.cpp, s) ∈ b.declared :=
  List.mem_append_left _ (List.mem_flatMap.2 ⟨o, ho, List.mem_map.2 ⟨s, hs, rfl⟩⟩)

theorem mem_declared_of_free (b : Bridge) {s : Signal} (hs : s ∈ b.freeSignals) :
    (s.owner ++ "_" ++ s.name.connect.cpp, s) ∈ b.declared :=
  List.mem_append_right _ (List.mem_map.2 ⟨s, hs, rfl⟩)

/-- For each failing signal its label, and the message about the first of its types that fails. -/
def failures (table : NameTable) (b : Bridge) : List (String × String) :=
  b.declared.filterMap fun (label, s) =>
    (firstRefusal? table s.parameters).map fun e => (label, e.message)

/-! ### The report -/

/-- Whatever is read off the fragments, the signals that do not fail give it in declared order. -/
theorem flatMap_owners_groups {β : Type} (f : Fragment → List β) (b : Bridge) :
    (Report.ofGroups (b.groups text table)).owners.flatMap (fun w => w.block.flatMap f) =
      b.objects.flatMap (fun o => o.signals.flatMap fun s =>
          if s.Failing table then [] else (s.memberPieces text table o.className).flatMap f) ++
        b.freeSignals.flatMap fun s =>
          if s.Failing table then [] else f (s.freePiece text table) := by
  have hgroup (g : Group) : g.owners.flatMap (fun w => w.block.flatMap f) =
      g.fates.flatMap fun fate => fate.block.flatMap f := by
    have hblock : g.block.flatMap f = g.fates.flatMap fun fate => fate.block.flatMap f := by
      rw [Group.block, List.flatMap_assoc]
    rw [← hblock, Group.owners]
    split
    next hnone => simp [List.isEmpty_iff.1 hnone]
    · simp
  have hmember (o : Object) (s : Signal) :
      (s.memberFate text table o.className).block.flatMap f =
        if s.Failing table then [] else (s.memberPieces text table o.className).flatMap f := by
    rw [Signal.memberFate, Signal.block_fate]
    split <;> rfl
  have hfree (s : Signal) : (s.freeFate text table).block.flatMap f =
      if s.Failing table then [] else f (s.freePiece text table) := by
    rw [Signal.freeFate, Signal.block_fate]
    split <;> simp
  rw [Report.owners_ofGroups, List.flatMap_assoc]
  simp only [hgroup]
  rw [← List.flatMap_assoc, fates_groups, List.flatMap_append, List.flatMap_assoc, List.flatMap_map]
  simp only [List.flatMap_map, hmember, hfree]

theorem owners_groups (b : Bridge) :
    (Report.ofGroups (b.groups text table)).owners = b.present text table := by
  unfold groups present
  rw [Report.owners_ofGroups, List.flatMap_append, List.flatMap_map, List.flatMap_map,
    List.map_eq_flatMap, ← flatMap_ite_nil]
  congr 1
  · simp only [Group.owners, Object.block_group]
    rfl
  · -- Each free signal is an owner of its own, so a failing one takes its owner with it.
    simp only [Signal.owners_freeGroup]
    rfl

theorem skipped_groups (b : Bridge) :
    (Report.ofGroups (b.groups text table)).skipped.map (fun e => (e.label, e.cause.message)) =
      b.failures table := by
  have hentry (label : String) (s : Signal) (block : Block) :
      ((s.fate table label block).skipped?.map fun e => (e.label, e.cause.message)) =
        (firstRefusal? table s.parameters).map fun e => (label, e.message) := by
    rw [Signal.skipped?_fate, Option.map_map]
    rfl
  rw [Report.skipped_eq_filterMap, fates_groups, failures, declared, List.map_filterMap]
  simp only [List.filterMap_append, List.filterMap_flatMap, List.filterMap_map,
    Function.comp_def, Signal.memberFate, Signal.freeFate, hentry]
  rfl

theorem failures_eq_nil_iff (b : Bridge) :
    b.failures table = [] ↔ ∀ d ∈ b.declared, ¬ d.2.Failing table := by
  simp only [failures, List.filterMap_eq_nil_iff, Option.map_eq_none_iff, Signal.not_failing_iff]

/-! ### Without the failing signals -/

theorem declared_withoutFailing (b : Bridge) :
    (b.withoutFailing table).declared = b.declared.filter (¬ ·.2.Failing table) := by
  simp only [declared, withoutFailing, Object.withoutFailing, List.flatMap_map,
    List.filter_append, List.filter_flatMap, List.filter_map]
  rfl

theorem failures_withoutFailing (b : Bridge) : (b.withoutFailing table).failures table = [] := by
  rw [failures_eq_nil_iff, declared_withoutFailing]
  intro d hd
  simpa using (List.mem_filter.1 hd).2

theorem present_withoutFailing (b : Bridge) :
    (b.withoutFailing table).present text table = b.present text table := by
  simp only [present, withoutFailing, Object.present, Object.withoutFailing, List.flatMap_map,
    List.filter_filter, Bool.and_self]
  rfl

end Bridge

/--
Deleting the failing signals changes neither what is generated nor the two files. Each signal that
does not fail has all of its fragments in its place, each failing one has its entry in its place,
and nothing else is there.
-/
theorem Bridge.generate_withoutFailing (b : Bridge) (table? : Option NameTable) :
    let table := b.effectiveTable table?
    ∃ r r', (b.generate table?).result = .ok r ∧
      ((b.withoutFailing table).generate table?).result = .ok r' ∧
      r'.skipped = [] ∧ r'.owners = r.owners ∧ r'.header = r.header ∧ r'.source = r.source ∧
      r.owners = b.present builtinTexts table ∧
      r.skipped.map (fun e => (e.label, e.cause.message)) = b.failures table ∧
      (r.ok = true ↔ ∀ d ∈ b.declared, ¬ d.2.Failing table) := by
  intro table
  have htable : (b.withoutFailing table).effectiveTable table? = table := rfl
  refine ⟨_, _, result_generate_builtin b table?, result_generate_builtin _ table?, ?_⟩
  rw [htable]
  have hskipped : (Report.ofGroups ((b.withoutFailing table).groups builtinTexts table)).skipped.map
      (fun e => (e.label, e.cause.message)) = [] := by
    rw [skipped_groups, failures_withoutFailing]
  have howners : (Report.ofGroups ((b.withoutFailing table).groups builtinTexts table)).owners =
      (Report.ofGroups (b.groups builtinTexts table)).owners := by
    rw [owners_groups, owners_groups, present_withoutFailing]
  have hblocks := congrArg (List.map Owner.block) howners
  refine ⟨List.map_eq_nil_iff.1 hskipped, howners, congrArg Block.headerText hblocks,
    congrArg Block.sourceText hblocks, owners_groups b, skipped_groups b, ?_⟩
  rw [Report.ok, List.isEmpty_iff, ← failures_eq_nil_iff, ← skipped_groups, List.map_eq_nil_iff]

end SignalBinding
