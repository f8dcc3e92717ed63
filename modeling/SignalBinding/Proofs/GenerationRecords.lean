import Mathlib.Data.List.Basic
import SignalBinding.Proofs.FailureIsolation

/-!
# The records of a generation

The log of a generation tells what its report says: for each signal that it is written or why it is
left out, and for each class with fragments how many it has. Nothing else is told, and nothing
twice.

## Main definitions

- `Signal.told`: what is told of one signal
- `Object.records`, `Bridge.records`: what is told of an object and of a bridge
- `Report.pairs`: the connect helpers in a report
- `Bridge.helpers`: the connect helper of each signal, with the record that it is written

## Main statement

- `Bridge.records_tell_report`: the records are these, and they match what is in the report
-/

namespace SignalBinding

open Generation
open Parameter
open TemplateSet (builtinTexts)

variable {text : Texts} {table : NameTable} {templates : TemplateSet}

namespace Journaled

variable {ε α β : Type}

theorem records_bind_of_ok {x : Journaled ε α} {a : α} {f : α → Journaled ε β}
    (h : x.result = .ok a) : (x >>= f).records = x.records ++ (f a).records := by
  rw [bind_of_ok f h]

/-- A result that is turned into another one makes no further records. -/
theorem records_bind_pure (x : Journaled ε α) (f : α → β) :
    (x >>= fun a => pure (f a)).records = x.records := by
  cases h : x.result with
  | error e => rw [bind_of_error _ h]
  | ok a => rw [records_bind_of_ok h, records_pure, List.append_nil]

end Journaled

/-! ### Signals -/

namespace Signal

/-- What is told of the signal `label`: that it is written, or why it is left out. -/
def told (table : NameTable) (s : Signal) (label : String) (written : Record) : Record :=
  match firstRefusal? table s.parameters with
  | some cause => skippedRecord { label, cause }
  | none => written

def memberTold (table : NameTable) (owner : String) (s : Signal) : Record :=
  s.told table (memberLabel owner s) (memberRecord owner s)

/-- A free signal is told of by the C++ type of the object that it is on. -/
def freeTold (table : NameTable) (s : Signal) : Record :=
  s.told table (freeLabel s) (freeRecord (table.cppName s.owner) s)

/-- Templates are used after the record is made, and make no records. -/
theorem records_member (templates : TemplateSet) (table : NameTable) (owner : String) (s : Signal) :
    (s.member templates table owner).records =
      match firstRefusal? table s.parameters with
      | some _ => []
      | none => [memberRecord owner s] := by
  rw [member_eq]
  cases firstRefusal? table s.parameters with
  | some cause => rfl
  | none =>
    dsimp only
    rw [Journaled.records_bind_of_ok rfl, Journaled.records_bind_pure]
    rfl

theorem records_free (templates : TemplateSet) (table : NameTable) (s : Signal) :
    (s.free templates table).records =
      match firstRefusal? table s.parameters with
      | some _ => []
      | none => [freeRecord (table.cppName s.owner) s] := by
  rw [free_eq]
  cases firstRefusal? table s.parameters with
  | some cause => rfl
  | none =>
    dsimp only
    rw [Journaled.records_bind_of_ok rfl, Journaled.records_bind_pure]
    rfl

end Signal

/-! ### Objects and bridges -/

/-- What is told of an object: its signals in declared order, and how many fragments it has. -/
def Object.records (text : Texts) (table : NameTable) (o : Object) : List Record :=
  o.signals.map (Signal.memberTold table o.className) ++
    if (o.present text table).length = 0 then []
    else [blockRecord o.className (o.present text table)]

/-- What is told of a bridge: the objects in declared order, and then the free signals. -/
def Bridge.records (text : Texts) (table : NameTable) (b : Bridge) : List Record :=
  b.objects.flatMap (Object.records text table) ++ b.freeSignals.map (Signal.freeTold table)

namespace Generation

theorem records_memberSignals {owner : String} {signals : List Signal}
    (h : ∀ s ∈ signals, templates.Gives text (memberRenderings table owner s)) :
    (memberSignals templates table owner signals).records =
      signals.map (Signal.memberTold table owner) := by
  induction signals with
  | nil => rfl
  | cons s signals ih =>
    have hs := Signal.result_member (h s (by simp))
    have hrest := fun s' hs' => h s' (List.mem_cons_of_mem s hs')
    have hrecords := Signal.records_member templates table owner s
    rw [Signal.outcome] at hs
    rw [memberSignals, Journaled.records_bind_of_ok hs, hrecords, List.map_cons, Signal.memberTold,
      Signal.told]
    cases firstRefusal? table s.parameters with
    | none =>
      dsimp only
      rw [Journaled.records_bind_pure, ih hrest]
      rfl
    | some cause =>
      dsimp only
      rw [Journaled.records_bind_of_ok rfl, Journaled.records_bind_pure, ih hrest]
      rfl

theorem records_object {o : Object}
    (h : ∀ s ∈ o.signals, templates.Gives text (memberRenderings table o.className s)) :
    (object templates table o).records = o.records text table := by
  have hmember : (memberSignals templates table o.className o.signals).result =
      .ok ((o.group text table).block, (o.group text table).skipped) := result_memberSignals h
  rw [object, Journaled.records_bind_of_ok hmember, records_memberSignals h, Object.block_group,
    Object.records]
  dsimp only
  cases o.present text table <;> rfl

theorem records_freeSignal {s : Signal} (h : templates.Gives text (freeRenderings table s)) :
    (freeSignal templates table s).records = [s.freeTold table] := by
  have hs := Signal.result_free h
  rw [Signal.outcome] at hs
  rw [freeSignal, Journaled.records_bind_of_ok hs, Signal.records_free, Signal.freeTold,
    Signal.told]
  cases firstRefusal? table s.parameters with
  | none => rfl
  | some cause => rfl

/-- Several things are told of one after the other, as long as each of them is reported on. -/
theorem records_combine {α : Type} {report : α → Journaled TemplateError Report}
    {records : α → List Record} {xs : List α} (hok : ∀ x ∈ xs, ∃ r, (report x).result = .ok r)
    (h : ∀ x ∈ xs, (report x).records = records x) :
    (combine report xs).records = xs.flatMap records := by
  induction xs with
  | nil => rfl
  | cons x xs ih =>
    obtain ⟨⟨r, hr⟩, hoks⟩ := List.forall_mem_cons.1 hok
    obtain ⟨hx, hxs⟩ := List.forall_mem_cons.1 h
    rw [combine, Journaled.records_bind_of_ok hr, hx, Journaled.records_bind_pure, ih hoks hxs,
      List.flatMap_cons]

end Generation

theorem Bridge.records_generate (b : Bridge) (table? : Option NameTable) :
    (b.generate table?).records = b.records builtinTexts (b.effectiveTable table?) := by
  let table := b.effectiveTable table?
  have hgives (rs : List Rendering) : TemplateSet.builtin.Gives builtinTexts rs :=
    TemplateSet.builtin_gives rs
  have hobject (o : Object) : (object TemplateSet.builtin table o).result =
      .ok (.ofGroups [o.group builtinTexts table]) := result_object fun s _ => hgives _
  have hfree (s : Signal) : (freeSignal TemplateSet.builtin table s).result =
      .ok (.ofGroups [s.freeGroup builtinTexts table]) := result_freeSignal (hgives _)
  rw [generate, Journaled.records_bind_of_ok (result_combine fun o _ => hobject o),
    Journaled.records_bind_pure, records_combine (fun o _ => ⟨_, hobject o⟩)
      (fun o _ => records_object fun s _ => hgives _),
    records_combine (fun s _ => ⟨_, hfree s⟩) (fun s _ => records_freeSignal (hgives _)),
    ← List.map_eq_flatMap]
  rfl

/-! ### Records of one kind -/

/-- The record says that a signal is written. -/
def Record.announces (r : Record) : Bool :=
  "Generating ".toList.isPrefixOf r.message.toList

theorem announces_memberRecord (owner : String) (s : Signal) :
    (memberRecord owner s).announces = true := by
  simp [Record.announces, memberRecord, Reporter.record, String.toList_append]

theorem announces_freeRecord (owner : String) (s : Signal) :
    (freeRecord owner s).announces = true := by
  simp [Record.announces, freeRecord, Reporter.record, String.toList_append]

theorem announces_skippedRecord (e : Skipped) : (skippedRecord e).announces = false := by
  simp [Record.announces, skippedRecord, Reporter.record, String.toList_append, List.isPrefixOf]

theorem announces_blockRecord (owner : String) (block : Block) :
    (blockRecord owner block).announces = false := by
  simp [Record.announces, blockRecord, Reporter.record, String.toList_append, List.isPrefixOf]

/-- Of what is told of some signals, the records of failures are those of failing signals. -/
theorem filter_error_told {label : Signal → String} {written : Signal → Record}
    (hwritten : ∀ s, (written s).level ≠ .error) (ss : List Signal) :
    (ss.map fun s => s.told table (label s) (written s)).filter (·.level = .error) =
      ss.filterMap fun s =>
        (firstRefusal? table s.parameters).map fun cause =>
          skippedRecord { label := label s, cause } := by
  induction ss with
  | nil => rfl
  | cons s ss ih =>
    rw [List.map_cons, List.filterMap_cons, Signal.told]
    cases firstRefusal? table s.parameters with
    | none => simpa [hwritten s] using ih
    | some cause => simpa [show (skippedRecord ⟨label s, cause⟩).level = .error from rfl] using ih

/-- Of what is told of some signals, the announcements are those of signals that do not fail. -/
theorem filter_announces_told {label : Signal → String} {written : Signal → Record}
    (hwritten : ∀ s, (written s).announces = true) (ss : List Signal) :
    (ss.map fun s => s.told table (label s) (written s)).filter Record.announces =
      (ss.filter (¬ ·.Failing table)).map written := by
  induction ss with
  | nil => rfl
  | cons s ss ih =>
    rw [List.map_cons, Signal.told]
    cases hs : firstRefusal? table s.parameters with
    | none => simpa [hwritten s, Signal.failing_iff, hs] using ih
    | some cause => simpa [announces_skippedRecord, Signal.failing_iff, hs] using ih

/-! ### Connect helpers -/

/-- The connect helpers in a report: what has a definition. -/
def Report.pairs (r : Report) : List Fragment :=
  r.owners.flatMap fun w => w.block.filter (·.source?.isSome)

/-- For each signal that does not fail the record that it is written, and its connect helper. -/
def Bridge.helpers (text : Texts) (table : NameTable) (b : Bridge) : List (Record × Fragment) :=
  b.objects.flatMap (fun o => (o.signals.filter (¬ ·.Failing table)).map fun s =>
      (memberRecord o.className s, s.memberHelper text table o.className)) ++
    (b.freeSignals.filter (¬ ·.Failing table)).map fun s =>
      (freeRecord (table.cppName s.owner) s, s.freePiece text table)

theorem Bridge.pairs_groups (b : Bridge) :
    (Report.ofGroups (b.groups text table)).pairs = (b.helpers text table).map Prod.snd := by
  have hmember (owner : String) (s : Signal) :
      (s.memberPieces text table owner).flatMap (fun f =>
        (Option.guard (fun f : Fragment => f.source?.isSome) f).toList) =
        [s.memberHelper text table owner] := by
    unfold Signal.memberPieces
    cases s.inherit <;> rfl
  have hfree (s : Signal) :
      (Option.guard (fun f : Fragment => f.source?.isSome) (s.freePiece text table)).toList =
        [s.freePiece text table] := rfl
  simp only [Report.pairs, ← List.filterMap_eq_filter, List.filterMap_eq_flatMap_toList]
  rw [flatMap_owners_groups]
  simp only [hmember, hfree, flatMap_ite_nil, ← List.map_eq_flatMap]
  rw [helpers, List.map_append, List.map_flatMap]
  simp only [List.map_map]
  rfl

theorem Bridge.filter_announces_records (b : Bridge) :
    (b.records text table).filter Record.announces = (b.helpers text table).map Prod.fst := by
  have hobject (o : Object) : (o.records text table).filter Record.announces =
      (o.signals.filter (¬ ·.Failing table)).map (memberRecord o.className) := by
    have hmember : (o.signals.map (Signal.memberTold table o.className)).filter Record.announces =
        _ := filter_announces_told (announces_memberRecord o.className) o.signals
    rw [Object.records, List.filter_append, hmember]
    split
    · simp
    · simp [announces_blockRecord]
  have hfree : (b.freeSignals.map (Signal.freeTold table)).filter Record.announces = _ :=
    filter_announces_told (fun s => announces_freeRecord (table.cppName s.owner) s) b.freeSignals
  rw [records, List.filter_append, List.filter_flatMap, hfree, helpers, List.map_append,
    List.map_flatMap]
  simp only [hobject, List.map_map]
  rfl

theorem Bridge.filter_error_records (b : Bridge) :
    (b.records text table).filter (·.level = .error) =
      (Report.ofGroups (b.groups text table)).skipped.map skippedRecord := by
  have hobject (o : Object) : (o.records text table).filter (·.level = .error) =
      o.signals.filterMap fun s => (firstRefusal? table s.parameters).map fun cause =>
        skippedRecord { label := memberLabel o.className s, cause } := by
    have hmember : (o.signals.map (Signal.memberTold table o.className)).filter
        (·.level = .error) = _ :=
      filter_error_told (by simp [memberRecord, Reporter.record]) o.signals
    rw [Object.records, List.filter_append, hmember]
    split
    · simp
    · simp [blockRecord, Reporter.record]
  have hfree : (b.freeSignals.map (Signal.freeTold table)).filter (·.level = .error) = _ :=
    filter_error_told (by simp [freeRecord, Reporter.record]) b.freeSignals
  rw [records, List.filter_append, List.filter_flatMap, hfree, Report.skipped_eq_filterMap,
    fates_groups, List.map_filterMap]
  simp only [hobject, List.filterMap_append, List.filterMap_flatMap, List.filterMap_map,
    Function.comp_def, Signal.memberFate, Signal.freeFate, Signal.skipped?_fate, Option.map_map]

/--
The records of a generation are those of its signals in declared order, with one for each class
that has fragments behind those of its signals. The failures among them are the entries of the
report, and what is announced is what the report has, both in order.
-/
theorem Bridge.records_tell_report (b : Bridge) (table? : Option NameTable) :
    let table := b.effectiveTable table?
    let records := (b.generate table?).records
    ∃ r, (b.generate table?).result = .ok r ∧
      records = b.records builtinTexts table ∧ r.owners = b.present builtinTexts table ∧
      records.filter (·.level = .error) = r.skipped.map skippedRecord ∧
      records.filter Record.announces = (b.helpers builtinTexts table).map Prod.fst ∧
      r.pairs = (b.helpers builtinTexts table).map Prod.snd := by
  intro table records
  have hrecords : records = b.records builtinTexts table := b.records_generate table?
  refine ⟨_, result_generate_builtin b table?, hrecords, owners_groups b, ?_, ?_, pairs_groups b⟩
  · rw [hrecords, filter_error_records]
  · rw [hrecords, filter_announces_records]

end SignalBinding
