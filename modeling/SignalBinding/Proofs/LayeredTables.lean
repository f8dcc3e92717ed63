import SignalBinding.Generation.Report
import SignalBinding.Proofs.TextEnds

/-!
# Layered name tables

Tables laid over one another, the first one at the bottom. Of all entries for a name the topmost one
counts, and that is settled for renames and for namespaces apart from each other. An empty namespace
is an entry like any other: it hides the namespaces below it.

A glossary is known by its names, in order, and by what it says of each of them. So an equation of
glossaries is an equation of lists of names and one of look-ups.

## Main definitions

- `Glossary.names`: the names of a glossary
- `Glossary.topmost?`: what the topmost of some glossaries says of a name
- `Text.IsCore`: what is left of a text without the colons at its ends

## Main statements

- `Glossary.merge_assoc`, `Glossary.merge_self`, `Glossary.merge_empty`, `Glossary.empty_merge`
- `NameTable.topmost_entries_count`: what layers of tables say of each name
-/

namespace SignalBinding

namespace Glossary

variable {name text : String} {g h : Glossary}

/-- The names of a glossary, in the order in which they came. -/
def names (g : Glossary) : List String :=
  g.entries.map Prod.fst

/-! ### What a glossary is known by -/

theorem get?_of_mem (hmem : (name, text) ∈ g.entries) : g.get? name = some text := by
  obtain ⟨before, after, hsplit⟩ := List.append_of_mem hmem
  refine List.lookup_eq_some_iff.2 ⟨before, after, hsplit, fun e he => ?_⟩
  have hnodup := g.nodup
  rw [hsplit, List.map_append, List.map_cons, List.nodup_append] at hnodup
  have hne := hnodup.2.2 e.1 (List.mem_map_of_mem he) name List.mem_cons_self
  simpa using hne.symm

theorem entries_eq (g : Glossary) :
    g.entries = g.names.map fun name => (name, (g.get? name).getD "") := by
  have hentry : ∀ e ∈ g.entries, (e.1, (g.get? e.1).getD "") = e := by
    intro e he
    rw [get?_of_mem he, Option.getD_some]
  rw [names, List.map_map, Function.comp_def, List.map_congr_left hentry, List.map_id']

theorem ext_get? (hnames : g.names = h.names) (hget : ∀ name, g.get? name = h.get? name) :
    g = h := by
  have hentries : g.entries = h.entries := by
    rw [entries_eq g, entries_eq h, hnames]
    simp only [hget]
  cases g
  cases h
  cases hentries
  rfl

/-! ### Entries laid over a glossary -/

theorem names_insert (g : Glossary) (name text : String) :
    (g.insert name text).names = if name ∈ g.names then g.names else g.names ++ [name] := by
  change (put name text g.entries).map Prod.fst =
    if name ∈ g.entries.map Prod.fst then g.entries.map Prod.fst else
      g.entries.map Prod.fst ++ [name]
  induction g.entries with
  | nil => rfl
  | cons e es ih =>
    obtain ⟨n, t⟩ := e
    by_cases hn : n = name
    · simp [put, hn]
    · have hname : name ≠ n := Ne.symm hn
      rw [put, if_neg hn, List.map_cons, ih, List.map_cons]
      by_cases hmem : name ∈ es.map Prod.fst
      · simp [hmem]
      · simp [hmem, hname]

/-- New names come behind the old ones, and old ones stay in their places. -/
theorem names_insertMany (g : Glossary) {es : List (String × String)}
    (hes : (es.map Prod.fst).Nodup) :
    (g.insertMany es).names = g.names ++ (es.map Prod.fst).filter (· ∉ g.names) := by
  induction es generalizing g with
  | nil => simp [insertMany]
  | cons e es ih =>
    obtain ⟨n, t⟩ := e
    obtain ⟨hn, hrest⟩ := List.nodup_cons.1 hes
    change ((g.insert n t).insertMany es).names = _
    rw [ih (g.insert n t) hrest, names_insert, List.map_cons]
    by_cases hmem : n ∈ g.names
    · simp [hmem]
    · have hothers : (es.map Prod.fst).filter (· ∉ g.names ++ [n]) =
          (es.map Prod.fst).filter (· ∉ g.names) := by
        refine List.filter_congr fun m hm => ?_
        have hne : m ≠ n := by
          rintro rfl
          exact hn hm
        simp [hne]
      rw [if_neg hmem, hothers]
      simp [hmem]

theorem get?_insertMany (g : Glossary) {es : List (String × String)}
    (hes : (es.map Prod.fst).Nodup) (name : String) :
    (g.insertMany es).get? name = (es.lookup name).or (g.get? name) := by
  induction es generalizing g with
  | nil => rfl
  | cons e es ih =>
    obtain ⟨n, t⟩ := e
    obtain ⟨hn, hrest⟩ := List.nodup_cons.1 hes
    change ((g.insert n t).insertMany es).get? name = _
    rw [ih (g.insert n t) hrest, get?_insert, List.lookup_cons]
    by_cases hname : name = n
    · -- The name is not among the later entries, so these leave its text alone.
      subst hname
      have hnone : es.lookup name = none :=
        List.lookup_eq_none_iff.2 fun e he => by
          have hne : e.1 ≠ name := fun heq => hn (List.mem_map.2 ⟨e, he, heq⟩)
          simpa using hne.symm
      simp [hnone]
    · have hbeq : (name == n) = false := beq_false_of_ne hname
      rw [if_neg hname, hbeq]

/-! ### Glossaries laid over one another -/

theorem names_merge (g h : Glossary) :
    (g.merge h).names = g.names ++ h.names.filter (· ∉ g.names) :=
  names_insertMany g h.nodup

/-- The glossary on top counts first. -/
theorem get?_merge (g h : Glossary) (name : String) :
    (g.merge h).get? name = (h.get? name).or (g.get? name) :=
  get?_insertMany g h.nodup name

theorem merge_empty (g : Glossary) : g.merge {} = g := rfl

theorem empty_merge (g : Glossary) : merge {} g = g := by
  refine ext_get? ?_ fun name => ?_
  · rw [names_merge]
    exact List.filter_true g.names
  · rw [get?_merge]
    exact Option.or_none

theorem merge_self (g : Glossary) : g.merge g = g := by
  refine ext_get? ?_ fun name => ?_
  · have hnone : g.names.filter (· ∉ g.names) = [] := by
      refine List.filter_eq_nil_iff.2 fun name hname => ?_
      simpa using hname
    rw [names_merge, hnone, List.append_nil]
  · rw [get?_merge, Option.or_self]

theorem merge_assoc (g h k : Glossary) : (g.merge h).merge k = g.merge (h.merge k) := by
  refine ext_get? ?_ fun name => ?_
  · simp only [names_merge, List.filter_append, List.filter_filter, List.append_assoc]
    congr 2
    refine List.filter_congr fun name _ => ?_
    by_cases hg : name ∈ g.names
    · simp [hg]
    · simp [hg]
  · simp only [get?_merge, Option.or_assoc]

/-- What the topmost of some glossaries that has the name says of it. The last one is on top. -/
def topmost? (gs : List Glossary) (name : String) : Option String :=
  gs.reverse.findSome? (·.get? name)

theorem get?_foldl_merge (g : Glossary) (gs : List Glossary) (name : String) :
    (gs.foldl merge g).get? name = topmost? (g :: gs) name := by
  -- The topmost glossary is the one that was laid on last.
  induction gs using List.reverseRecOn with
  | nil =>
    change g.get? name = [g].findSome? _
    rw [List.findSome?_singleton]
  | append_singleton gs h ih =>
    rw [List.foldl_append, List.foldl_cons, List.foldl_nil, get?_merge, ih, topmost?, topmost?,
      ← List.cons_append, List.reverse_append, List.reverse_singleton, List.findSome?_append,
      List.findSome?_singleton]

end Glossary

/-! ### Texts without the colons at their ends -/

namespace Text

/-- The text `core` is what is left of `text` without the colons at its ends. -/
structure IsCore (core text : String) : Prop where
  between : ∃ m n, text.toList = List.replicate m ':' ++ core.toList ++ List.replicate n ':'
  first : core.toList.head? ≠ some ':'
  last : core.toList.getLast? ≠ some ':'

theorem isCore_trim (text : String) :
    IsCore (String.ofList (trim (· == ':') text.toList)) text := by
  have h := isTrimmed_trim (· == ':') text.toList
  refine ⟨?_, fun hfirst => ?_, fun hlast => ?_⟩
  · rw [String.toList_ofList]
    exact h.exists_replicate
  · rw [String.toList_ofList] at hfirst
    cases h.first ':' hfirst
  · rw [String.toList_ofList] at hlast
    cases h.last ':' hlast

/-- Nothing is left if and only if there is nothing but colons. -/
theorem IsCore.eq_empty_iff {core text : String} (h : IsCore core text) :
    core = "" ↔ text.toList.all (· == ':') = true := by
  obtain ⟨⟨m, n, htext⟩, hfirst, -⟩ := h
  constructor
  · rintro rfl
    simp [htext]
  · intro hall
    rw [htext, List.all_append, List.all_append, Bool.and_eq_true, Bool.and_eq_true] at hall
    cases hcore : core.toList with
    | nil => exact String.toList_eq_nil_iff.1 hcore
    | cons c cs =>
      rw [hcore] at hall hfirst
      have hc : c = ':' := by simpa using List.all_eq_true.1 hall.1.2 c List.mem_cons_self
      exact absurd (congrArg some hc) hfirst

end Text

namespace NameTable

/-- A name stands behind its namespace, as long as that is more than colons. -/
theorem exists_core_cppName (table : NameTable) (ident : String) :
    ∃ core, Text.IsCore core ((table.namespaces.get? ident).getD "") ∧
      table.cppName ident =
        if core = "" then table.baseName ident
        else "::" ++ core ++ "::" ++ table.baseName ident := by
  refine ⟨_, Text.isCore_trim _, ?_⟩
  unfold cppName namespaceOf?
  cases table.namespaces.get? ident with
  | none => rfl
  | some text =>
    rw [Option.getD_some]
    dsimp only
    cases htrim : Text.trim (· == ':') text.toList with
    | nil => rfl
    | cons c cs => simp

/-- Layers of tables are layers of renames and layers of namespaces. -/
theorem renames_foldl_merge (bottom : NameTable) (upper : List NameTable) :
    (upper.foldl merge bottom).renames =
      (upper.map renames).foldl Glossary.merge bottom.renames := by
  rw [List.foldl_map]
  exact (List.foldl_hom renames fun _ _ => rfl).symm

theorem namespaces_foldl_merge (bottom : NameTable) (upper : List NameTable) :
    (upper.foldl merge bottom).namespaces =
      (upper.map namespaces).foldl Glossary.merge bottom.namespaces := by
  rw [List.foldl_map]
  exact (List.foldl_hom namespaces fun _ _ => rfl).symm

theorem merge_assoc (t₁ t₂ t₃ : NameTable) : (t₁.merge t₂).merge t₃ = t₁.merge (t₂.merge t₃) := by
  simp only [merge, Glossary.merge_assoc]

theorem merge_self (t : NameTable) : t.merge t = t := by
  simp only [merge, Glossary.merge_self]

theorem empty_merge (t : NameTable) : merge {} t = t := by
  simp only [merge, Glossary.empty_merge]

/--
In layers of tables, what the topmost entries say of a name counts: the topmost rename, and behind
the topmost namespace unless that is nothing but colons. Layers may be put together in any way. A
table that is handed over with a bridge is a layer over the bridge's own.
-/
theorem topmost_entries_count (bottom : NameTable) (upper : List NameTable) :
    (∀ ident,
      let table := upper.foldl merge bottom
      let name := (Glossary.topmost? ((bottom :: upper).map renames) ident).getD ident
      let text := (Glossary.topmost? ((bottom :: upper).map namespaces) ident).getD ""
      ∃ core, Text.IsCore core text ∧ (core = "" ↔ text.toList.all (· == ':') = true) ∧
        table.cppName ident = if core = "" then name else "::" ++ core ++ "::" ++ name) ∧
    (∀ t₁ t₂ t₃ : NameTable, (t₁.merge t₂).merge t₃ = t₁.merge (t₂.merge t₃)) ∧
    (∀ t : NameTable, t.merge t = t ∧ t.merge {} = t ∧ merge {} t = t) ∧
    ∀ (b : Bridge) (table : NameTable) (templates : TemplateSet),
      b.generate (some table) templates =
        ({ b with table := b.table.merge table } : Bridge).generate none templates ∧
      ∀ ident, (b.table.merge table).renames.get? ident =
          (table.renames.get? ident).or (b.table.renames.get? ident) ∧
        (b.table.merge table).namespaces.get? ident =
          (table.namespaces.get? ident).or (b.table.namespaces.get? ident) := by
  refine ⟨fun ident => ?_, merge_assoc, fun t => ⟨merge_self t, rfl, empty_merge t⟩, ?_⟩
  case refine_2 =>
    intro b table templates
    exact ⟨rfl, fun ident => ⟨Glossary.get?_merge _ _ ident, Glossary.get?_merge _ _ ident⟩⟩
  obtain ⟨core, hcore, hname⟩ := (upper.foldl merge bottom).exists_core_cppName ident
  rw [baseName, renames_foldl_merge, Glossary.get?_foldl_merge, ← List.map_cons] at hname
  rw [namespaces_foldl_merge, Glossary.get?_foldl_merge, ← List.map_cons] at hcore
  exact ⟨core, hcore, hcore.eq_empty_iff, hname⟩

end NameTable

end SignalBinding
