import SignalBinding.Config
import SignalBinding.Proofs.SameValues

/-!
# Settings that count

What a configuration says is said by a few settings, each of a kind. A value that its setting does
not take says nothing, and neither does a key that is no setting: the configuration is the one that
there is without the entry. Only the name table may be wrong.

## Main definitions

- `Config.Kind`, `Config.Kind.Takes`: what kinds of settings there are, and the values they take
- `Config.Group`, `Config.Group.settings`: the maps with settings, and the settings in each
- `Config.Group.IsIdle`: entries that say nothing
- `Config.Group.Drops`: entries of a configuration without those for one key
- `Config.ofEntries`: the configuration that the entries of a map make

## Main statements

- `Config.ofEntries_eq_of_drops`: entries that say nothing can be dropped
- `Config.ofDocument_delete`: for a tree, which is to delete them
-/

namespace SignalBinding

open Description
open Entries (field without)

namespace Config

variable {δ δ' : Type}

/-! ### Settings -/

/-- What a setting is about. -/
inductive Kind
  | path
  | flag
  /-- More settings. -/
  | group
  /-- The name table, or a part of it. -/
  | table

/-- The word that a text gives for a truth value. -/
def flagWord (s : String) : String :=
  String.ofList ((Text.trim Text.isBlank s.toList).map Char.toLower)

/-- The values that a setting takes. The name table takes all but null, since what is wrong there is
refused. -/
def Kind.Takes : Kind → Layer δ → Prop
  | path, .atom (.text s) => Text.allBlank s = false
  | flag, .atom (.bool _) => True
  | flag, .atom (.text s) => flagWord s ∈ ["true", "yes", "1", "false", "no", "0"]
  | group, .map _ => True
  | table, d => d ≠ .atom .null
  | _, _ => False

/-- The maps with settings: the configuration itself, and what three of its keys have. -/
inductive Group
  | top
  | output
  | logging
  | mappings

namespace Group

/-- The key of the configuration that has the group. -/
def key? : Group → Option String
  | top => none
  | output => some "output"
  | logging => some "logging"
  | mappings => some "mappings"

/-- The settings of a group by their keys. -/
def settings : Group → List (String × Kind)
  | top => [("output", .group), ("logging", .group), ("mappings", .table), ("templates_dir", .path)]
  | output => [("header", .path), ("source", .path)]
  | logging => [("verbose", .flag), ("log_file", .path)]
  | mappings => [("cxx_names", .table), ("namespaces", .table)]

section

variable [Layered δ] [Layered δ']

/-- The entries of a group in a configuration with the entries `entries`. -/
def entries (g : Group) (entries : List (Atom × δ)) : List (Atom × δ) :=
  match g.key? with
  | none => entries
  | some name => section? (field name entries)

/-- In the group, the key is no setting, or has a value that the setting does not take. -/
def IsIdle (g : Group) (key : Atom) (entries : List (Atom × δ)) : Prop :=
  ∀ s ∈ g.settings, key = .text s.1 → ¬ s.2.Takes (field s.1 (g.entries entries))

/-- The second level is the same as the first one, but if this is a map, without entries for the
key. -/
inductive DropsIn (key : Atom) : Layer δ → Layer δ' → Prop
  | map {entries : List (Atom × δ)} {entries' : List (Atom × δ')}
      (h : SameEntries Same (without key entries) entries') :
      DropsIn key (.map entries) (.map entries')
  | other {l : Layer δ} {l' : Layer δ'} (hmap : ¬ IsMap l) (h : SameLevel Same l l') :
      DropsIn key l l'

/-- The second configuration has all entries of the first one, but in the group none for the
key. -/
def Drops (g : Group) (key : Atom) (entries : List (Atom × δ)) (entries' : List (Atom × δ')) :
    Prop :=
  match g.key? with
  | none => SameEntries Same (without key entries) entries'
  | some name =>
    List.Forall₂ (fun e e' => e.1 = e'.1 ∧
      if e.1.sameKey (.text name) then DropsIn key (layer e.2) (layer e'.2) else Same e.2 e'.2)
      entries entries'

end

end Group

/-! ### Settings that agree -/

/-- The setting takes none of the values, or they are the same. -/
def SameSetting [Layered δ] [Layered δ'] (kind : Kind) (l : Layer δ) (l' : Layer δ') : Prop :=
  (¬ kind.Takes l ∧ ¬ kind.Takes l') ∨ SameLevel Same l l'

section Values

variable {l : Layer δ} {l' : Layer δ'} {home root : Path}

theorem Kind.not_takes_null (kind : Kind) : ¬ kind.Takes (.atom .null : Layer δ) := by
  cases kind <;> simp [Takes]

theorem path?_eq_none (h : ¬ Kind.path.Takes l) : path? home root l = none := by
  cases l with
  | atom a => cases a <;> simp_all [path?, Kind.Takes]
  | list => rfl
  | map => rfl
  | other => rfl

theorem path?_eq_some_iff {q : Path} :
    path? home root l = some q ↔ ∃ s, l = .atom (.text s) ∧ Text.allBlank s = false ∧
      q = root.append ((Path.ofText s).expandHome home) := by
  constructor
  · intro h
    unfold path? at h
    split at h
    next s =>
      split at h
      · cases h
      next hblank =>
        cases h
        exact ⟨s, rfl, Bool.eq_false_iff.2 hblank, rfl⟩
    next => cases h
  · rintro ⟨s, rfl, hblank, rfl⟩
    simp [path?, hblank]

theorem flag_eq_false (h : ¬ Kind.flag.Takes l) : flag l = false := by
  cases l with
  | atom a =>
    cases a with
    | bool b => exact absurd trivial h
    | text s =>
      have hword : flagWord s ∉ ["true", "yes", "1"] := fun hword =>
        h (List.mem_append_left ["false", "no", "0"] hword)
      simpa [flag, flagWord] using hword
    | _ => rfl
  | list => rfl
  | map => rfl
  | other => rfl

theorem section?_eq_nil (h : ¬ Kind.group.Takes l) : section? l = [] := by
  cases l with
  | atom => rfl
  | list => rfl
  | map => exact absurd trivial h
  | other => rfl

theorem eq_null_of_not_takes_table (h : ¬ Kind.table.Takes l) : l = .atom .null :=
  Classical.not_not.1 h

variable [Layered δ] [Layered δ']

theorem SameSetting.path?_eq (h : SameSetting .path l l') (home root : Path) :
    path? home root l = path? home root l' := by
  obtain ⟨h, h'⟩ | h := h
  · rw [path?_eq_none h, path?_eq_none h']
  · cases h with
    | atom a => cases a <;> rfl
    | list => rfl
    | map => rfl
    | other => rfl

theorem SameSetting.flag_eq (h : SameSetting .flag l l') : flag l = flag l' := by
  obtain ⟨h, h'⟩ | h := h
  · rw [flag_eq_false h, flag_eq_false h']
  · cases h with
    | atom a => cases a <;> rfl
    | list => rfl
    | map => rfl
    | other => rfl

theorem SameSetting.section? (h : SameSetting .group l l') :
    SameEntries Same (section? l) (section? l') := by
  obtain ⟨h, h'⟩ | h := h
  · rw [section?_eq_nil h, section?_eq_nil h']
    exact .nil
  · cases h with
    | atom => exact .nil
    | list => exact .nil
    | map hentries => exact hentries
    | other => exact .nil

theorem SameSetting.glossaryOf_eq (h : SameSetting .table l l') (place : Description.Place) :
    glossaryOf place l = glossaryOf place l' := by
  obtain ⟨h, h'⟩ | h := h
  · rw [eq_null_of_not_takes_table h, eq_null_of_not_takes_table h']
    rfl
  · exact h.glossaryOf_eq place

theorem SameSetting.tableOf_eq (h : SameSetting .table l l') : tableOf l = tableOf l' := by
  obtain ⟨h, h'⟩ | h := h
  · rw [eq_null_of_not_takes_table h, eq_null_of_not_takes_table h']
    rfl
  · exact h.tableOf_eq

end Values

/-! ### Configurations of entries -/

section OfEntries

variable [Layered δ] [Layered δ'] {entries : List (Atom × δ)} {entries' : List (Atom × δ')}
  {key : Atom} {g : Group}

/-- The configuration that the entries of a map make. -/
def ofEntries (home root : Path) (entries : List (Atom × δ)) : Except ConfigFault Config :=
  match tableOf (field "mappings" entries) with
  | .error f => .error (.table f)
  | .ok table =>
    .ok {
      root, table
      header? := path? home root (field "header" (Group.output.entries entries))
      source? := path? home root (field "source" (Group.output.entries entries))
      verbose := flag (field "verbose" (Group.logging.entries entries))
      logFile? := path? home root (field "log_file" (Group.logging.entries entries))
      templates? := path? home root (field "templates_dir" entries) }

theorem ofDocument_of_map {d : δ} (h : layer d = .map entries) (home root : Path) :
    ofDocument home root d = ofEntries home root entries := by
  rw [ofDocument, h]
  rfl

/-- The settings of two configurations agree, those of the name table as far as the table goes. -/
structure SameSettings (entries : List (Atom × δ)) (entries' : List (Atom × δ')) : Prop where
  output : ∀ s ∈ Group.output.settings,
    SameSetting s.2 (field s.1 (Group.output.entries entries))
      (field s.1 (Group.output.entries entries'))
  logging : ∀ s ∈ Group.logging.settings,
    SameSetting s.2 (field s.1 (Group.logging.entries entries))
      (field s.1 (Group.logging.entries entries'))
  templates : SameSetting .path (field "templates_dir" entries) (field "templates_dir" entries')
  table : tableOf (field "mappings" entries) = tableOf (field "mappings" entries')

theorem SameSettings.ofEntries_eq (h : SameSettings entries entries') (home root : Path) :
    ofEntries home root entries = ofEntries home root entries' := by
  have hheader := (h.output ("header", .path) (by simp [Group.settings])).path?_eq home root
  have hsource := (h.output ("source", .path) (by simp [Group.settings])).path?_eq home root
  have hverbose := (h.logging ("verbose", .flag) (by simp [Group.settings])).flag_eq
  have hlog := (h.logging ("log_file", .path) (by simp [Group.settings])).path?_eq home root
  have htemplates := h.templates.path?_eq home root
  dsimp only at hheader hsource hverbose hlog
  rw [ofEntries, ofEntries, h.table, hheader, hsource, hverbose, hlog, htemplates]

/-! ### Dropped entries -/

/-- Dropping an idle entry of a map keeps the settings in it. -/
theorem sameSetting_of_without {settings : List (String × Kind)}
    (hentries : SameEntries Same (without key entries) entries')
    (hidle : ∀ s ∈ settings, key = .text s.1 → ¬ s.2.Takes (field s.1 entries)) :
    ∀ s ∈ settings, SameSetting s.2 (field s.1 entries) (field s.1 entries') := by
  intro s hs
  have hfield := hentries.field s.1
  by_cases hkey : .text s.1 = key
  · subst hkey
    rw [Entries.field_without_self] at hfield
    rw [hfield.eq_atom]
    exact .inl ⟨hidle s hs rfl, s.2.not_takes_null⟩
  · rw [Entries.field_without_of_ne hkey] at hfield
    exact .inr hfield

theorem sameSetting_of_same {group : List (Atom × δ)} {group' : List (Atom × δ')}
    (h : SameEntries Same group group') (s : String × Kind) :
    SameSetting s.2 (field s.1 group) (field s.1 group') :=
  .inr (h.field s.1)

namespace Group

variable {name : String}

/-- Where a group has its key, entries are dropped in its map. -/
theorem Drops.field_self (h : g.Drops key entries entries') (hname : g.key? = some name) :
    DropsIn key (field name entries) (field name entries') := by
  rw [Drops, hname] at h
  obtain ⟨hnull, hnull'⟩ | ⟨e, e', ⟨-, he⟩, hkey, hfield, hfield'⟩ :=
    field_of_forall₂ (fun _ _ he => he.1) h name
  · rw [hnull, hnull']
    exact .other id (.atom .null)
  · rw [if_pos (Atom.sameKey_text_iff.2 hkey)] at he
    rw [hfield, hfield']
    exact he

/-- The other entries of the configuration stay the same. -/
theorem Drops.field_of_ne (h : g.Drops key entries entries') (hname : g.key? = some name)
    {other : String} (hne : other ≠ name) :
    SameLevel Same (field other entries) (field other entries') := by
  rw [Drops, hname] at h
  obtain ⟨hnull, hnull'⟩ | ⟨e, e', ⟨-, he⟩, hkey, hfield, hfield'⟩ :=
    field_of_forall₂ (fun _ _ he => he.1) h other
  · rw [hnull, hnull']
    exact .atom .null
  · have hother : ¬ e.1.sameKey (.text name) = true := by
      rw [Atom.sameKey_text_iff, hkey]
      exact fun h => hne (Atom.text.inj h)
    rw [if_neg hother] at he
    rw [hfield, hfield']
    exact he.level

/-- A group that entries are dropped from keeps its settings. -/
theorem Drops.sameSetting (h : g.Drops key entries entries') (hidle : g.IsIdle key entries) :
    ∀ s ∈ g.settings, SameSetting s.2 (field s.1 (g.entries entries))
      (field s.1 (g.entries entries')) := by
  unfold IsIdle at hidle
  cases hname : g.key? with
  | none =>
    simp only [Drops, Group.entries, hname] at h hidle ⊢
    exact sameSetting_of_without h hidle
  | some name =>
    simp only [Group.entries, hname] at hidle ⊢
    have hdrops := h.field_self hname
    generalize field name entries = l at hidle hdrops ⊢
    generalize field name entries' = l' at hdrops ⊢
    cases hdrops with
    | map hgroup => exact sameSetting_of_without hgroup hidle
    | other _ hsame => exact fun s _ => sameSetting_of_same (SameSetting.section? (.inr hsame)) s

/-- Any other group than the one that entries are dropped from has the same settings. -/
theorem Drops.sameSetting_of_ne (h : g.Drops key entries entries') (hname : g.key? = some name)
    {g' : Group} {other : String} (hother : g'.key? = some other) (hne : other ≠ name)
    (s : String × Kind) :
    SameSetting s.2 (field s.1 (g'.entries entries)) (field s.1 (g'.entries entries')) := by
  simp only [Group.entries, hother]
  exact sameSetting_of_same (SameSetting.section? (.inr (h.field_of_ne hname hne))) s

end Group

theorem sameSettings_of_top
    (h : ∀ s ∈ Group.top.settings, SameSetting s.2 (field s.1 entries) (field s.1 entries')) :
    SameSettings entries entries' where
  output s _ := sameSetting_of_same (h ("output", .group) (by simp [Group.settings])).section? s
  logging s _ := sameSetting_of_same (h ("logging", .group) (by simp [Group.settings])).section? s
  templates := h ("templates_dir", .path) (by simp [Group.settings])
  table := (h ("mappings", .table) (by simp [Group.settings])).tableOf_eq

/-- Entries that are dropped from the name table and are not of its parts leave the table as it
is. -/
theorem tableOf_eq_of_drops (h : Group.mappings.Drops key entries entries')
    (hidle : Group.mappings.IsIdle key entries) :
    tableOf (field "mappings" entries) = tableOf (field "mappings" entries') := by
  have hparts := h.sameSetting hidle
  have hrenames := hparts ("cxx_names", .table) (by simp [Group.settings])
  have hnamespaces := hparts ("namespaces", .table) (by simp [Group.settings])
  have hdrops := h.field_self rfl
  simp only [Group.entries, Group.key?] at hrenames hnamespaces
  generalize field "mappings" entries = l at hrenames hnamespaces hdrops ⊢
  generalize field "mappings" entries' = l' at hrenames hnamespaces hdrops ⊢
  cases hdrops with
  | map => exact tableOf_map_eq hrenames.glossaryOf_eq hnamespaces.glossaryOf_eq
  | other _ hsame => exact hsame.tableOf_eq

theorem sameSettings_of_drops (h : g.Drops key entries entries') (hidle : g.IsIdle key entries) :
    SameSettings entries entries' := by
  have hown := h.sameSetting hidle
  cases g with
  | top => exact sameSettings_of_top hown
  | output =>
    exact {
      output := hown
      logging := fun s _ => h.sameSetting_of_ne rfl rfl (by decide) s
      templates := .inr (h.field_of_ne rfl (by decide))
      table := (h.field_of_ne rfl (by decide)).tableOf_eq }
  | logging =>
    exact {
      output := fun s _ => h.sameSetting_of_ne rfl rfl (by decide) s
      logging := hown
      templates := .inr (h.field_of_ne rfl (by decide))
      table := (h.field_of_ne rfl (by decide)).tableOf_eq }
  | mappings =>
    exact {
      output := fun s _ => h.sameSetting_of_ne rfl rfl (by decide) s
      logging := fun s _ => h.sameSetting_of_ne rfl rfl (by decide) s
      templates := .inr (h.field_of_ne rfl (by decide))
      table := tableOf_eq_of_drops h hidle }

/-! ### Paths -/

/-- The path settings with what the configuration has for them. -/
def paths (c : Config) : List (Group × String × Option Path) :=
  [(.output, "header", c.header?), (.output, "source", c.source?),
    (.logging, "log_file", c.logFile?), (.top, "templates_dir", c.templates?)]

/-- The folder of a configuration is as given, and its paths are those that its settings say. -/
theorem paths_of_ofEntries {home root : Path} {c : Config}
    (h : ofEntries home root entries = .ok c) :
    c.root = root ∧ ∀ p ∈ c.paths, p.2.2 = path? home root (field p.2.1 (p.1.entries entries)) := by
  rw [ofEntries] at h
  split at h
  · cases h
  · cases h
    simp [paths, Group.entries, Group.key?]

/-- Without an entry that says nothing, the entries make the same configuration, or have the same
fault. -/
theorem ofEntries_eq_of_drops (h : g.Drops key entries entries') (hidle : g.IsIdle key entries)
    (home root : Path) : ofEntries home root entries = ofEntries home root entries' :=
  (sameSettings_of_drops h hidle).ofEntries_eq home root

end OfEntries

/-! ### Trees -/

section Trees

variable {g : Group} {key : Atom}

/-- Where a group is in a tree. -/
def Group.place (g : Group) : Description.Place :=
  (g.key?.map .key).toList

theorem sameEntries_refl (entries : List (Atom × Document)) : SameEntries Same entries entries :=
  List.forall₂_same.2 fun e _ => ⟨rfl, .refl e.2⟩

theorem dropsIn_delete (key : Atom) (d : Document) :
    Group.DropsIn key (layer d) (layer (d.delete key [])) := by
  cases d with
  | atom a => exact .other id (.atom a)
  | list items => exact .other id (.list (List.forall₂_same.2 fun d _ => .refl d))
  | map entries => exact .map (sameEntries_refl _)
  | other text isEmpty => exact .other id (.other isEmpty)

/-- An entry that is deleted from a tree is dropped. -/
theorem drops_delete (g : Group) (key : Atom) (entries : List (Atom × Document)) :
    g.Drops key entries (entriesOf (layer ((Document.map entries).delete key g.place))) := by
  cases hname : g.key? with
  | none =>
    rw [Group.Drops, Group.place, hname]
    exact sameEntries_refl _
  | some name =>
    rw [Group.Drops, Group.place, hname]
    refine List.forall₂_map_right_iff.2 (List.forall₂_same.2 fun e _ => ?_)
    split
    · exact ⟨rfl, dropsIn_delete key e.2⟩
    · exact ⟨rfl, .refl e.2⟩

/-- Deleting an entry that says nothing changes nothing. -/
theorem ofDocument_delete (home root : Path) {d : Document}
    (hidle : g.IsIdle key (entriesOf (layer d))) :
    ofDocument home root (d.delete key g.place) = ofDocument home root d := by
  cases d with
  | atom a => cases g <;> rfl
  | list items => cases g <;> rfl
  | other text isEmpty => cases g <;> rfl
  | map entries =>
    obtain ⟨entries', hdelete⟩ : ∃ entries',
        layer ((Document.map entries).delete key g.place) = .map entries' := by
      cases g <;> exact ⟨_, rfl⟩
    have hdrops := drops_delete g key entries
    rw [hdelete] at hdrops
    rw [ofDocument_of_map hdelete, ofDocument_of_map (d := Document.map entries) rfl]
    exact (ofEntries_eq_of_drops hdrops hidle home root).symm

end Trees

end Config

end SignalBinding
