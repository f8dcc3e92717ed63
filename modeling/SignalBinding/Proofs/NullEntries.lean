import SignalBinding.Proofs.AlikeDescriptions

/-!
# Null entries

Taking an entry with null out of a bridge description changes nothing, wherever the description has
it, except inside the two parts of the name table. There null is a value like any other: its text
stands in the table.

## Main definitions

- `Document.get?`: the value at a place
- `Document.IsNull`: a map of the document has null under a key
- `Document.delete`: a document without an entry of one of its maps
-/

namespace SignalBinding

open Description
open Entries (field value?)

variable {name : String} {key : Atom}

/-! ### Values of changed maps -/

theorem Atom.sameKey_text_iff {k : Atom} : k.sameKey (.text name) ↔ k = .text name := by
  cases k <;> simp [sameKey]

theorem Atom.text_sameKey_iff : (Atom.text name).sameKey key ↔ .text name = key := by
  cases key <;> simp [sameKey]

/-- No text is the same key as a key that is not that text. -/
theorem Atom.sameKey_text_eq_false {k : Atom} (h : .text name ≠ key) (hk : k.sameKey key) :
    k.sameKey (.text name) = false := by
  rw [Bool.eq_false_iff, ne_eq, sameKey_text_iff]
  rintro rfl
  exact h (text_sameKey_iff.1 hk)

namespace Entries

variable {δ : Type}

/-- The entries of which the key is another one. -/
def without (key : Atom) (entries : List (Atom × δ)) : List (Atom × δ) :=
  entries.filter fun e => !e.1.sameKey key

/-- The entries with the value of the key changed by `f`. -/
def modify (key : Atom) (f : δ → δ) (entries : List (Atom × δ)) : List (Atom × δ) :=
  entries.map fun e => if e.1.sameKey key then (e.1, f e.2) else e

theorem value?_cons (k : Atom) (v : δ) (entries : List (Atom × δ)) :
    value? key ((k, v) :: entries) = if k.sameKey key then some v else value? key entries := by
  cases hk : k.sameKey key <;> simp [value?, hk]

theorem value?_without_self (entries : List (Atom × δ)) :
    value? key (without key entries) = none := by
  simp [value?, without]

theorem value?_without_of_ne (h : .text name ≠ key) (entries : List (Atom × δ)) :
    value? (.text name) (without key entries) = value? (.text name) entries := by
  induction entries with
  | nil => rfl
  | cons e entries ih =>
    obtain ⟨k, v⟩ := e
    rw [value?_cons, ← ih]
    cases hkey : k.sameKey key with
    | true =>
      have hk := Atom.sameKey_text_eq_false h hkey
      simp [without, hkey, hk]
    | false => simp [without, hkey, value?_cons]

theorem value?_modify_self (f : δ → δ) (entries : List (Atom × δ)) :
    value? key (modify key f entries) = (value? key entries).map f := by
  induction entries with
  | nil => rfl
  | cons e entries ih =>
    obtain ⟨k, v⟩ := e
    rw [value?_cons]
    cases hkey : k.sameKey key with
    | true => simp [modify, hkey, value?_cons]
    | false => simpa [modify, hkey, value?_cons] using ih

theorem value?_modify_of_ne (h : .text name ≠ key) (f : δ → δ) (entries : List (Atom × δ)) :
    value? (.text name) (modify key f entries) = value? (.text name) entries := by
  induction entries with
  | nil => rfl
  | cons e entries ih =>
    obtain ⟨k, v⟩ := e
    rw [value?_cons, ← ih]
    cases hkey : k.sameKey key with
    | true =>
      have hk := Atom.sameKey_text_eq_false h hkey
      simp [modify, hkey, hk, value?_cons]
    | false => simp [modify, hkey, value?_cons]

end Entries

/-! ### Trees without an entry -/

namespace Document

/-- The value at a place. -/
def get? : Description.Place → Document → Option Document
  | [], d => some d
  | .key name :: place, .map entries => (value? (.text name) entries).bind (get? place)
  | .index i :: place, .list items => items[i]?.bind (get? place)
  | _ :: _, _ => none

/-- At the place is a map that has null under the key. -/
def IsNull (key : Atom) (place : Description.Place) (d : Document) : Prop :=
  ∃ entries, d.get? place = some (.map entries) ∧ value? key entries = some (.atom .null)

/-- The tree in which the map at a place has no entry for the key. -/
def delete (key : Atom) : Description.Place → Document → Document
  | [], .map entries => .map (Entries.without key entries)
  | .key name :: place, .map entries =>
    .map (Entries.modify (.text name) (delete key place) entries)
  | .index i :: place, .list items => .list (items.modify i (delete key place))
  | _, d => d

variable {place : Description.Place} {d : Document}

/--
Deleting an entry with null leaves a field as it is, or happens inside the value of the field. A
field that is itself deleted was null before and counts as null after.
-/
theorem IsNull.field_delete (h : IsNull key place d) (name : String) :
    field name (entriesOf (layer (d.delete key place))) = field name (entriesOf (layer d)) ∨
      ∃ rest v, place = .key name :: rest ∧ IsNull key rest v ∧
        field name (entriesOf (layer d)) = layer v ∧
        field name (entriesOf (layer (d.delete key place))) = layer (v.delete key rest) := by
  obtain ⟨entries, hplace, hkey⟩ := h
  match place, d with
  | [], d =>
    cases hplace
    change field name (Entries.without key entries) = field name entries ∨ _
    rw [Entries.field_eq_value?, Entries.field_eq_value?]
    by_cases hname : .text name = key
    · subst hname
      rw [Entries.value?_without_self, hkey]
      exact .inl rfl
    · rw [Entries.value?_without_of_ne hname]
      exact .inl rfl
  | .key step :: rest, .map es =>
    change field name (Entries.modify (.text step) (delete key rest) es) = field name es ∨
      ∃ rest' v, _ ∧ _ ∧ field name es = _ ∧
        field name (Entries.modify (.text step) (delete key rest) es) = _
    rw [Entries.field_eq_value?, Entries.field_eq_value?]
    by_cases hstep : name = step
    · subst hstep
      obtain ⟨v, hv, hrest⟩ := Option.bind_eq_some_iff.1 hplace
      refine .inr ⟨rest, v, rfl, ⟨entries, hrest, hkey⟩, ?_, ?_⟩
      · rw [hv]
        rfl
      · rw [Entries.value?_modify_self, hv]
        rfl
    · have hne : Atom.text name ≠ .text step := fun h => hstep (Atom.text.inj h)
      rw [Entries.value?_modify_of_ne hne]
      exact .inl rfl
  | .index i :: rest, .list items => exact .inl rfl

/-- The same tree, or the one without an entry with null. -/
def Trimmed (d d' : Document) : Prop :=
  d' = d ∨ ∃ key place, IsNull key place d ∧ d' = d.delete key place

theorem forall₂_trimmed_refl (items : List Document) : List.Forall₂ Trimmed items items :=
  List.forall₂_same.2 fun _ _ => .inl rfl

theorem sameField_refl (key : String) (entries : List (Atom × Document)) :
    SameField Trimmed key entries entries := by
  rw [SameField, Entries.field_eq_value?]
  cases value? (.text key) entries with
  | none => exact .inl ⟨rfl, rfl⟩
  | some v => exact .inr ⟨v, v, .inl rfl, rfl, rfl⟩

theorem forall₂_trimmed_modify {i : Nat} {items : List Document} {v : Document}
    {f : Document → Document} (hv : items[i]? = some v) (h : Trimmed v (f v)) :
    List.Forall₂ Trimmed items (items.modify i f) := by
  induction items generalizing i with
  | nil => simp at hv
  | cons d items ih =>
    cases i with
    | zero =>
      obtain rfl : d = v := by simpa using hv
      exact .cons h (forall₂_trimmed_refl items)
    | succ i => exact .cons (.inl rfl) (ih (by simpa using hv))

theorem IsNull.sameField (h : IsNull key place d) (name : String) :
    SameField Trimmed name (entriesOf (layer d)) (entriesOf (layer (d.delete key place))) := by
  obtain hsame | ⟨rest, v, -, hv, hfield, hfield'⟩ := h.field_delete name
  · rw [SameField, hsame]
    exact sameField_refl name _
  · exact .inr ⟨v, v.delete key rest, .inr ⟨key, rest, hv, rfl⟩, hfield, hfield'⟩

theorem alikeAll_trimmed : AlikeAll Trimmed := by
  rintro d d' (h | ⟨key, place, h, rfl⟩)
  · rw [h]
    cases d with
    | atom a => exact .atom a
    | list items => exact .list (forall₂_trimmed_refl items)
    | map entries => exact .map fun name => sameField_refl name entries
    | other text isEmpty => exact .other isEmpty
  · have hfields := h.sameField
    obtain ⟨entries, hplace, hkey⟩ := h
    match place, d with
    | [], .map es => exact .map hfields
    | .key name :: rest, .map es => exact .map hfields
    | .index i :: rest, .list items =>
      obtain ⟨v, hv, hrest⟩ := Option.bind_eq_some_iff.1 hplace
      exact .list (forall₂_trimmed_modify hv (.inr ⟨key, rest, ⟨entries, hrest, hkey⟩, rfl⟩))

/-- Null entries that do not lie inside a part of the name table leave its texts alone. -/
theorem IsNull.sameGlossary {part : String} (h : IsNull key place d)
    (hplace : ¬ [.key "mappings", .key part] <+: place) :
    SameGlossary part (field "mappings" (entriesOf (layer d)))
      (field "mappings" (entriesOf (layer (d.delete key place)))) := by
  intro _
  obtain hsame | ⟨rest, v, rfl, hv, htable, htable'⟩ := h.field_delete "mappings"
  · rw [hsame]
  · rw [htable, htable']
    obtain hsame | ⟨rest, _, rfl, -⟩ := hv.field_delete part
    · rw [hsame]
    · exact absurd (List.prefix_append _ rest) hplace

end Document

open Document

/-- Outside of the texts of the name table, an entry with null counts as no entry. -/
theorem Bridge.ofDocument_delete_null {d : Document} {place : Description.Place} {key : Atom}
    (hnull : IsNull key place d)
    (hrenames : ¬ [.key "mappings", .key "cxx_names"] <+: place)
    (hnamespaces : ¬ [.key "mappings", .key "namespaces"] <+: place) :
    Bridge.ofDocument (d.delete key place) = Bridge.ofDocument d := by
  have htrimmed : Trimmed d (d.delete key place) := .inr ⟨key, place, hnull, rfl⟩
  have hsame := Bridge.ofDocument_eq_of_alike alikeAll_trimmed htrimmed
    (hnull.sameGlossary hrenames) (hnull.sameGlossary hnamespaces)
  exact hsame.symm

/-- A signal that leaves open whether it is inherited. -/
def openInherit : Document :=
  .map [(.text "qobjects", .list [.map [
    (.text "ident", .atom (.text "Button")),
    (.text "signals", .list [.map [
      (.text "name", .atom (.text "clicked")), (.text "inherit", .atom .null)]])]])]

theorem Bridge.ofDocument_delete_openInherit :
    IsNull (.text "inherit") [.key "qobjects", .index 0, .key "signals", .index 0] openInherit ∧
      ¬ [.key "mappings", .key "cxx_names"] <+:
        [Step.key "qobjects", .index 0, .key "signals", .index 0] ∧
      ¬ [.key "mappings", .key "namespaces"] <+:
        [Step.key "qobjects", .index 0, .key "signals", .index 0] ∧
      Bridge.ofDocument (openInherit.delete (.text "inherit")
          [.key "qobjects", .index 0, .key "signals", .index 0]) =
        Bridge.ofDocument openInherit := by
  have hnull : IsNull (.text "inherit") [.key "qobjects", .index 0, .key "signals", .index 0]
      openInherit := ⟨_, rfl, rfl⟩
  have hrenames : ¬ [.key "mappings", .key "cxx_names"] <+:
      [Step.key "qobjects", .index 0, .key "signals", .index 0] := by decide
  have hnamespaces : ¬ [.key "mappings", .key "namespaces"] <+:
      [Step.key "qobjects", .index 0, .key "signals", .index 0] := by decide
  exact ⟨hnull, hrenames, hnamespaces, Bridge.ofDocument_delete_null hnull hrenames hnamespaces⟩

/-- A namespace that is left empty. -/
def openNamespace : Document :=
  .map [(.text "mappings", .map [(.text "namespaces", .map [(.text "A", .atom .null)])])]

/-- In the name table the text of null counts: `A` has a namespace only as long as it has null. -/
theorem Bridge.ofDocument_delete_openNamespace :
    IsNull (.text "A") [.key "mappings", .key "namespaces"] openNamespace ∧
      (Bridge.ofDocument openNamespace).map (fun b => b.table.cppName "A") =
        .ok "::None::A" ∧
      (Bridge.ofDocument (openNamespace.delete (.text "A")
          [.key "mappings", .key "namespaces"])).map (fun b => b.table.cppName "A") =
        .ok "A" :=
  ⟨⟨_, rfl, rfl⟩, by decide +kernel, by decide +kernel⟩

end SignalBinding
