import Mathlib.Data.List.Forall2
import SignalBinding.Proofs.NullEntries

/-!
# Values that are the same

Two texts never have a value in common, since each keeps values of its own. Whether a value of one
is that of the other is therefore asked level by level: both have the same text and the same
outermost level, and so have their parts, as deep as one looks, also where values lie inside
themselves.

## Main definitions

- `SameEntries`, `SameLevel`: levels of which the parts are related
- `Same`: the largest relation by which only values are related that are the same on every level

## Main statements

- `SameEntries.field`: the same entries have the same fields
- `SameLevel.glossaryOf_eq`, `SameLevel.tableOf_eq`: what a name table makes of the same value
-/

namespace SignalBinding

open Description
open Entries (field without)

variable {δ δ' : Type} {R : δ → δ' → Prop}

/-- The same keys in the same order, of which the values are related by `R`. -/
def SameEntries (R : δ → δ' → Prop) : List (Atom × δ) → List (Atom × δ') → Prop :=
  List.Forall₂ fun e e' => e.1 = e'.1 ∧ R e.2 e'.2

/-- The same level, up to the parts, which are related by `R`. -/
inductive SameLevel (R : δ → δ' → Prop) : Layer δ → Layer δ' → Prop
  | atom (a : Atom) : SameLevel R (.atom a) (.atom a)
  | list {items : List δ} {items' : List δ'} (h : List.Forall₂ R items items') :
      SameLevel R (.list items) (.list items')
  | map {entries : List (Atom × δ)} {entries' : List (Atom × δ')}
      (h : SameEntries R entries entries') : SameLevel R (.map entries) (.map entries')
  | other (isEmpty : Bool) : SameLevel R (.other isEmpty) (.other isEmpty)

theorem SameEntries.mono {S : δ → δ' → Prop} (hRS : ∀ v v', R v v' → S v v')
    {entries : List (Atom × δ)} {entries' : List (Atom × δ')} (h : SameEntries R entries entries') :
    SameEntries S entries entries' :=
  List.Forall₂.imp (fun _ _ he => ⟨he.1, hRS _ _ he.2⟩) h

theorem SameLevel.mono {S : δ → δ' → Prop} (hRS : ∀ v v', R v v' → S v v') {l : Layer δ}
    {l' : Layer δ'} (h : SameLevel R l l') : SameLevel S l l' := by
  cases h with
  | atom a => exact .atom a
  | list hitems => exact .list (hitems.imp hRS)
  | map hentries => exact .map (hentries.mono hRS)
  | other isEmpty => exact .other isEmpty

theorem SameLevel.eq_atom {a : Atom} {l' : Layer δ'} (h : SameLevel R (.atom a) l') :
    l' = .atom a := by
  cases h
  rfl

variable [Layered δ] [Layered δ']

/-- What `R` relates has the same text and the same outermost level, with parts that `R` relates
again. -/
def IsSameness (R : δ → δ' → Prop) : Prop :=
  ∀ v v', R v v' → Layered.print v = Layered.print v' ∧ SameLevel R (layer v) (layer v')

/-- The values are the same, on every level of them. -/
def Same (v : δ) (v' : δ') : Prop :=
  ∃ R, IsSameness R ∧ R v v'

variable {v : δ} {v' : δ'}

theorem Same.print_eq : Same v v' → Layered.print v = Layered.print v'
  | ⟨_, hR, hv⟩ => (hR _ _ hv).1

/-- The parts of the same values are the same. -/
theorem Same.level : Same v v' → SameLevel Same (layer v) (layer v')
  | ⟨R, hR, hv⟩ => (hR _ _ hv).2.mono fun _ _ h => ⟨R, hR, h⟩

theorem Same.refl (v : δ) : Same v v := by
  refine ⟨(· = ·), ?_, rfl⟩
  rintro v _ rfl
  refine ⟨rfl, ?_⟩
  cases layer v with
  | atom a => exact .atom a
  | list items => exact .list (List.forall₂_same.2 fun _ _ => rfl)
  | map entries => exact .map (List.forall₂_same.2 fun _ _ => ⟨rfl, rfl⟩)
  | other isEmpty => exact .other isEmpty

/-- Values without parts are the same if they have the same text. -/
theorem same_of_atom {a : Atom} (h : layer v = .atom a) (h' : layer v' = .atom a)
    (hprint : Layered.print v = Layered.print v') : Same v v' := by
  refine ⟨fun u u' => u = v ∧ u' = v', ?_, rfl, rfl⟩
  rintro _ _ ⟨rfl, rfl⟩
  rw [h, h']
  exact ⟨hprint, .atom a⟩

/-! ### The same entries -/

section Entries

variable {entries : List (Atom × δ)} {entries' : List (Atom × δ')} {name : String} {key : Atom}

/-- A key is missing on both sides, or the same relation holds of its two entries as of all. -/
theorem field_of_forall₂ {P : Atom × δ → Atom × δ' → Prop}
    (hP : ∀ e e', P e e' → e.1 = e'.1) (h : List.Forall₂ P entries entries') (name : String) :
    (field name entries = .atom .null ∧ field name entries' = .atom .null) ∨
      ∃ e e', P e e' ∧ e.1 = .text name ∧
        field name entries = layer e.2 ∧ field name entries' = layer e'.2 := by
  induction h with
  | nil => exact .inl ⟨rfl, rfl⟩
  | @cons e e' entries entries' he _ ih =>
    obtain ⟨k, v⟩ := e
    obtain ⟨k', v'⟩ := e'
    obtain rfl : k = k' := hP _ _ he
    rw [field, field]
    cases hk : k.sameKey (.text name) with
    | true => exact .inr ⟨(k, v), (k, v'), he, Atom.sameKey_text_iff.1 hk, rfl, rfl⟩
    | false => exact ih

theorem SameEntries.field (h : SameEntries Same entries entries') (name : String) :
    SameLevel Same (field name entries) (field name entries') := by
  obtain ⟨hnull, hnull'⟩ | ⟨e, e', ⟨-, he⟩, -, hfield, hfield'⟩ :=
    field_of_forall₂ (fun _ _ he => he.1) h name
  · rw [hnull, hnull']
    exact .atom .null
  · rw [hfield, hfield']
    exact he.level

theorem Entries.field_without_self (entries : List (Atom × δ)) :
    Entries.field name (without (.text name) entries) = .atom .null := by
  rw [Entries.field_eq_value?, Entries.value?_without_self]
  rfl

theorem Entries.field_without_of_ne (h : .text name ≠ key) (entries : List (Atom × δ)) :
    Entries.field name (without key entries) = Entries.field name entries := by
  rw [Entries.field_eq_value?, Entries.field_eq_value?, Entries.value?_without_of_ne h]

end Entries

/-! ### Name tables of the same value -/

variable {l : Layer δ} {l' : Layer δ'}

theorem SameLevel.glossaryOf_eq (h : SameLevel Same l l') (place : Description.Place) :
    glossaryOf place l = glossaryOf place l' := by
  cases h with
  | atom a => cases a <;> rfl
  | list => rfl
  | other => rfl
  | @map entries entries' hentries =>
    have htexts : entries.map (fun e => (e.1.print, Layered.print e.2)) =
        entries'.map (fun e => (e.1.print, Layered.print e.2)) := by
      induction hentries with
      | nil => rfl
      | @cons e e' _ _ he _ ih =>
        have hkey : e.1.print = e'.1.print := by rw [he.1]
        exact congrArg₂ List.cons (Prod.ext hkey he.2.print_eq) ih
    exact congrArg (fun texts => Except.ok (Glossary.ofList texts)) htexts

/-- A table takes nothing from a map but the names and texts of its two parts. -/
theorem tableOf_map_eq {entries : List (Atom × δ)} {entries' : List (Atom × δ')}
    (hrenames : ∀ place,
      glossaryOf place (field "cxx_names" entries) = glossaryOf place (field "cxx_names" entries'))
    (hnamespaces : ∀ place, glossaryOf place (field "namespaces" entries) =
      glossaryOf place (field "namespaces" entries')) :
    tableOf (.map entries) = tableOf (.map entries') := by
  simp only [tableOf, asMap, bind, Except.bind, hrenames, hnamespaces]

theorem SameLevel.tableOf_eq (h : SameLevel Same l l') : tableOf l = tableOf l' := by
  cases h with
  | atom a => cases a <;> rfl
  | list => rfl
  | other => rfl
  | map hentries =>
    exact tableOf_map_eq (hentries.field _).glossaryOf_eq (hentries.field _).glossaryOf_eq

end SignalBinding
