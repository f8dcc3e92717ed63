import Mathlib.Data.List.Forall2
import SignalBinding.Proofs.DescriptionForm

/-!
# Descriptions that are read alike

Two documents that differ in nothing but entries with null describe the same bridge, or break the
same rule at the same place. The parts of the name table are left to the caller, since there every
value has a text.

## Main definitions

- `Alike`: levels that differ in nothing but null entries
- `SameReaders`: readers to which such levels are the same
- `Bridge.ofDocument_eq_of_alike`
-/

namespace SignalBinding

namespace Description

open Entries (field)

variable {α δ δ' : Type} [Layered δ] [Layered δ']

/-- A key counts as null in both maps, or its values in them are related by `R`. -/
def SameField (R : δ → δ' → Prop) (key : String) (entries : List (Atom × δ))
    (entries' : List (Atom × δ')) : Prop :=
  (field key entries = .atom .null ∧ field key entries' = .atom .null) ∨
    ∃ v v', R v v' ∧ field key entries = layer v ∧ field key entries' = layer v'

/-- Levels that differ in nothing but null entries, and of which the parts are related by `R`. -/
inductive Alike (R : δ → δ' → Prop) : Layer δ → Layer δ' → Prop
  | atom (a : Atom) : Alike R (.atom a) (.atom a)
  | list {items : List δ} {items' : List δ'} (h : List.Forall₂ R items items') :
      Alike R (.list items) (.list items')
  | map {entries : List (Atom × δ)} {entries' : List (Atom × δ')}
      (h : ∀ key, SameField R key entries entries') : Alike R (.map entries) (.map entries')
  | other (isEmpty : Bool) : Alike R (.other isEmpty) (.other isEmpty)

/-- Related values are alike, and so are their parts, as deep as one looks. -/
def AlikeAll (R : δ → δ' → Prop) : Prop :=
  ∀ v v', R v v' → Alike R (layer v) (layer v')

/-- Two readers do not tell levels apart that are alike. -/
def SameReaders (R : δ → δ' → Prop) (read : Place → Layer δ → Except Fault α)
    (read' : Place → Layer δ' → Except Fault α) : Prop :=
  ∀ place d d', Alike R d d' → read place d = read' place d'

variable {R : δ → δ' → Prop} {d : Layer δ} {d' : Layer δ'} {entries : List (Atom × δ)}
  {entries' : List (Atom × δ')} {key : String} {place : Place}

/-! ### Values -/

theorem SameField.alike (hR : AlikeAll R) (h : SameField R key entries entries') :
    Alike R (field key entries) (field key entries') := by
  obtain ⟨hv, hv'⟩ | ⟨v, v', hvv, hv, hv'⟩ := h
  · rw [hv, hv']
    exact .atom .null
  · rw [hv, hv']
    exact hR v v' hvv

theorem Alike.asText?_eq (h : Alike R d d') : asText? d = asText? d' := by
  cases h with
  | atom a => cases a <;> rfl
  | list => rfl
  | map => rfl
  | other => rfl

theorem Alike.asFlag_eq (h : Alike R d d') (standard : Bool) :
    asFlag standard place d = asFlag standard place d' := by
  cases h with
  | atom a => cases a <;> rfl
  | list => rfl
  | map => rfl
  | other => rfl

/-! ### Lists and maps -/

section

variable {read : Place → Layer δ → Except Fault α} {read' : Place → Layer δ' → Except Fault α}

theorem SameReaders.each_eq (hR : AlikeAll R) (hread : SameReaders R read read') {i : Nat}
    {items : List δ} {items' : List δ'} (h : List.Forall₂ R items items') :
    each read place i items = each read' place i items' := by
  induction h generalizing i with
  | nil => rfl
  | cons hv _ ih => rw [each, each, hread _ _ _ (hR _ _ hv), ih]

theorem SameReaders.eachUnder_eq (hR : AlikeAll R) (hread : SameReaders R read read')
    (h : ∀ key, SameField R key entries entries') :
    eachUnder entries key place read = eachUnder entries' key place read' := by
  unfold eachUnder
  have hvalue := (h key).alike hR
  generalize field key entries = d at hvalue
  generalize field key entries' = d' at hvalue
  cases hvalue with
  | atom a => cases a <;> rfl
  | list hitems => exact hread.each_eq hR hitems
  | map => rfl
  | other => rfl

theorem required_eq (hR : AlikeAll R) (h : ∀ key, SameField R key entries entries') :
    required entries key place = required entries' key place := by
  rw [required, required, ((h key).alike hR).asText?_eq]

/-- It is enough for readers of maps to agree on entries with the same fields. -/
theorem sameReaders_of_asMap {read : Place → List (Atom × δ) → Except Fault α}
    {read' : Place → List (Atom × δ') → Except Fault α}
    (h : ∀ place entries entries', (∀ key, SameField R key entries entries') →
      read place entries = read' place entries') :
    SameReaders R (fun place d => do read place (← asMap place d))
      (fun place d => do read' place (← asMap place d)) := by
  intro place d d' hd
  cases hd with
  | atom => rfl
  | list => rfl
  | other => rfl
  | map hentries => exact h place _ _ hentries

end

/-! ### The parts of a description -/

theorem sameReaders_parameterOf (hR : AlikeAll R) :
    SameReaders R (parameterOf (δ := δ)) (parameterOf (δ := δ')) :=
  sameReaders_of_asMap fun place _ _ h => by rw [required_eq hR h, required_eq hR h]

theorem signalOf_eq (hR : AlikeAll R) (h : ∀ key, SameField R key entries entries')
    {owner : String} : signalOf entries owner place = signalOf entries' owner place := by
  have hparameters : eachUnder entries "parameters" place parameterOf =
      eachUnder entries' "parameters" place parameterOf :=
    (sameReaders_parameterOf hR).eachUnder_eq hR h
  simp only [signalOf, required_eq hR h, hparameters, ((h _).alike hR).asFlag_eq,
    ((h _).alike hR).asText?_eq]

theorem sameReaders_memberOf (hR : AlikeAll R) (owner : String) :
    SameReaders R (memberOf (δ := δ) owner) (memberOf (δ := δ') owner) :=
  sameReaders_of_asMap fun _ _ _ h => signalOf_eq hR h

theorem sameReaders_objectOf (hR : AlikeAll R) :
    SameReaders R (objectOf (δ := δ)) (objectOf (δ := δ')) :=
  sameReaders_of_asMap fun place _ _ h => by
    simp only [required_eq hR h, (sameReaders_memberOf hR _).eachUnder_eq hR h,
      ((h _).alike hR).asText?_eq]

theorem sameReaders_freeSignalOf (hR : AlikeAll R) :
    SameReaders R (freeSignalOf (δ := δ)) (freeSignalOf (δ := δ')) :=
  sameReaders_of_asMap fun place _ _ h => by
    simp only [required_eq hR h, signalOf_eq hR h]

/-- Two levels give the same names and texts in the part `key` of a name table. -/
def SameGlossary (key : String) (d : Layer δ) (d' : Layer δ') : Prop :=
  ∀ place,
    glossaryOf place (field key (entriesOf d)) = glossaryOf place (field key (entriesOf d'))

theorem tableOf_eq (h : Alike R d d') (hrenames : SameGlossary "cxx_names" d d')
    (hnamespaces : SameGlossary "namespaces" d d') : tableOf d = tableOf d' := by
  cases h with
  | atom a => cases a <;> rfl
  | list => rfl
  | other => rfl
  | @map entries entries' =>
    have hrenames := hrenames [.key "mappings", .key "cxx_names"]
    have hnamespaces := hnamespaces [.key "mappings", .key "namespaces"]
    simp only [entriesOf] at hrenames hnamespaces
    simp only [tableOf, asMap, bind, Except.bind, List.cons_append, List.nil_append, hrenames,
      hnamespaces]

end Description

open Description
open Entries (field)

theorem Bridge.ofDocument_eq_of_alike {δ δ' : Type} [Layered δ] [Layered δ'] {R : δ → δ' → Prop}
    (hR : AlikeAll R) {d : δ} {d' : δ'} (hd : R d d')
    (hrenames : SameGlossary "cxx_names" (field "mappings" (entriesOf (layer d)))
      (field "mappings" (entriesOf (layer d'))))
    (hnamespaces : SameGlossary "namespaces" (field "mappings" (entriesOf (layer d)))
      (field "mappings" (entriesOf (layer d')))) :
    Bridge.ofDocument d = Bridge.ofDocument d' := by
  unfold Bridge.ofDocument
  have hlayers := hR d d' hd
  generalize layer d = l at *
  generalize layer d' = l' at *
  cases hlayers with
  | atom => rfl
  | list => rfl
  | other => rfl
  | map h =>
    have hobjects : eachUnder _ "qobjects" [] objectOf = eachUnder _ "qobjects" [] objectOf :=
      (sameReaders_objectOf hR).eachUnder_eq hR h
    have hfree : eachUnder _ "free_signals" [] freeSignalOf =
        eachUnder _ "free_signals" [] freeSignalOf :=
      (sameReaders_freeSignalOf hR).eachUnder_eq hR h
    have htable := tableOf_eq ((h "mappings").alike hR) hrenames hnamespaces
    simp only [asMap, bind, Except.bind, hobjects, hfree, htable]

end SignalBinding
