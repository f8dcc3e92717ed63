import SignalBinding.Proofs.DescriptionForm
import SignalBinding.Proofs.Outcomes

/-!
# Descriptions are read as what they describe

Each reader of a description accepts the values of one form and no others, whatever their place, and
answers with the image of the value. The forms and images of a description are put together as its
readers are, so the same holds of whole documents.

## Main definitions

- `Description.Reads`: a reader accepts a form and answers with an image
-/

namespace SignalBinding

namespace Description

open Entries (field)

variable {α δ : Type} {place : Place} {d : Layer δ}

/-! ### Single values -/

theorem isMapWith_iff {q : List (Atom × δ) → Prop} :
    IsMapWith q d ↔ IsMap d ∧ q (entriesOf d) := by
  cases d <;> simp [IsMapWith, IsMap, entriesOf]

theorem asMap_eq_ok_iff {entries : List (Atom × δ)} :
    asMap place d = .ok entries ↔ IsMap d ∧ entries = entriesOf d := by
  cases d <;> simp [asMap, IsMap, entriesOf, eq_comm]

theorem asList_eq_ok_iff {items : List δ} :
    asList place d = .ok items ↔
      (d = .atom .null ∨ ∃ items, d = .list items) ∧ items = itemsOf d := by
  unfold asList itemsOf
  split <;> simp_all [eq_comm]

theorem asFlag_eq_ok_iff {standard b : Bool} :
    asFlag standard place d = .ok b ↔ (d = .atom .null ∨ IsFlag d) ∧ b = flagOf standard d := by
  unfold asFlag flagOf IsFlag
  split <;> simp_all [eq_comm]

theorem toString_int_ne_empty (n : Int) : toString n ≠ "" := by
  cases n with
  | ofNat n => exact Nat.repr_ne_empty
  | negSucc n =>
    change "-" ++ Nat.repr (n + 1) ≠ ""
    simp

/-- No number has an empty text. -/
theorem isText_iff : IsText d ↔ ∃ s, asText? d = some s ∧ s ≠ "" := by
  cases d with
  | atom a =>
    cases a with
    | int n => simpa [IsText, asText?] using toString_int_ne_empty n
    | float x => simpa [IsText, asText?] using Document.floatText_ne_empty x
    | _ => simp [IsText, asText?]
  | list items => simp [IsText, asText?]
  | map entries => simp [IsText, asText?]
  | other isEmpty => simp [IsText, asText?]

variable [Layered δ] {key : String} {entries : List (Atom × δ)}

theorem required_eq_ok_iff {s : String} :
    required entries key place = .ok s ↔
      Requires key IsText entries ∧ s = textOf (field key entries) := by
  rw [requires_iff (by simp [IsText]), isText_iff, required, textOf]
  cases asText? (field key entries) with
  | none => simp
  | some t =>
    by_cases ht : t = ""
    · simp [ht]
    · simp [ht, eq_comm]

/-! ### Lists -/

/-- The reader accepts exactly the values of the form `p`, and answers with their image. -/
def Reads (read : Place → Layer δ → Except Fault α) (p : Layer δ → Prop) (image : Layer δ → α) :
    Prop :=
  ∀ place d a, read place d = .ok a ↔ p d ∧ a = image d

variable {read : Place → Layer δ → Except Fault α} {p : Layer δ → Prop} {image : Layer δ → α}

theorem Reads.each_eq_ok_iff (h : Reads read p image) {i : Nat} {items : List δ} {as : List α} :
    each read place i items = .ok as ↔
      (∀ d ∈ items, p (layer d)) ∧ as = items.map fun d => image (layer d) := by
  induction items generalizing i as with
  | nil => simp [each, pure_eq_ok_iff]
  | cons d items ih =>
    simp only [each, bind_eq_ok_iff, pure_eq_ok_iff, h (place ++ [.index i]), ih,
      List.forall_mem_cons, List.map_cons]
    constructor
    · rintro ⟨a, ⟨hd, rfl⟩, as, ⟨hitems, rfl⟩, rfl⟩
      exact ⟨⟨hd, hitems⟩, rfl⟩
    · rintro ⟨⟨hd, hitems⟩, rfl⟩
      exact ⟨_, ⟨hd, rfl⟩, _, ⟨hitems, rfl⟩, rfl⟩

theorem Reads.eachUnder_eq_ok_iff (h : Reads read p image) {as : List α} :
    eachUnder entries key place read = .ok as ↔
      Allows key (IsListOf p) entries ∧
        as = (itemsOf (field key entries)).map fun d => image (layer d) := by
  simp only [eachUnder, bind_eq_ok_iff, asList_eq_ok_iff, h.each_eq_ok_iff, allows_iff]
  cases field key entries with
  | atom a => cases a <;> simp [itemsOf, IsListOf]
  | list items => simp [itemsOf, IsListOf]
  | map entries => simp [itemsOf, IsListOf]
  | other isEmpty => simp [itemsOf, IsListOf]

/-! ### The parts of a description -/

theorem reads_parameterOf : Reads (δ := δ) parameterOf (IsMapWith IsParameter) parameterImage := by
  intro place d a
  simp only [parameterOf, bind_eq_ok_iff, asMap_eq_ok_iff, required_eq_ok_iff, pure_eq_ok_iff,
    isMapWith_iff]
  constructor
  · rintro ⟨entries, ⟨hd, rfl⟩, ident, ⟨hident, rfl⟩, type, ⟨htype, rfl⟩, rfl⟩
    exact ⟨⟨hd, hident, htype⟩, rfl⟩
  · rintro ⟨⟨hd, hident, htype⟩, rfl⟩
    exact ⟨_, ⟨hd, rfl⟩, _, ⟨hident, rfl⟩, _, ⟨htype, rfl⟩, rfl⟩

theorem ofRust_eq_nameImage :
    NamePair.ofRust (textOf (field "name" entries)) (asText? (field "cxx_name" entries)) =
      nameImage entries := by
  unfold NamePair.ofRust nameImage textOf
  cases asText? (field "cxx_name" entries) <;> simp

theorem signalOf_eq_ok_iff {owner : String} {s : Signal} :
    signalOf entries owner place = .ok s ↔
      IsSignal entries ∧ s = signalImage owner (.map entries) := by
  simp only [signalOf, bind_eq_ok_iff, required_eq_ok_iff, reads_parameterOf.eachUnder_eq_ok_iff,
    asFlag_eq_ok_iff, pure_eq_ok_iff, ← allows_iff]
  constructor
  · rintro ⟨name, ⟨hname, rfl⟩, parameters, ⟨hparameters, rfl⟩, m, ⟨hmutable, rfl⟩, safe,
      ⟨hsafe, rfl⟩, inherit, ⟨hinherit, rfl⟩, rfl⟩
    refine ⟨⟨hname, hparameters, hmutable, hsafe, hinherit⟩, ?_⟩
    rw [ofRust_eq_nameImage]
    rfl
  · rintro ⟨⟨hname, hparameters, hmutable, hsafe, hinherit⟩, rfl⟩
    refine ⟨_, ⟨hname, rfl⟩, _, ⟨hparameters, rfl⟩, _, ⟨hmutable, rfl⟩, _, ⟨hsafe, rfl⟩, _,
      ⟨hinherit, rfl⟩, ?_⟩
    rw [ofRust_eq_nameImage]
    rfl

theorem reads_memberOf (owner : String) :
    Reads (δ := δ) (memberOf owner) (IsMapWith IsSignal) (signalImage owner) := by
  intro place d s
  simp only [memberOf, bind_eq_ok_iff, asMap_eq_ok_iff, signalOf_eq_ok_iff, isMapWith_iff]
  constructor
  · rintro ⟨entries, ⟨hd, rfl⟩, hsignal, rfl⟩
    exact ⟨⟨hd, hsignal⟩, rfl⟩
  · rintro ⟨⟨hd, hsignal⟩, rfl⟩
    exact ⟨_, ⟨hd, rfl⟩, hsignal, rfl⟩

theorem reads_objectOf : Reads (δ := δ) objectOf (IsMapWith IsObject) objectImage := by
  intro place d o
  simp only [objectOf, bind_eq_ok_iff, asMap_eq_ok_iff, required_eq_ok_iff,
    (reads_memberOf _).eachUnder_eq_ok_iff, pure_eq_ok_iff, isMapWith_iff]
  constructor
  · rintro ⟨entries, ⟨hd, rfl⟩, ident, ⟨hident, rfl⟩, signals, ⟨hsignals, rfl⟩, rfl⟩
    exact ⟨⟨hd, hident, hsignals⟩, rfl⟩
  · rintro ⟨⟨hd, hident, hsignals⟩, rfl⟩
    exact ⟨_, ⟨hd, rfl⟩, _, ⟨hident, rfl⟩, _, ⟨hsignals, rfl⟩, rfl⟩

theorem reads_freeSignalOf :
    Reads (δ := δ) freeSignalOf (IsMapWith IsFreeSignal) freeSignalImage := by
  intro place d s
  simp only [freeSignalOf, bind_eq_ok_iff, asMap_eq_ok_iff, required_eq_ok_iff, signalOf_eq_ok_iff,
    isMapWith_iff]
  constructor
  · rintro ⟨entries, ⟨hd, rfl⟩, owner, ⟨howner, rfl⟩, hsignal, rfl⟩
    exact ⟨⟨hd, howner, hsignal⟩, rfl⟩
  · rintro ⟨⟨hd, howner, hsignal⟩, rfl⟩
    exact ⟨_, ⟨hd, rfl⟩, _, ⟨howner, rfl⟩, hsignal, rfl⟩

/-! ### The name table -/

theorem glossaryOf_eq_ok_iff {g : Glossary} :
    glossaryOf place d = .ok g ↔ (d = .atom .null ∨ IsMap d) ∧ g = glossaryImage d := by
  unfold glossaryOf
  split
  · simp only [pure_eq_ok_iff, true_or, true_and]
    rfl
  next hnull =>
    simp only [bind_eq_ok_iff, asMap_eq_ok_iff, pure_eq_ok_iff]
    constructor
    · rintro ⟨entries, ⟨hd, rfl⟩, rfl⟩
      exact ⟨.inr hd, rfl⟩
    · rintro ⟨hd, rfl⟩
      exact ⟨_, ⟨hd.resolve_left hnull, rfl⟩, rfl⟩

theorem tableOf_eq_ok_iff {t : NameTable} :
    tableOf d = .ok t ↔ (d = .atom .null ∨ IsMapWith IsTable d) ∧ t = tableImage d := by
  unfold tableOf
  split
  · simp only [pure_eq_ok_iff, true_or, true_and]
    rfl
  next hnull =>
    simp only [bind_eq_ok_iff, asMap_eq_ok_iff, pure_eq_ok_iff, glossaryOf_eq_ok_iff, ← allows_iff,
      isMapWith_iff]
    constructor
    · rintro ⟨entries, ⟨hd, rfl⟩, renames, ⟨hrenames, rfl⟩, namespaces, ⟨hnamespaces, rfl⟩, rfl⟩
      exact ⟨.inr ⟨hd, hrenames, hnamespaces⟩, rfl⟩
    · rintro ⟨hd, rfl⟩
      obtain ⟨hd, hrenames, hnamespaces⟩ := hd.resolve_left hnull
      exact ⟨_, ⟨hd, rfl⟩, _, ⟨hrenames, rfl⟩, _, ⟨hnamespaces, rfl⟩, rfl⟩

end Description

open Description

namespace Bridge

variable {δ : Type} [Layered δ]

theorem ofDocument_eq_ok_iff {d : δ} {b : Bridge} :
    ofDocument d = .ok b ↔ IsMapWith IsBridge (layer d) ∧ b = bridgeImage (layer d) := by
  simp only [ofDocument, bind_eq_ok_iff, asMap_eq_ok_iff, pure_eq_ok_iff,
    reads_objectOf.eachUnder_eq_ok_iff, reads_freeSignalOf.eachUnder_eq_ok_iff, tableOf_eq_ok_iff,
    ← allows_iff (p := IsMapWith IsTable)]
  rw [isMapWith_iff]
  constructor
  · rintro ⟨entries, ⟨hd, rfl⟩, objects, ⟨hobjects, rfl⟩, freeSignals, ⟨hfree, rfl⟩, table,
      ⟨htable, rfl⟩, rfl⟩
    exact ⟨⟨hd, hobjects, hfree, htable⟩, rfl⟩
  · rintro ⟨⟨hd, hobjects, hfree, htable⟩, rfl⟩
    exact ⟨_, ⟨hd, rfl⟩, _, ⟨hobjects, rfl⟩, _, ⟨hfree, rfl⟩, _, ⟨htable, rfl⟩, rfl⟩

/--
A document is accepted if and only if it has the form of a description, and is then read as its
image.
-/
theorem ofDocument_accepts_form (d : δ) :
    ((∃ b, ofDocument d = .ok b) ↔ IsMapWith IsBridge (layer d)) ∧
      ∀ b, ofDocument d = .ok b ↔ IsMapWith IsBridge (layer d) ∧ b = bridgeImage (layer d) := by
  refine ⟨?_, fun b => ofDocument_eq_ok_iff⟩
  simp only [ofDocument_eq_ok_iff, exists_and_left, exists_eq, and_true]

end Bridge

end SignalBinding
