import SignalBinding.Proofs.DescriptionChecks
import SignalBinding.Proofs.DescriptionReading

/-!
# The fault that is reported

A document may break several rules at once. Reading it reports the first that is broken in the order
of the document: whatever comes before follows its rule, and the place that is named exists in the
document and breaks the rule.

## Main definitions

- `Tells`: an outcome tells whether some checks are respected, or which of them is violated first

## Main statements

- `Description.tells_signalOf` and its kind: what each reader tells of its part
- `Bridge.ofDocument_eq_error_iff_first_violation`: how a document is refused
-/

namespace SignalBinding

namespace Description

open Entries (field)

variable {α β δ : Type} [Layered δ] {place : Place} {d v : Layer δ} {entries : List (Atom × δ)}
  {checks checks' : List Check} {c : Check} {rule : Rule} {step : Step} {key : String}
  {x : Except Fault α} {f : α → Except Fault β}

/-! ### The first check that is violated -/

namespace Check

theorem IsFirstViolated.append_left (h : IsFirstViolated checks d c) (more : List Check) :
    IsFirstViolated (checks ++ more) d c := by
  obtain ⟨before, after, rfl, hbefore, hc⟩ := h
  exact ⟨before, after ++ more, by simp, hbefore, hc⟩

theorem IsFirstViolated.append_right (h : IsFirstViolated checks' d c)
    (hchecks : ∀ b ∈ checks, b.Respected d) : IsFirstViolated (checks ++ checks') d c := by
  obtain ⟨before, after, rfl, hbefore, hc⟩ := h
  refine ⟨checks ++ before, after, by simp, fun b hb => ?_, hc⟩
  exact (List.mem_append.1 hb).elim (hchecks b) (hbefore b)

theorem isFirstViolated_head (hc : c.Violated d) (more : List Check) :
    IsFirstViolated (c :: more) d c :=
  ⟨[], more, rfl, by simp, hc⟩

/-- A value is as the checks say, or breaks one of them first, but not both. -/
theorem not_respected_of_violated (hc : c.Violated d) : ¬c.Respected d := by
  rintro ⟨v, hv, hholds⟩
  obtain ⟨v', hv', hbroken⟩ := hc
  obtain rfl : v = v' := Option.some.inj (hv.symm.trans hv')
  exact hbroken hholds

theorem IsFirstViolated.unique {c' : Check} (h : IsFirstViolated checks d c)
    (h' : IsFirstViolated checks d c') : c = c' := by
  obtain ⟨before, after, rfl, hbefore, hc⟩ := h
  obtain ⟨before', after', heq, hbefore', hc'⟩ := h'
  obtain ⟨more, rfl, hmore⟩ | ⟨more, rfl, hmore⟩ := List.append_eq_append_iff.1 heq
  · cases more with
    | nil => exact (List.cons.inj hmore).1
    | cons b more =>
      obtain ⟨rfl, -⟩ := List.cons.inj hmore
      exact absurd (hbefore' c (by simp)) (not_respected_of_violated hc)
  · cases more with
    | nil => exact (List.cons.inj hmore).1.symm
    | cons b more =>
      obtain ⟨rfl, -⟩ := List.cons.inj hmore
      exact absurd (hbefore c' (by simp)) (not_respected_of_violated hc')

/-! ### Checks of a part -/

theorem Respected.under (h : c.Respected v)
    (hstep : ∀ rest, valueAt? (step :: rest) d = valueAt? rest v) : (c.under step).Respected d :=
  h.imp fun _ hu => ⟨(hstep c.place).trans hu.1, hu.2⟩

theorem IsFirstViolated.under (h : IsFirstViolated checks v c)
    (hstep : ∀ rest, valueAt? (step :: rest) d = valueAt? rest v) :
    IsFirstViolated (checks.map (.under step)) d (c.under step) := by
  obtain ⟨before, after, rfl, hbefore, hc⟩ := h
  refine ⟨before.map (.under step), after.map (.under step), by simp, fun b hb => ?_, ?_⟩
  · obtain ⟨b, hmem, rfl⟩ := List.mem_map.1 hb
    exact (hbefore b hmem).under hstep
  · exact hc.imp fun _ hu => ⟨(hstep c.place).trans hu.1, hu.2⟩

theorem fault_under (place : Place) (step : Step) (c : Check) :
    (c.under step).fault place = c.fault (place ++ [step]) := by
  simp [fault, under]

/-- A user is told the place and what is wrong there. -/
theorem message_fault (c : Check) : (c.fault []).message = c.complaint := by
  obtain ⟨_ | ⟨step, place⟩, rule⟩ := c <;> cases rule <;> rfl

end Check

open Check (IsFirstViolated)

/-- Rules for the value itself. -/
theorem respected_here (h : rule.Holds d) : ({ place := [], rule } : Check).Respected d :=
  ⟨d, valueAt?_nil d, h⟩

theorem violated_here (h : ¬rule.Holds d) : ({ place := [], rule } : Check).Violated d :=
  ⟨d, valueAt?_nil d, h⟩

/-! ### What outcomes tell -/

/--
The outcome of reading `d`, which is at `place` in its document: there is a result only if all
checks are respected, and else the fault is that of the first one that is violated.
-/
structure Tells (place : Place) (d : Layer δ) (checks : List Check) (x : Except Fault α) :
    Prop where
  respected : ∀ a, x = .ok a → ∀ c ∈ checks, c.Respected d
  violated : ∀ e, x = .error e → ∃ c, IsFirstViolated checks d c ∧ e = c.fault place

theorem tells_ok {a : α} (h : ∀ c ∈ checks, c.Respected d) :
    Tells place d checks (.ok a : Except Fault α) :=
  ⟨fun _ _ => h, by simp⟩

theorem tells_error (h : IsFirstViolated checks d c) :
    Tells place d checks (.error (c.fault place) : Except Fault α) :=
  ⟨by simp, fun _ he => ⟨c, h, (Except.error.inj he).symm⟩⟩

theorem Tells.bind (hx : Tells place d checks x)
    (hf : ∀ a, x = .ok a → Tells place d checks' (f a)) :
    Tells place d (checks ++ checks') (x >>= f) := by
  cases hxa : x with
  | error e =>
    obtain ⟨c, hc, rfl⟩ := hx.violated e hxa
    exact tells_error (hc.append_left checks')
  | ok a =>
    have hrespected := hx.respected a hxa
    change Tells place d (checks ++ checks') (f a)
    cases hfa : f a with
    | error e =>
      obtain ⟨c, hc, rfl⟩ := (hf a hxa).violated e hfa
      exact tells_error (hc.append_right hrespected)
    | ok b =>
      have hrest := (hf a hxa).respected b hfa
      exact tells_ok fun c hc => (List.mem_append.1 hc).elim (hrespected c) (hrest c)

/-- Putting a result together takes no more checks. -/
theorem Tells.bind_pure (hx : Tells place d checks x) (result : α → β) :
    Tells place d checks (x >>= fun a => pure (result a)) := by
  have hpure (a : α) : Tells place d [] (pure (result a) : Except Fault β) :=
    tells_ok (by simp)
  have hbind := hx.bind fun a _ => hpure a
  rwa [List.append_nil] at hbind

/-- The checks of a part are those of the whole behind the step to the part. -/
theorem Tells.under (h : Tells (place ++ [step]) v checks x)
    (hstep : ∀ rest, valueAt? (step :: rest) d = valueAt? rest v) :
    Tells place d (checks.map (.under step)) x := by
  constructor
  · intro a ha c hc
    obtain ⟨c, hmem, rfl⟩ := List.mem_map.1 hc
    exact (h.respected a ha c hmem).under hstep
  · intro e he
    obtain ⟨c, hc, rfl⟩ := h.violated e he
    exact ⟨c.under step, hc.under hstep, (Check.fault_under place step c).symm⟩

/-! ### Single values -/

/-- A reader of one value, of which one rule is asked. -/
theorem tells_here (hok : ∀ a, x = .ok a → rule.Holds d)
    (herror : ∀ e, x = .error e → ¬rule.Holds d ∧ e = { place, problem := rule.problem }) :
    Tells place d [{ place := [], rule }] x := by
  constructor
  · intro a ha c hc
    rw [List.mem_singleton.1 hc]
    exact respected_here (hok a ha)
  · intro e he
    obtain ⟨hbroken, rfl⟩ := herror e he
    exact ⟨_, Check.isFirstViolated_head (violated_here hbroken) [], by simp [Check.fault]⟩

theorem tells_required (entries : List (Atom × δ)) (key : String) (place : Place) :
    Tells place (.map entries) [{ place := [], rule := .text key }]
      (required entries key place) := by
  refine tells_here (fun a ha => (required_eq_ok_iff.1 ha).1) fun e he => ⟨fun hholds => ?_, ?_⟩
  · rw [required_eq_ok_iff.2 ⟨hholds, rfl⟩] at he
    cases he
  · unfold required at he
    split at he
    · split at he <;> cases he
      rfl
    · cases he
      rfl

theorem tells_asFlag (standard : Bool) (place : Place) (d : Layer δ) :
    Tells place d [{ place := [], rule := .flag }] (asFlag standard place d) := by
  refine tells_here (fun a ha => (asFlag_eq_ok_iff.1 ha).1) fun e he => ⟨fun hholds => ?_, ?_⟩
  · rw [asFlag_eq_ok_iff.2 ⟨hholds, rfl⟩] at he
    cases he
  · unfold asFlag at he
    split at he <;> cases he
    rfl

omit [Layered δ] in
theorem asMap_of_not_isMap (h : ¬IsMap d) :
    asMap place d = .error { place, problem := .notMap } := by
  cases d with
  | map entries => exact absurd trivial h
  | _ => rfl

theorem tells_glossaryOf (place : Place) (d : Layer δ) :
    Tells place d [{ place := [], rule := .optionalMap }] (glossaryOf place d) := by
  refine tells_here (fun a ha => (glossaryOf_eq_ok_iff.1 ha).1) fun e he => ?_
  have hbroken : ¬Rule.optionalMap.Holds d := fun hholds => by
    rw [glossaryOf_eq_ok_iff.2 ⟨hholds, rfl⟩] at he
    cases he
  refine ⟨hbroken, ?_⟩
  unfold glossaryOf at he
  split at he
  · cases he
  · rw [asMap_of_not_isMap fun hmap => hbroken (.inr hmap)] at he
    exact (Except.error.inj he).symm

/-- Reading a map goes on with its entries. -/
theorem tells_asMap_bind {inside : List (Atom × δ) → List Check}
    {f : List (Atom × δ) → Except Fault β} (hrule : rule.problem = .notMap)
    (hholds : rule.Holds d ↔ IsMap d)
    (h : ∀ entries, d = .map entries → Tells place d (inside entries) (f entries)) :
    Tells place d (mapChecks rule inside d) (asMap place d >>= f) := by
  by_cases hmap : IsMap d
  · have hhere : Tells place d [{ place := [], rule }] (asMap place d) :=
      tells_here (fun _ _ => hholds.2 hmap) fun e he => by
        cases d with
        | map entries => cases he
        | _ => cases hmap
    cases d with
    | map entries => exact hhere.bind fun a ha => by cases ha; exact h entries rfl
    | _ => cases hmap
  · have hfault : asMap place d >>= f = .error (({ place := [], rule } : Check).fault place) := by
      rw [asMap_of_not_isMap hmap, Check.fault, hrule, List.append_nil]
      rfl
    rw [hfault]
    exact tells_error (Check.isFirstViolated_head (violated_here (mt hholds.1 hmap)) _)

/-! ### Lists -/

/-- A reader of one kind of value, wherever it is. -/
def TellsAll (checks : Layer δ → List Check) (read : Place → Layer δ → Except Fault α) : Prop :=
  ∀ place d, Tells place d (checks d) (read place d)

variable {itemChecks : Layer δ → List Check} {read : Place → Layer δ → Except Fault α}

/-- Items are read one after the other; `before` are those that have been read. -/
theorem TellsAll.each (h : TellsAll itemChecks read) (place : Place) (before items : List δ) :
    Tells place (.list (before ++ items))
      ((items.zipIdx before.length).flatMap fun (item, i) =>
        (itemChecks (layer item)).map (.under (.index i)))
      (each read place before.length items) := by
  induction items generalizing before with
  | nil => exact tells_ok (by simp)
  | cons item items ih =>
    have hitem : Tells place (.list (before ++ item :: items))
        ((itemChecks (layer item)).map (.under (.index before.length)))
        (read (place ++ [.index before.length]) (layer item)) :=
      (h (place ++ [.index before.length]) (layer item)).under fun rest => by simp
    have hrest := ih (before ++ [item])
    rw [List.length_append, List.length_singleton, List.append_assoc, List.singleton_append]
      at hrest
    rw [List.zipIdx_cons, List.flatMap_cons, Description.each]
    exact hitem.bind fun a _ => hrest.bind_pure (a :: ·)

theorem TellsAll.eachUnder (h : TellsAll itemChecks read) (entries : List (Atom × δ))
    (key : String) (place : Place) :
    Tells place (.map entries) (fieldChecks key (listChecks itemChecks) entries)
      (eachUnder entries key place read) := by
  refine Tells.under (v := field key entries) ?_ fun _ => rfl
  have hlist : Tells (place ++ [.key key]) (field key entries) [{ place := [], rule := .list }]
      (asList (place ++ [.key key]) (field key entries)) := by
    refine tells_here (fun a ha => (asList_eq_ok_iff.1 ha).1) fun e he => ⟨fun hholds => ?_, ?_⟩
    · rw [asList_eq_ok_iff.2 ⟨hholds, rfl⟩] at he
      cases he
    · unfold asList at he
      split at he <;> cases he
      rfl
  refine hlist.bind fun items hitems => ?_
  obtain ⟨hd | ⟨_, hd⟩, rfl⟩ := asList_eq_ok_iff.1 hitems
  · rw [hd]
    exact tells_ok (by simp [itemsOf])
  · rw [hd]
    exact h.each (place ++ [.key key]) [] _

/-! ### The parts of a description -/

theorem tellsAll_asMap_bind {inside : List (Atom × δ) → List Check}
    {f : Place → List (Atom × δ) → Except Fault β}
    (h : ∀ place entries, Tells place (.map entries) (inside entries) (f place entries)) :
    TellsAll (mapChecks .map inside) fun place d => asMap place d >>= f place := by
  intro place d
  refine tells_asMap_bind rfl .rfl fun entries hd => ?_
  rw [hd]
  exact h place entries

theorem tellsAll_parameterOf : TellsAll (δ := δ) parameterChecks parameterOf :=
  tellsAll_asMap_bind fun place entries =>
    (tells_required entries "ident" place).bind fun _ _ =>
      (tells_required entries "type" place).bind_pure _

theorem tells_flag (entries : List (Atom × δ)) (key : String) (standard : Bool) (place : Place) :
    Tells place (.map entries) [{ place := [.key key], rule := .flag }]
      (asFlag standard (place ++ [.key key]) (field key entries)) :=
  (tells_asFlag standard (place ++ [.key key]) (field key entries)).under fun _ => rfl

theorem tells_signalOf (entries : List (Atom × δ)) (owner : String) (place : Place) :
    Tells place (.map entries) (signalChecks entries) (signalOf entries owner place) := by
  have hflags (mk : Bool → Bool → Bool → Signal) :=
    (tells_flag entries "mutable" true place).bind fun m _ =>
      (tells_flag entries "safe" true place).bind fun s _ =>
        (tells_flag entries "inherit" false place).bind_pure (mk m s)
  have hparameters := tellsAll_parameterOf.eachUnder entries "parameters" place
  rw [signalChecks, List.append_assoc]
  exact (tells_required entries "name" place).bind fun _ _ => hparameters.bind fun _ _ => hflags _

theorem tellsAll_memberOf (owner : String) : TellsAll (δ := δ) memberChecks (memberOf owner) :=
  tellsAll_asMap_bind fun place entries => tells_signalOf entries owner place

theorem tellsAll_objectOf : TellsAll (δ := δ) objectChecks objectOf :=
  tellsAll_asMap_bind fun place entries =>
    (tells_required entries "ident" place).bind fun ident _ =>
      ((tellsAll_memberOf ident).eachUnder entries "signals" place).bind_pure _

theorem tellsAll_freeSignalOf : TellsAll (δ := δ) freeSignalChecks freeSignalOf :=
  tellsAll_asMap_bind fun place entries =>
    (tells_required entries "qobject" place).bind fun owner _ => tells_signalOf entries owner place

theorem tells_part (entries : List (Atom × δ)) (key : String) (place : Place) :
    Tells place (.map entries) [{ place := [.key key], rule := .optionalMap }]
      (glossaryOf (place ++ [.key key]) (field key entries)) :=
  (tells_glossaryOf (place ++ [.key key]) (field key entries)).under fun _ => rfl

theorem tells_tableOf (d : Layer δ) : Tells [.key "mappings"] d (tableChecks d) (tableOf d) := by
  unfold tableOf
  split
  · exact tells_ok fun c hc => by
      rw [List.mem_singleton.1 hc]
      exact respected_here (.inl rfl)
  · rename_i hd
    have hholds : Rule.optionalMap.Holds d ↔ IsMap d :=
      ⟨fun h => h.resolve_left hd, .inr⟩
    refine tells_asMap_bind rfl hholds fun entries hentries => ?_
    rw [hentries]
    exact (tells_part entries "cxx_names" _).bind fun _ _ =>
      (tells_part entries "namespaces" _).bind_pure _

end Description

open Description

variable {δ : Type} [Layered δ]

theorem Description.tells_ofDocument (d : δ) :
    Tells [] (layer d) (bridgeChecks (layer d)) (Bridge.ofDocument d) := by
  refine tells_asMap_bind rfl .rfl fun entries hentries => ?_
  rw [hentries, List.append_assoc]
  have htable : Tells [] (.map entries) (fieldChecks "mappings" tableChecks entries)
      (tableOf (Entries.field "mappings" entries)) :=
    (tells_tableOf (Entries.field "mappings" entries)).under fun _ => rfl
  exact (tellsAll_objectOf.eachUnder entries "qobjects" []).bind fun _ _ =>
    (tellsAll_freeSignalOf.eachUnder entries "free_signals" []).bind fun _ _ =>
      htable.bind_pure _

/--
A document is refused if and only if some check of it is violated first, and the place and the
message that are reported are those of this check: the value at the place is there and breaks the
rule, and all checks before it are respected.
-/
theorem Bridge.ofDocument_eq_error_iff_first_violation (d : δ) (f : Fault) :
    Bridge.ofDocument d = .error f ↔
      ∃ c, Check.IsFirstViolated (bridgeChecks (layer d)) (layer d) c ∧
        f = c.fault [] ∧ f.message = c.complaint := by
  have htells := tells_ofDocument d
  constructor
  · intro hf
    obtain ⟨c, hc, rfl⟩ := htells.violated f hf
    exact ⟨c, hc, rfl, c.message_fault⟩
  · rintro ⟨c, hc, rfl, -⟩
    cases hresult : Bridge.ofDocument d with
    | ok b =>
      obtain ⟨before, after, hchecks, -, hviolated⟩ := hc
      have hrespected := htells.respected b hresult c (by simp [hchecks])
      exact absurd hrespected (Check.not_respected_of_violated hviolated)
    | error e =>
      obtain ⟨c', hc', rfl⟩ := htells.violated e hresult
      rw [hc'.unique hc]

open Document in
/-- Neither the flag of the signal nor the free signals are looked at. -/
example :
    (match Bridge.ofDocument (.map [
        (.text "free_signals", .atom (.int 5)),
        (.text "qobjects", .list [
          .map [(.text "ident", .atom (.text "A"))],
          .map [(.text "ident", .atom (.text "B")), (.text "signals", .list [
            .map [(.text "name", .atom (.text "s")), (.text "safe", .atom (.text "no")),
              (.text "parameters", .list [.map [(.text "ident", .atom (.text "x"))]])]])]])]
        : Document) with
      | .error f => f.message
      | .ok _ => "") =
      "qobjects[1].signals[0].parameters[0] is missing required key `type`" := by
  decide +kernel

end SignalBinding
