import Mathlib.Data.List.TakeWhile
import SignalBinding.Proofs.OverridingTemplates
import SignalBinding.Proofs.Outcomes

/-!
# The templates that a generation uses

Templates are used one after the other, up to the first use that fails, which is how the generation
fails. So templates that are not reached have no say in its result.

## Main definitions

- `TemplateSet.reached`: the templates used up to the first use that fails, which is included
- `TemplateSet.Drives`: a computation fails as the first of some uses that fails, and only then

## Main statements

- `Bridge.drives_generate`: how generating a bridge fails
- `Bridge.result_generate_congr`: only the templates that are reached count
-/

namespace SignalBinding

open TemplateSet (Subject)

/-- The error of an outcome, if it is one. -/
def errorOf? {ε α : Type} : Except ε α → Option ε
  | .ok _ => none
  | .error e => some e

namespace TemplateSet

/-- How a use of a template fails, if it does. -/
def failure? (templates : TemplateSet) (ρ : Rendering) : Option TemplateError :=
  errorOf? (templates.write ρ)

/-- The templates that are used, up to the first use that fails. -/
def reached (templates : TemplateSet) : List Rendering → List TemplateName
  | [] => []
  | ρ :: rs =>
    ρ.before ++ ρ.name :: if (templates.failure? ρ).isSome then [] else templates.reached rs

/-- The computation fails as the first of the uses `rs` that fails, and only if there is one. -/
def Drives {α : Type} (templates : TemplateSet) (rs : List Rendering)
    (x : Except TemplateError α) : Prop :=
  errorOf? x = rs.findSome? templates.failure?

variable {α β : Type} {templates templates' : TemplateSet} {rs rs' : List Rendering}
  {x : Except TemplateError α} {f : α → Except TemplateError β}

/-- A template that is used behind others decides how its use fails. -/
theorem drives_render {before : List TemplateName} {s₀ s : Subject}
    (hs : templates.subjectAfter before s₀ = .ok s) (name : TemplateName) :
    templates.Drives [{ before, name, subject := s₀ }] (templates.render name s) := by
  rw [Drives, List.findSome?_singleton, failure?, write, hs]
  change _ = errorOf? (templates.render name s >>= _)
  cases templates.render name s <;> rfl

theorem Drives.bind (hx : templates.Drives rs x)
    (hf : ∀ a, x = .ok a → templates.Drives rs' (f a)) :
    templates.Drives (rs ++ rs') (x >>= f) := by
  rw [Drives] at hx ⊢
  rw [List.findSome?_append, ← hx]
  cases x with
  | error e => rfl
  | ok a => exact hf a rfl

/-- Going on with the result takes no more uses. -/
theorem Drives.bind_pure (hx : templates.Drives rs x) (hf : ∀ a, errorOf? (f a) = none) :
    templates.Drives rs (x >>= f) := by
  have hnone (a : α) : templates.Drives [] (f a) := hf a
  have hbind := hx.bind fun a _ => hnone a
  rwa [List.append_nil] at hbind

/-! ### Templates that agree -/

theorem subjectAfter_congr {names : List TemplateName}
    (h : ∀ name ∈ names, templates' name = templates name) (s : Subject) :
    templates'.subjectAfter names s = templates.subjectAfter names s := by
  induction names generalizing s with
  | nil => rfl
  | cons name names ih =>
    obtain ⟨hname, hnames⟩ := List.forall_mem_cons.1 h
    rw [subjectAfter, subjectAfter, render, render, hname]
    simp only [ih hnames]

theorem write_congr {ρ : Rendering}
    (h : ∀ name ∈ ρ.before ++ [ρ.name], templates' name = templates name) :
    templates'.write ρ = templates.write ρ := by
  obtain ⟨hbefore, hname⟩ := List.forall_mem_append.1 h
  have hname : templates' ρ.name = templates ρ.name := hname _ (List.mem_singleton_self _)
  rw [write, write, subjectAfter_congr hbefore]
  simp only [render, hname]

/-- Templates that agree on all that one of them reaches fail in the same way. -/
theorem findSome?_failure?_congr
    (h : ∀ name ∈ templates.reached rs, templates' name = templates name) :
    rs.findSome? templates'.failure? = rs.findSome? templates.failure? := by
  induction rs with
  | nil => rfl
  | cons ρ rs ih =>
    rw [reached, List.append_cons] at h
    obtain ⟨hρ, hrest⟩ := List.forall_mem_append.1 h
    have hfails : templates'.failure? ρ = templates.failure? ρ := by
      rw [failure?, failure?, write_congr hρ]
    rw [List.findSome?_cons, List.findSome?_cons, hfails]
    cases hfailure : templates.failure? ρ with
    | some e => rfl
    | none =>
      rw [hfailure] at hrest
      exact ih hrest

/-- If no use fails, all templates are reached. -/
theorem reached_of_no_failure (h : rs.findSome? templates.failure? = none) :
    templates.reached rs = rs.flatMap fun ρ => ρ.before ++ [ρ.name] := by
  induction rs with
  | nil => rfl
  | cons ρ rs ih =>
    obtain ⟨hfailure, hrest⟩ : templates.failure? ρ = none ∧
        rs.findSome? templates.failure? = none := by simpa using h
    rw [reached, hfailure, List.flatMap_cons, ← ih hrest, List.append_assoc]
    rfl

theorem exists_write_of_no_failure (h : rs.findSome? templates.failure? = none) :
    ∀ ρ ∈ rs, ∃ t, templates.write ρ = .ok t := by
  intro ρ hρ
  have hfailure := List.findSome?_eq_none_iff.1 h ρ hρ
  rw [failure?] at hfailure
  cases hwrite : templates.write ρ with
  | ok t => exact ⟨t, rfl⟩
  | error e =>
    rw [hwrite] at hfailure
    cases hfailure

theorem gives_textOf_of_no_failure (h : rs.findSome? templates.failure? = none) :
    templates.Gives templates.textOf rs :=
  gives_textOf (exists_write_of_no_failure h)

theorem usedBefore_of_no_failure (h : rs.findSome? templates.failure? = none) :
    usedBefore templates rs = rs.map Rendering.name := by
  rw [usedBefore, List.takeWhile_eq_self_iff.2]
  intro ρ hρ
  obtain ⟨t, ht⟩ := exists_write_of_no_failure h ρ hρ
  rw [ht]
  rfl

end TemplateSet

open TemplateSet

variable {templates templates' : TemplateSet} {table : NameTable}

namespace Generation

theorem drives_pair {before : List TemplateName} {s₀ s : Subject}
    (hs : templates.subjectAfter before s₀ = .ok s) (header source : TemplateName) :
    templates.Drives (inTurn s₀ before [header, source]) (pair templates header source s) :=
  (drives_render hs header).bind fun _ hheader =>
    (drives_render (subjectAfter_concat hs hheader) source).bind_pure fun _ => rfl

theorem drives_memberFragments (owner : String) (s : Signal) :
    templates.Drives
      (inTurn (s.memberSubject table owner) []
        (s.templatesBefore ++ [.memberHeader, .memberSource]))
      (memberFragments templates (s.memberSubject table owner) s.inherit) := by
  have hstart : templates.subjectAfter [] (s.memberSubject table owner) = .ok _ := rfl
  unfold memberFragments Signal.templatesBefore
  cases s.inherit with
  | true =>
    exact (drives_pair hstart .memberHeader .memberSource).bind_pure
      fun _ => rfl
  | false =>
    refine (drives_render hstart .signalDeclaration).bind fun _ hfirst => ?_
    exact (drives_pair (subjectAfter_concat hstart hfirst) .memberHeader .memberSource).bind_pure
      fun _ => rfl

theorem drives_member (owner : String) (s : Signal) :
    templates.Drives (memberRenderings table owner s) (s.member templates table owner).result := by
  rw [Signal.memberRenderings_eq, Signal.member_eq]
  cases Parameter.firstRefusal? table s.parameters with
  | some e => rfl
  | none =>
    dsimp only
    rw [Journaled.result_bind_of_ok rfl, Journaled.result_bind]
    exact (drives_memberFragments _ _).bind_pure fun _ => rfl

theorem drives_free (s : Signal) :
    templates.Drives (freeRenderings table s) (s.free templates table).result := by
  rw [Signal.freeRenderings_eq, Signal.free_eq]
  cases Parameter.firstRefusal? table s.parameters with
  | some e => rfl
  | none =>
    dsimp only
    rw [Journaled.result_bind_of_ok rfl, Journaled.result_bind]
    exact (drives_pair rfl _ _).bind_pure fun _ => rfl

theorem drives_memberSignals (owner : String) (signals : List Signal) :
    templates.Drives (signals.flatMap (memberRenderings table owner))
      (memberSignals templates table owner signals).result := by
  induction signals with
  | nil => rfl
  | cons s signals ih =>
    rw [memberSignals, Journaled.result_bind, List.flatMap_cons]
    refine (drives_member owner s).bind fun outcome _ => ?_
    cases outcome with
    | ok fragments =>
      dsimp only
      rw [Journaled.result_bind]
      exact ih.bind_pure fun _ => rfl
    | error e =>
      dsimp only
      rw [Journaled.result_bind_of_ok rfl, Journaled.result_bind]
      exact ih.bind_pure fun _ => rfl

theorem drives_object (o : Object) :
    templates.Drives (o.signals.flatMap (memberRenderings table o.className))
      (object templates table o).result := by
  rw [object, Journaled.result_bind]
  refine (drives_memberSignals _ _).bind_pure fun members => ?_
  obtain ⟨block, skipped⟩ := members
  dsimp only
  split <;> rfl

theorem drives_freeSignal (s : Signal) :
    templates.Drives (freeRenderings table s) (freeSignal templates table s).result := by
  rw [freeSignal, Journaled.result_bind]
  refine (drives_free s).bind_pure fun outcome => ?_
  cases outcome <;> rfl

theorem drives_combine {α : Type} {report : α → Journaled TemplateError Report}
    {renderings : α → List Rendering}
    (h : ∀ x, templates.Drives (renderings x) (report x).result) (xs : List α) :
    templates.Drives (xs.flatMap renderings) (combine report xs).result := by
  induction xs with
  | nil => rfl
  | cons x xs ih =>
    rw [combine, Journaled.result_bind, List.flatMap_cons]
    refine (h x).bind fun r _ => ?_
    rw [Journaled.result_bind]
    exact ih.bind_pure fun _ => rfl

end Generation

namespace Bridge

open Generation

/-- What is used before a template for the same signal is used for the bridge. -/
theorem before_subset_names {b : Bridge} {table? : Option NameTable} {ρ : Rendering}
    (hρ : ρ ∈ b.renderings table?) : ρ.before ⊆ (b.renderings table?).map Rendering.name := by
  obtain ⟨subject, names, hmem, hsub, hnames⟩ := exists_inTurn hρ
  have hbefore : ρ.before ⊆ (inTurn subject [] names).map Rendering.name := by
    obtain rfl | rfl | rfl := hnames <;>
      simp only [inTurn, List.mem_cons, List.not_mem_nil, or_false] at hmem
    · obtain rfl | rfl | rfl := hmem <;> simp [inTurn]
    · obtain rfl | rfl := hmem <;> simp [inTurn]
    · obtain rfl | rfl := hmem <;> simp [inTurn]
  exact List.Subset.trans hbefore (List.map_subset _ hsub)

/-- If no use fails, all templates that are reached have been used. -/
theorem mem_usedBefore {b : Bridge} {table? : Option NameTable} {name : TemplateName}
    (h : (b.renderings table?).findSome? templates.failure? = none)
    (hname : name ∈ templates.reached (b.renderings table?)) :
    name ∈ usedBefore templates (b.renderings table?) := by
  rw [reached_of_no_failure h] at hname
  rw [usedBefore_of_no_failure h]
  obtain ⟨ρ, hρ, hname⟩ := List.mem_flatMap.1 hname
  obtain hbefore | hself := List.mem_append.1 hname
  · exact before_subset_names hρ hbefore
  · rw [List.mem_singleton.1 hself]
    exact List.mem_map_of_mem hρ

/-- A bridge is generated unless a use of a template fails, and then it fails in the same way. -/
theorem drives_generate (b : Bridge) (table? : Option NameTable) (templates : TemplateSet) :
    templates.Drives (b.renderings table?) (b.generate table? templates).result := by
  rw [generate, Journaled.result_bind]
  refine (drives_combine drives_object b.objects).bind fun objects _ => ?_
  rw [Journaled.result_bind]
  exact (drives_combine drives_freeSignal b.freeSignals).bind_pure fun _ => rfl

/-- Templates that a generation does not reach have no say in its result. -/
theorem result_generate_congr (b : Bridge) (table? : Option NameTable)
    (h : ∀ name ∈ templates.reached (b.renderings table?), templates' name = templates name) :
    (b.generate table? templates').result = (b.generate table? templates).result := by
  have hdrives := b.drives_generate table? templates
  have hdrives' := b.drives_generate table? templates'
  rw [Drives, findSome?_failure?_congr h] at hdrives'
  rw [Drives] at hdrives
  cases hfailure : (b.renderings table?).findSome? templates.failure? with
  | some e =>
    rw [hfailure] at hdrives hdrives'
    have hresult {x : Except TemplateError Report} (hx : errorOf? x = some e) : x = .error e := by
      cases x with
      | ok a => cases hx
      | error e' => rw [Option.some.inj hx]
    rw [hresult hdrives, hresult hdrives']
  | none =>
    have hgives := gives_textOf_of_no_failure hfailure
    have hgives' : templates'.Gives templates.textOf (b.renderings table?) := by
      intro ρ hρ
      rw [← hgives ρ hρ]
      refine write_congr fun name hname => h name ?_
      rw [reached_of_no_failure hfailure]
      exact List.mem_flatMap.2 ⟨ρ, hρ, hname⟩
    rw [result_generate hgives, result_generate hgives']

end Bridge

end SignalBinding
