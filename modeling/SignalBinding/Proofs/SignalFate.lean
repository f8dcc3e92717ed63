import SignalBinding.Generation.Rendering
import SignalBinding.Proofs.BuiltinText
import SignalBinding.Proofs.ParameterLists

/-!
# What becomes of a signal

A signal is refused for its parameter types, before any template is used, or all of its fragments
are written. Templates enter only through the texts that they give, so all is said for any templates
that give some text wherever they are used; the built-in ones do.

## Main definitions

- `TemplateSet.Gives`: templates give certain texts in certain uses
- `Signal.memberPieces`, `Signal.freePiece`: the fragments of a signal
- `Signal.outcome`: what is written for a signal, or why nothing is
-/

namespace SignalBinding

open TypeExpr (Unresolved)
open TemplateSet (Subject)
open Parameter

/-- The text that each use of a template gives. -/
abbrev Texts : Type := Rendering → String

namespace TemplateSet

/-- The templates give the texts `text` in all the uses `rs`. -/
def Gives (templates : TemplateSet) (text : Texts) (rs : List Rendering) : Prop :=
  ∀ ρ ∈ rs, templates.write ρ = .ok (text ρ)

/-- The built-in templates give the same texts wherever they are used. -/
def builtinTexts : Texts := fun ρ => builtinText ρ.name ρ.subject

variable {templates : TemplateSet} {text : Texts} {rs rs' : List Rendering}

theorem Gives.mono (h : templates.Gives text rs') (hrs : rs ⊆ rs') : templates.Gives text rs :=
  fun ρ hρ => h ρ (hrs hρ)

/-! ### Templates used one after the other -/

theorem subjectAfter_append (names names' : List TemplateName) (s : Subject) :
    templates.subjectAfter (names ++ names') s =
      templates.subjectAfter names s >>= templates.subjectAfter names' := by
  induction names generalizing s with
  | nil => rfl
  | cons name names ih =>
    rw [List.cons_append, subjectAfter, subjectAfter]
    cases templates.render name s with
    | error e => rfl
    | ok r => exact ih r.2

/-- One more template has been used. -/
theorem subjectAfter_concat {before : List TemplateName} {name : TemplateName} {s₀ s s' : Subject}
    {t : String} (hs : templates.subjectAfter before s₀ = .ok s)
    (h : templates.render name s = .ok (t, s')) :
    templates.subjectAfter (before ++ [name]) s₀ = .ok s' := by
  rw [subjectAfter_append, hs]
  change (templates.render name s >>= _) = _
  rw [h]
  rfl

/-- What a template does behind others, from the text that it gives there. -/
theorem exists_render_of_write {ρ : Rendering} {s : Subject} {t : String}
    (hs : templates.subjectAfter ρ.before ρ.subject = .ok s) (h : templates.write ρ = .ok t) :
    ∃ s', templates.render ρ.name s = .ok (t, s') := by
  rw [write, hs] at h
  change (templates.render ρ.name s >>= _) = _ at h
  rcases hrender : templates.render ρ.name s with e | ⟨t', s'⟩ <;> rw [hrender] at h <;> cases h
  exact ⟨s', rfl⟩

theorem subjectAfter_builtin (names : List TemplateName) (s : Subject) :
    builtin.subjectAfter names s = .ok s := by
  induction names with
  | nil => rfl
  | cons name names ih =>
    rw [subjectAfter, render_builtin]
    exact ih

theorem write_builtin (ρ : Rendering) : builtin.write ρ = .ok (builtinTexts ρ) := by
  rw [write, subjectAfter_builtin]
  change (builtin.render ρ.name ρ.subject >>= _) = _
  rw [render_builtin]
  rfl

theorem builtin_gives (rs : List Rendering) : builtin.Gives builtinTexts rs :=
  fun ρ _ => write_builtin ρ

end TemplateSet

open TemplateSet (builtinText builtinTexts)

namespace Signal

/-- What a member signal gives to its templates. -/
def memberSubject (table : NameTable) (owner : String) (s : Signal) : Subject where
  objectIdent := owner
  name := s.name
  parameters := .spelled table (.member owner) s.parameters
  self := .member owner

/-- What a free signal gives to its templates. -/
def freeSubject (table : NameTable) (s : Signal) : Subject where
  objectIdent := s.owner
  name := s.name
  parameters := .spelled table (.resolve s.owner table) s.parameters
  self := .resolve s.owner table

/-- The templates that are used for a member signal before those of its connect helper. -/
def templatesBefore (s : Signal) : List TemplateName :=
  if s.inherit then [] else [.signalDeclaration]

/-- The connect helper of a member signal. -/
def memberHelper (text : Texts) (table : NameTable) (owner : String) (s : Signal) : Fragment :=
  let subject := s.memberSubject table owner
  let before := s.templatesBefore
  .pair (text { before, name := .memberHeader, subject })
    (text { before := before ++ [.memberHeader], name := .memberSource, subject })

/-- A declaration unless a base class has it, and the connect helper. -/
def memberPieces (text : Texts) (table : NameTable) (owner : String) (s : Signal) : Block :=
  let declaration : Rendering :=
    { before := [], name := .signalDeclaration, subject := s.memberSubject table owner }
  (if s.inherit then [] else [.declaration (text declaration)]) ++ [s.memberHelper text table owner]

/-- The connect helper alone. -/
def freePiece (text : Texts) (table : NameTable) (s : Signal) : Fragment :=
  let subject := s.freeSubject table
  .pair (text { before := [], name := .freeHeader, subject })
    (text { before := [.freeHeader], name := .freeSource, subject })

theorem memberPieces_builtinTexts (table : NameTable) (owner : String) (s : Signal) :
    s.memberPieces builtinTexts table owner =
      (if s.inherit then []
        else [.declaration (builtinText .signalDeclaration (s.memberSubject table owner))]) ++
        [.pair (builtinText .memberHeader (s.memberSubject table owner))
          (builtinText .memberSource (s.memberSubject table owner))] :=
  rfl

theorem freePiece_builtinTexts (table : NameTable) (s : Signal) :
    s.freePiece builtinTexts table =
      .pair (builtinText .freeHeader (s.freeSubject table))
        (builtinText .freeSource (s.freeSubject table)) :=
  rfl

/-- What is written for the signal, or why nothing is. -/
def outcome {α : Type} (table : NameTable) (s : Signal) (written : α) : Except Unresolved α :=
  match firstRefusal? table s.parameters with
  | some e => .error e
  | none => .ok written

variable {templates : TemplateSet} {text : Texts} {table : NameTable} {owner : String} {s : Signal}

theorem eq_of_outcome {α : Type} {x y : α} (h : s.outcome table x = .ok y) : y = x := by
  unfold outcome at h
  split at h
  · cases h
  · exact (Except.ok.inj h).symm

theorem memberRenderings_eq :
    Generation.memberRenderings table owner s =
      match firstRefusal? table s.parameters with
      | some _ => []
      | none => Generation.inTurn (s.memberSubject table owner) []
          (s.templatesBefore ++ [.memberHeader, .memberSource]) := by
  rw [Generation.memberRenderings, Parameters.ofParameters_eq, templatesBefore]
  cases firstRefusal? table s.parameters
  · cases s.inherit <;> rfl
  · rfl

theorem freeRenderings_eq :
    Generation.freeRenderings table s =
      match firstRefusal? table s.parameters with
      | some _ => []
      | none => Generation.inTurn (s.freeSubject table) [] [.freeHeader, .freeSource] := by
  rw [Generation.freeRenderings, Parameters.ofParameters_eq]
  cases firstRefusal? table s.parameters <;> rfl

theorem member_eq :
    s.member templates table owner =
      match firstRefusal? table s.parameters with
      | some e => pure (.error e)
      | none => do
        Journaled.tell (Generation.memberRecord owner s)
        return .ok
          (← Generation.memberFragments templates (s.memberSubject table owner) s.inherit) := by
  rw [member, Parameters.ofParameters_eq]
  cases firstRefusal? table s.parameters <;> rfl

theorem free_eq :
    s.free templates table =
      match firstRefusal? table s.parameters with
      | some e => pure (.error e)
      | none => do
        Journaled.tell (Generation.freeRecord (table.cppName s.owner) s)
        return .ok (← Generation.pair templates .freeHeader .freeSource (s.freeSubject table)) := by
  simp only [free, Parameters.ofParameters_eq]
  cases firstRefusal? table s.parameters <;> rfl

/-- A pair is written if its two templates give their texts where they are used. -/
theorem pair_of_gives {before : List TemplateName} {header source : TemplateName}
    {s₀ s : Subject} (hs : templates.subjectAfter before s₀ = .ok s)
    (h : templates.Gives text (Generation.inTurn s₀ before [header, source])) :
    Generation.pair templates header source s =
      .ok (.pair (text { before, name := header, subject := s₀ })
        (text { before := before ++ [header], name := source, subject := s₀ })) := by
  have hheader := h { before, name := header, subject := s₀ } List.mem_cons_self
  have hsource := h { before := before ++ [header], name := source, subject := s₀ }
    (List.mem_cons_of_mem _ List.mem_cons_self)
  obtain ⟨s', hs'⟩ := TemplateSet.exists_render_of_write hs hheader
  obtain ⟨s'', hs''⟩ :=
    TemplateSet.exists_render_of_write (TemplateSet.subjectAfter_concat hs hs') hsource
  rw [Generation.pair, hs']
  change (templates.render source s' >>= _) = _
  rw [hs'']
  rfl

theorem memberFragments_of_gives
    (h : templates.Gives text (Generation.inTurn (s.memberSubject table owner) []
      (s.templatesBefore ++ [.memberHeader, .memberSource]))) :
    Generation.memberFragments templates (s.memberSubject table owner) s.inherit =
      .ok (s.memberPieces text table owner) := by
  unfold Generation.memberFragments memberPieces memberHelper
  unfold templatesBefore at h ⊢
  cases hinherit : s.inherit <;> simp only [hinherit, if_true, Bool.false_eq_true, if_false] at h ⊢
  · have hdeclaration := h { before := [], name := .signalDeclaration, subject := _ }
      List.mem_cons_self
    obtain ⟨s', hs'⟩ := TemplateSet.exists_render_of_write rfl hdeclaration
    have hpair := pair_of_gives (TemplateSet.subjectAfter_concat rfl hs')
      (h.mono (List.subset_cons_self _ _))
    rw [hs']
    change (Generation.pair templates _ _ s' >>= _) = _
    rw [hpair]
    rfl
  · rw [pair_of_gives rfl h]
    rfl

/-- A refused signal has no fragments; of all others, all fragments are written. -/
theorem result_member (h : templates.Gives text (Generation.memberRenderings table owner s)) :
    (s.member templates table owner).result =
      .ok (s.outcome table (s.memberPieces text table owner)) := by
  rw [memberRenderings_eq] at h
  rw [member_eq, outcome]
  cases hps : firstRefusal? table s.parameters with
  | some e => rfl
  | none =>
    rw [hps] at h
    rw [Journaled.result_bind_of_ok rfl, Journaled.result_bind_of_ok (memberFragments_of_gives h)]
    rfl

theorem result_free (h : templates.Gives text (Generation.freeRenderings table s)) :
    (s.free templates table).result = .ok (s.outcome table (s.freePiece text table)) := by
  rw [freeRenderings_eq] at h
  rw [free_eq, outcome]
  cases hps : firstRefusal? table s.parameters with
  | some e => rfl
  | none =>
    rw [hps] at h
    rw [Journaled.result_bind_of_ok rfl, Journaled.result_bind_of_ok (pair_of_gives rfl h)]
    rfl

end Signal

end SignalBinding
