import SignalBinding.Proofs.OverridingTemplates

/-!
# Pure templates

A template that changes no list in any of its parts leaves the parameter lists as they are. So a
folder of such templates has no say in the texts of the templates that it does not have.

## Main definitions

- `Template.Keeps`: writing that leaves the parameter lists alone
- `Writer.Keeps`: templates that do so

## Main statements

- `Template.keeps_writer`: pure templates do
- `TemplateSet.spares_of_keeps`, `Workspace.write_of_keeps`: what this means for other templates
-/

namespace SignalBinding

open TemplateSet (Subject)

namespace Expr

/-- An expression without changes is looked at, and that is all. -/
theorem eq_of_eval? {scope : Scope} {e : Expr} {p p' : Parameters} {d : Datum}
    (hpure : e.isPure = true) (h : e.eval? scope p = some (d, p')) : p' = p := by
  induction e generalizing p p' d with
  | literal d =>
    cases h
    rfl
  | name ident =>
    obtain ⟨d, -, h⟩ := Option.map_eq_some_iff.1 h
    cases h
    rfl
  | part e ident ih | item e i ih =>
    obtain ⟨⟨d, q⟩, he, h⟩ := Option.bind_eq_some_iff.1 h
    obtain ⟨d', -, h⟩ := Option.bind_eq_some_iff.1 h
    cases h
    exact ih hpure he
  | change e c => cases hpure
  | not e ih =>
    obtain ⟨⟨d, q⟩, he, h⟩ := Option.bind_eq_some_iff.1 h
    cases h
    exact ih hpure he
  | and e f ihe ihf =>
    obtain ⟨hpe, hpf⟩ := Bool.and_eq_true_iff.1 hpure
    obtain ⟨⟨d, q⟩, he, hbehind⟩ := Option.bind_eq_some_iff.1 h
    obtain rfl := ihe hpe he
    dsimp only at hbehind
    split at hbehind
    · exact ihf hpf hbehind
    · cases hbehind
      rfl
  | or e f ihe ihf =>
    obtain ⟨hpe, hpf⟩ := Bool.and_eq_true_iff.1 hpure
    obtain ⟨⟨d, q⟩, he, hbehind⟩ := Option.bind_eq_some_iff.1 h
    obtain rfl := ihe hpe he
    dsimp only at hbehind
    split at hbehind
    · cases hbehind
      rfl
    · exact ihf hpf hbehind

end Expr

namespace Template

/-- Whenever there is a result, the parameter lists are as they were. -/
def Keeps {α : Type} (x : Writing α) : Prop :=
  ∀ p a p', x p = .ok (a, p') → p' = p

variable {α β : Type} {x : Writing α} {f : α → Writing β} {scope : Scope}

theorem keeps_pure (a : α) : Keeps (pure a) := by
  intro p b p' h
  cases h
  rfl

theorem keeps_get : Keeps get := by
  intro p b p' h
  cases h
  rfl

theorem keeps_throw (e : TemplateError) : Keeps (throw e : Writing α) := by
  intro p b p' h
  cases h

theorem Keeps.bind (hx : Keeps x) (hf : ∀ a, Keeps (f a)) : Keeps (x >>= f) := by
  intro p b p' h
  change (x p >>= fun r => f r.1 r.2) = _ at h
  rcases hxp : x p with e | ⟨a, q⟩ <;> rw [hxp] at h
  · cases h
  · rw [hf a q b p' h, hx p a q hxp]

theorem keeps_value {e : Expr} (h : e.isPure = true) : Keeps (value scope e) := by
  intro p d p' hd
  rw [value] at hd
  split at hd
  next r heval =>
    cases hd
    exact Expr.eq_of_eval? h heval
  next => cases hd

theorem keeps_renderRounds {body : Nat → Datum → Writing String} (h : ∀ i d, Keeps (body i d))
    (i : Nat) (ds : List Datum) : Keeps (renderRounds body i ds) := by
  induction ds generalizing i with
  | nil => exact keeps_pure ""
  | cons d ds ih => exact (h i d).bind fun s => (ih (i + 1)).bind fun _ => keeps_pure _

mutual

theorem keeps_renderNode (scope : Scope) (node : Node) (h : isPureNode node = true) :
    Keeps (renderNode scope node) := by
  cases node with
  | text s =>
    rw [renderNode]
    exact keeps_pure s
  | output e =>
    rw [renderNode]
    exact (keeps_value h).bind fun d => keeps_get.bind fun p => keeps_pure _
  | choice condition yes no =>
    simp only [isPureNode, Bool.and_eq_true] at h
    rw [renderNode]
    refine (keeps_value h.1.1).bind fun d => keeps_get.bind fun p => ?_
    split
    · exact keeps_render scope yes h.1.2
    · exact keeps_render scope no h.2
  | repetition ident items body otherwise =>
    simp only [isPureNode, Bool.and_eq_true] at h
    rw [renderNode]
    refine (keeps_value h.1.1).bind fun d => keeps_get.bind fun p => ?_
    split
    · exact keeps_throw _
    · exact keeps_render scope otherwise h.2
    · exact keeps_renderRounds (fun i d => keeps_render _ body h.1.2) 0 _

theorem keeps_render (scope : Scope) (nodes : List Node) (h : isPure nodes = true) :
    Keeps (render scope nodes) := by
  cases nodes with
  | nil =>
    rw [render]
    exact keeps_pure ""
  | cons node nodes =>
    simp only [isPure, Bool.and_eq_true] at h
    rw [render]
    exact (keeps_renderNode scope node h.1).bind fun s =>
      (keeps_render scope nodes h.2).bind fun _ => keeps_pure _

end

end Template

/-- The template leaves the parameter lists of the signals that it writes as they are. -/
def Writer.Keeps (t : Writer) : Prop :=
  ∀ s text p, t s = .ok (text, p) → p = s.parameters

theorem Writer.keeps_failing (e : TemplateError) : (Writer.failing e).Keeps := by
  intro s text p h
  cases h

namespace Template

theorem keeps_write {t : Template} (h : isPure t = true) : Writer.Keeps t.write :=
  fun s text p => keeps_render (scopeOf s) t h s.parameters text p

/-- What is written in a text leaves the lists alone unless it is a template with a change. -/
theorem keeps_writer {named? : String → Option Char} {s : String}
    (h : ∀ t, ofText? named? s = some t → isPure t = true) : Writer.Keeps (writer named? s) := by
  rw [writer]
  split
  next t ht => exact keeps_write (h t ht)
  next => exact Writer.keeps_failing .malformed

end Template

namespace TemplateSet

variable {templates : TemplateSet}

theorem keeps_builtin (name : TemplateName) : Writer.Keeps (builtin name) := by
  intro s text p h
  have hrender := render_builtin name s
  change (builtin name s >>= fun r => .ok (r.1, { s with parameters := r.2 })) = _ at hrender
  rw [h] at hrender
  exact congrArg (·.2.parameters) (Except.ok.inj hrender)

theorem render_of_keeps {name : TemplateName} {s s' : Subject} {text : String}
    (hkeeps : (templates name).Keeps) (h : templates.render name s = .ok (text, s')) : s' = s := by
  change (templates name s >>= fun r => .ok (r.1, { s with parameters := r.2 })) = _ at h
  rcases hwrite : templates name s with e | ⟨text', p⟩ <;> rw [hwrite] at h
  · cases h
  · obtain rfl := hkeeps s text' p hwrite
    cases h
    rfl

theorem subjectAfter_of_keeps {names : List TemplateName} {s s' : Subject}
    (hkeeps : ∀ name ∈ names, (templates name).Keeps)
    (h : templates.subjectAfter names s = .ok s') : s' = s := by
  induction names generalizing s with
  | nil =>
    cases h
    rfl
  | cons name names ih =>
    obtain ⟨hname, hnames⟩ := List.forall_mem_cons.1 hkeeps
    rw [subjectAfter] at h
    rcases hrender : templates.render name s with e | ⟨text, s₁⟩ <;> rw [hrender] at h
    · cases h
    · obtain rfl := render_of_keeps hname hrender
      exact ih hnames h

/-- Behind templates that leave the parameter lists alone, these are as they were. -/
theorem spares_of_keeps {ρ : Rendering} {t : String}
    (hkeeps : ∀ name ∈ ρ.before, (templates name).Keeps) (h : templates.write ρ = .ok t) :
    templates.Spares ρ := by
  rw [write] at h
  rcases hs : templates.subjectAfter ρ.before ρ.subject with e | s <;> rw [hs] at h
  · cases h
  · rw [Spares, hs, subjectAfter_of_keeps hkeeps hs]

end TemplateSet

/-- If the templates that a folder has leave the lists alone, the texts of all others are the built-in
ones. -/
theorem Workspace.write_of_keeps {w : Workspace} {folder : Path} {settled : List TemplateName}
    {ρ : Rendering} {text : String}
    (hkeeps : ∀ name ∈ ρ.before, ∀ t, w.override? folder name = some t → t.Keeps)
    (hname : w.override? folder ρ.name = none)
    (h : (w.templates folder settled).write ρ = .ok text) :
    text = TemplateSet.builtinText ρ.name ρ.subject := by
  have hbefore : ∀ name ∈ ρ.before, (w.templates folder settled name).Keeps := by
    intro name hmem
    rw [templates]
    split
    · exact TemplateSet.keeps_builtin name
    · cases hover : w.override? folder name with
      | none => exact TemplateSet.keeps_builtin name
      | some t => exact hkeeps name hmem t hover
  obtain ⟨s, hs, rfl⟩ :=
    TemplateSet.exists_subjectAfter_of_builtin (templates_of_no_override hname) h
  rw [TemplateSet.spares_of_keeps hbefore h] at hs
  cases hs
  rfl

end SignalBinding
