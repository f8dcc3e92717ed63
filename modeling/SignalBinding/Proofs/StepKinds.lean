import SignalBinding.Proofs.RunParts

/-!
# Kinds of steps

A property of steps that carries over from two steps to their sequence holds of a run if it holds of
what the run is made of. The parts of a run are gone through once, here, for any such property.

## Main definitions

- `Session.StepKind`: properties that carry over to sequences

## Main statements

- `Session.StepKind.prepare`, `Session.StepKind.publish`, `Session.StepKind.run`: what they ask of
  the single steps
-/

namespace SignalBinding

namespace Session

/-- The property holds of steps that do nothing or make a record, and carries over to sequences. -/
structure StepKind (P : ∀ {α : Type}, Session α → Prop) : Prop where
  pure : ∀ {α : Type} (a : α), P (pure a)
  bind : ∀ {α β : Type} {x : Session α} {f : α → Session β}, P x → (∀ a, P (f a)) → P (x >>= f)
  tell : ∀ r : Record, P (tell r)

namespace StepKind

variable {P : ∀ {α : Type}, Session α → Prop} {q : RunRequest}

theorem described (h : StepKind P) {path : Path} {c : Config} {ownTemplates? : Option String}
    (hload : P (loadBridge path)) (hgenerate : ∀ b, P (generate b c ownTemplates?)) :
    P (described path c ownTemplates?) :=
  h.bind hload fun b => h.bind (h.tell (bridgeRecord b)) fun _ => hgenerate b

/-- Of the workspace itself, a run only asks where its bridge is. -/
theorem prepare (h : StepKind P)
    (hpath : ∀ {α : Type} {f : Path → Session α}, (∀ path, P (f path)) →
      P (get >>= fun w => f (q.path w)))
    (hconfiguration : ∀ path, P (configuration q path)) (hload : ∀ path, P (loadBridge path))
    (hgenerate : ∀ b c, P (generate b c q.ownTemplates?)) : P (prepare q) := by
  have hfrom (path : Path) : P (do
      Session.tell (startRecord path)
      let c ← configuration q path
      let r ← Session.described path c q.ownTemplates?
      return (c, r)) :=
    h.bind (h.tell _) fun _ => h.bind (hconfiguration path) fun c =>
      h.bind (h.described (hload path) fun b => hgenerate b c) fun r => h.pure (c, r)
  exact hpath hfrom

theorem output (h : StepKind P) (hwrite : ∀ p text, P (writeText p text)) (target? : Option Path)
    (text : String) : P (output target? text) := by
  cases target? with
  | none => exact h.pure ()
  | some p => exact h.bind (hwrite p text) fun _ => h.tell (wroteRecord p)

theorem publish (h : StepKind P) (hwrite : ∀ p text, P (writeText p text)) (q : RunRequest)
    (c : Config) (r : Report) : P (publish q c r) :=
  h.bind (h.output hwrite (q.headerPath? c) r.header) fun _ =>
    h.bind (h.output hwrite (q.sourcePath? c) r.source) fun _ => h.tell (endRecord r)

theorem run (h : StepKind P) (hprepare : P (Session.prepare q))
    (hwrite : ∀ p text, P (writeText p text)) : P (run q) := by
  rw [run_eq]
  exact h.bind hprepare fun ended => h.bind (h.publish hwrite q ended.1 ended.2) fun _ =>
    h.pure ended.2

end StepKind

end Session

end SignalBinding
