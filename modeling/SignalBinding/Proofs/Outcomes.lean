import SignalBinding.Generation.Signal

/-!
# Outcomes

What a computation of several steps gives, in terms of what its steps give.

## Main definitions

- `Attempt`: what comes out of writing signals
- `Attempt.joined`: two attempts, one after the other
-/

namespace SignalBinding

variable {ε α β : Type}

/-! ### Results and faults -/

theorem bind_eq_ok_iff {x : Except ε α} {f : α → Except ε β} {b : β} :
    x >>= f = .ok b ↔ ∃ a, x = .ok a ∧ f a = .ok b := by
  cases x <;> simp [bind, Except.bind]

theorem pure_eq_ok_iff {a b : α} : (pure a : Except ε α) = .ok b ↔ b = a := by
  simp [pure, Except.pure, eq_comm]

theorem ok_eq_pure (a : α) : (.ok a : Except ε α) = pure a := rfl

namespace Journaled

/-- Records have no part in results. -/
theorem result_bind (x : Journaled ε α) (f : α → Journaled ε β) :
    (x >>= f).result = x.result >>= fun a => (f a).result := by
  cases h : x.result with
  | error e => rw [bind_of_error f h]; rfl
  | ok a => rw [bind_of_ok f h]; rfl

end Journaled

/-! ### Attempts -/

open TypeExpr (Unresolved)

/-- Fragments, a type that has no counterpart in C++, or a template that fails. -/
abbrev Attempt : Type := Except TemplateError (Except Unresolved Block)

namespace Attempt

def Succeeds (a : Attempt) : Prop :=
  ∃ block, a = .ok (.ok block)

/-- The fragments of both attempts; what stops the first one stops all. -/
def joined : Attempt → Attempt → Attempt
  | .ok (.ok block), rest => rest.map (Except.map (block ++ ·))
  | stop, _ => stop

@[simp] theorem joined_ok (block rest : Block) :
    joined (.ok (.ok block)) (.ok (.ok rest)) = .ok (.ok (block ++ rest)) := rfl

@[simp] theorem empty_joined (a : Attempt) : joined (.ok (.ok [])) a = a := by
  obtain e | e | block := a <;> rfl

@[simp] theorem joined_empty (a : Attempt) : joined a (.ok (.ok [])) = a := by
  obtain e | e | block := a
  · rfl
  · rfl
  · simp

theorem joined_assoc (a b c : Attempt) : joined (joined a b) c = joined a (joined b c) := by
  obtain e | e | x := a
  · rfl
  · rfl
  · obtain e | e | y := b
    · rfl
    · rfl
    · obtain e | e | z := c
      · rfl
      · rfl
      · simp

theorem joined_of_not_succeeds {a : Attempt} (h : ¬ a.Succeeds) (b : Attempt) : joined a b = a := by
  obtain e | e | x := a
  · rfl
  · rfl
  · exact absurd ⟨x, rfl⟩ h

theorem joined_of_succeeds {a b : Attempt} (ha : a.Succeeds) (hb : ¬ b.Succeeds) :
    joined a b = b := by
  obtain ⟨x, rfl⟩ := ha
  obtain e | e | y := b
  · rfl
  · rfl
  · exact absurd ⟨y, rfl⟩ hb

theorem joined_eq_ok_iff {a b : Attempt} {block : Block} :
    joined a b = .ok (.ok block) ↔
      ∃ x y, a = .ok (.ok x) ∧ b = .ok (.ok y) ∧ block = x ++ y := by
  constructor
  · intro h
    obtain e | e | x := a
    · cases h
    · cases h
    · obtain e | e | y := b
      · cases h
      · cases h
      · cases h
        exact ⟨x, y, rfl, rfl, rfl⟩
  · rintro ⟨x, y, rfl, rfl, rfl⟩
    rfl

theorem succeeds_joined_iff {a b : Attempt} :
    (joined a b).Succeeds ↔ a.Succeeds ∧ b.Succeeds := by
  constructor
  · rintro ⟨block, h⟩
    obtain ⟨x, y, ha, hb, -⟩ := joined_eq_ok_iff.1 h
    exact ⟨⟨x, ha⟩, ⟨y, hb⟩⟩
  · rintro ⟨⟨x, rfl⟩, ⟨y, rfl⟩⟩
    exact ⟨x ++ y, rfl⟩

end Attempt

end SignalBinding
