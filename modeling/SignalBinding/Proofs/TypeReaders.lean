import SignalBinding.TypeExpr.Reading

/-!
# What each reader accepts

The readers of type expressions as relations between the tokens at hand, the answer and the tokens
left. There is one equivalence for each way in which a reader starts, so that proofs about readers
need not look into them.

## Main definitions

- `Yields`: the answer of a reader, without the bound on the tokens left
-/

namespace SignalBinding.TypeExpr

variable {α β : Type} {ts us vs rest : List Token} {t : TypeExpr}

/-- The reader's answer is `a`, and it leaves the tokens `rest`. -/
def Yields (x : Except Fault (α × Rest ts)) (a : α) (rest : List Token) : Prop :=
  ∃ h, x = .ok (a, ⟨rest, h⟩)

theorem Yields.length_lt {x : Except Fault (α × Rest ts)} {a : α} (h : Yields x a rest) :
    rest.length < ts.length :=
  h.1

/-- A reader has one answer. -/
theorem Yields.unique {x : Except Fault (α × Rest ts)} {a b : α} (h : Yields x a rest)
    (h' : Yields x b us) : a = b ∧ rest = us := by
  obtain ⟨_, h⟩ := h
  obtain ⟨_, h'⟩ := h'
  cases h.symm.trans h'
  exact ⟨rfl, rfl⟩

theorem yields_pure_iff {a b : α} {r : Rest ts} :
    Yields (pure (a, r)) b rest ↔ b = a ∧ rest = r.1 := by
  constructor
  · rintro ⟨_, h⟩
    cases h
    exact ⟨rfl, rfl⟩
  · rintro ⟨rfl, rfl⟩
    exact ⟨r.2, rfl⟩

@[simp] theorem not_yields_error {fault : Fault} {a : α} :
    ¬ Yields (.error fault : Except Fault (α × Rest ts)) a rest := by
  rintro ⟨_, h⟩
  cases h

theorem yields_bind_iff {x : Except Fault (α × Rest us)}
    {f : α × Rest us → Except Fault (β × Rest ts)} {b : β} :
    Yields (x >>= f) b rest ↔
      ∃ a vs, ∃ h : Yields x a vs, Yields (f (a, ⟨vs, h.1⟩)) b rest := by
  cases x with
  | error e => simp [bind, Except.bind]
  | ok p =>
    obtain ⟨a, vs, hvs⟩ := p
    simp only [bind, Except.bind]
    constructor
    · intro h
      exact ⟨a, vs, ⟨hvs, rfl⟩, h⟩
    · rintro ⟨_, _, ⟨_, h⟩, hf⟩
      cases h
      exact hf

/-- Going on with what a name stands for reads nothing. -/
theorem yields_resolve_bind_iff {name : String} {args : List TypeExpr}
    {f : TypeExpr → Except Fault (β × Rest ts)} {b : β} :
    Yields (resolve name args >>= f) b rest ↔
      ∃ t, resolve name args = .ok t ∧ Yields (f t) b rest := by
  cases h : resolve name args with
  | error e => simp [bind, Except.bind]
  | ok t => simp [bind, Except.bind]

/-! ### Single tokens -/

theorem yields_expect_bind_iff {wanted : Token}
    {f : Rest us → Except Fault (β × Rest ts)} {b : β} :
    Yields (expect wanted us >>= f) b rest ↔
      ∃ vs, ∃ h : us = wanted :: vs, Yields (f ⟨vs, h ▸ Nat.lt_succ_self _⟩) b rest := by
  cases us with
  | nil => simp [expect, bind, Except.bind]
  | cons u us =>
    by_cases hu : u = wanted
    · subst hu
      simp [expect, bind, Except.bind]
    · simp [expect, hu, bind, Except.bind]

theorem yields_parseLength_iff {digits : String} :
    Yields (parseLength ts) digits rest ↔ ts = .number digits :: rest := by
  unfold parseLength
  split
  · simp
  · next digits' us =>
    constructor
    · rintro ⟨_, h⟩
      cases h
      rfl
    · rintro h
      cases h
      exact ⟨_, rfl⟩
  · next hne =>
    simp only [not_yields_error, false_iff, List.cons.injEq]
    rintro ⟨rfl, -⟩
    exact hne _ rfl

/-- A reader that goes on behind the token `wanted` in one way, and without it in another. -/
theorem yields_accept?_iff {wanted : Token} {b : β}
    {f : (vs : List Token) → vs.length < us.length → Except Fault (β × Rest ts)}
    {g : Except Fault (β × Rest ts)} :
    Yields (match accept? wanted us with | some ⟨vs, h⟩ => f vs h | none => g) b rest ↔
      (∃ vs, ∃ h : us = wanted :: vs, Yields (f vs (h ▸ Nat.lt_succ_self _)) b rest) ∨
        (us.head? ≠ some wanted ∧ Yields g b rest) := by
  cases us with
  | nil => simp [accept?]
  | cons u us =>
    by_cases hu : u = wanted
    · subst hu
      simp [accept?]
    · simp [accept?, hu]

/-! ### Types -/

theorem yields_slice_iff {m : Bool} (hamp : afterAmp us = (m, .lbracket :: vs)) :
    Yields (parse (.amp :: us)) t rest ↔
      ∃ elem, Yields (parse vs) elem (.rbracket :: rest) ∧ t = .slice m elem := by
  rw [parse]
  split
  next h =>
    obtain ⟨rfl, h⟩ := Prod.mk.inj (h.symm.trans hamp)
    obtain rfl := List.tail_eq_of_cons_eq h
    simp only [yields_bind_iff, yields_expect_bind_iff, yields_pure_iff]
    grind
  next h => simp [hamp] at h
  next hne _ h =>
    obtain ⟨rfl, rfl⟩ := Prod.mk.inj (h.symm.trans hamp)
    exact absurd rfl (hne _)

theorem yields_str_iff (hamp : afterAmp us = (false, .ident "str" :: vs)) :
    Yields (parse (.amp :: us)) t rest ↔ t = .str ∧ rest = vs := by
  rw [parse]
  split
  next h => simp [hamp] at h
  next h =>
    obtain rfl := List.tail_eq_of_cons_eq (Prod.mk.inj (h.symm.trans hamp)).2
    exact yields_pure_iff
  next _ hne h =>
    obtain ⟨rfl, rfl⟩ := Prod.mk.inj (h.symm.trans hamp)
    exact absurd rfl (hne _ rfl)

theorem yields_reference_iff {m : Bool} (hamp : afterAmp us = (m, vs))
    (hslice : vs.head? ≠ some .lbracket)
    (hstr : m = false → vs.head? ≠ some (.ident "str")) :
    Yields (parse (.amp :: us)) t rest ↔
      ∃ target, Yields (parse vs) target rest ∧ t = .reference m target := by
  rw [parse]
  split
  next h =>
    obtain ⟨rfl, rfl⟩ := Prod.mk.inj (h.symm.trans hamp)
    exact absurd rfl hslice
  next h =>
    obtain ⟨rfl, rfl⟩ := Prod.mk.inj (h.symm.trans hamp)
    exact absurd rfl (hstr rfl)
  next h =>
    obtain ⟨rfl, rfl⟩ := Prod.mk.inj (h.symm.trans hamp)
    simp only [yields_bind_iff, yields_pure_iff]
    grind

theorem yields_pointer_iff :
    Yields (parse (.star :: .ident "const" :: us)) t rest ↔
      ∃ target, Yields (parse us) target rest ∧ t = .pointer false target := by
  simp only [parse, yields_bind_iff, yields_pure_iff]
  grind

theorem yields_pointerMut_iff :
    Yields (parse (.star :: .ident "mut" :: us)) t rest ↔
      ∃ target, Yields (parse us) target rest ∧ t = .pointer true target := by
  simp only [parse, yields_bind_iff, yields_pure_iff]
  grind

theorem yields_array_iff :
    Yields (parse (.lbracket :: us)) t rest ↔
      ∃ elem digits,
        Yields (parse us) elem (.semicolon :: .number digits :: .rbracket :: rest) ∧
          t = .array elem digits := by
  simp only [parse, yields_bind_iff, yields_expect_bind_iff, yields_parseLength_iff,
    yields_pure_iff]
  grind

theorem yields_unit_iff :
    Yields (parse (.lparen :: .rparen :: us)) t rest ↔ t = .unit ∧ rest = us := by
  simp only [parse, yields_pure_iff]

theorem yields_root_iff :
    Yields (parse (.pathSep :: us)) t rest ↔ Yields (parsePath us) t rest := by
  simp only [parse, yields_bind_iff, yields_pure_iff]
  grind

theorem parse_of_ident {name : String} :
    parse (.ident name :: us) = parsePath (.ident name :: us) := by
  rw [parse] <;> simp

/-! ### Paths -/

theorem yields_path_iff :
    Yields (parsePath ts) t rest ↔
      ∃ name args us, Yields (parseSegment ts) (name, args) us ∧
        ((∃ vs, us = .pathSep :: vs ∧ Yields (parsePath vs) t rest) ∨
          (us.head? ≠ some .pathSep ∧ us = rest ∧ resolve name args = .ok t)) := by
  rw [parsePath]
  simp only [yields_bind_iff, Prod.exists]
  refine exists_congr fun name => exists_congr fun args => exists_congr fun us =>
    (exists_congr fun h => yields_accept?_iff).trans ?_
  simp only [yields_resolve_bind_iff, yields_bind_iff, yields_pure_iff]
  grind

theorem yields_segment_iff {name : String} {args : List TypeExpr} :
    Yields (parseSegment ts) (name, args) rest ↔
      ∃ us, ts = .ident name :: us ∧ isReserved name = false ∧
        ((∃ vs, us = .less :: vs ∧ Yields (parseArguments vs) args (.greater :: rest)) ∨
          (us.head? ≠ some .less ∧ us = rest ∧ args = [])) := by
  rw [parseSegment.eq_def]
  split
  · simp
  next name' us =>
    split
    next hr =>
      simp only [not_yields_error, List.cons.injEq, Token.ident.injEq, false_iff]
      grind
    next hr =>
      refine yields_accept?_iff.trans ?_
      simp only [yields_bind_iff, yields_expect_bind_iff, yields_pure_iff]
      grind
  next hne =>
    simp only [not_yields_error, List.cons.injEq, false_iff]
    grind

theorem yields_arguments_iff {args : List TypeExpr} :
    Yields (parseArguments ts) args rest ↔
      ∃ arg us, Yields (parse ts) arg us ∧
        ((∃ vs args', us = .comma :: vs ∧ Yields (parseArguments vs) args' rest ∧
            args = arg :: args') ∨
          (us.head? ≠ some .comma ∧ us = rest ∧ args = [arg])) := by
  rw [parseArguments]
  simp only [yields_bind_iff]
  refine exists_congr fun arg => exists_congr fun us =>
    (exists_congr fun h => yields_accept?_iff).trans ?_
  simp only [yields_bind_iff, yields_pure_iff]
  grind

end SignalBinding.TypeExpr
