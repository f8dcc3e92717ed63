import SignalBinding.Proofs.TypeSoundness

/-!
# What is in the grammar is read

Behind a type the readers look at one more token: a path goes on with `::`, a name with `<`. Before
any tokens that start with neither, each piece that the grammar derives is read as a whole and with
the meaning that the grammar gives to it.

## Main definitions

- `Closed`: tokens before which a type is over
- `Complete`: what is true of each piece in the grammar
-/

namespace SignalBinding.TypeExpr

variable {table : NameTable} {ts us rest : List Token} {c : String}

/-! ### Names -/

theorem wrapper_none_of_builtin {name : String} {b : Builtin}
    (h : Builtin.ofIdent? name = some b) : Wrapper.ofIdent? name = none := by
  unfold Builtin.ofIdent? at h
  split at h <;> first | rfl | cases h

theorem resolve_of_names {name : String} {args : List TypeExpr}
    (h : Names table name (args.map (cpp table)) c) :
    ∃ t, resolve name args = .ok t ∧ t.cpp table = c := by
  generalize hcs : args.map (cpp table) = cs at h
  cases h with
  | pinned =>
    obtain ⟨arg, rfl, rfl⟩ := List.map_eq_singleton_iff.1 hcs
    exact ⟨arg, rfl, rfl⟩
  | wrapper _ hw =>
    obtain ⟨arg, rfl, rfl⟩ := List.map_eq_singleton_iff.1 hcs
    have hpin : name ≠ "Pin" := by rintro rfl; cases hw
    exact ⟨_, by simp only [resolve, if_neg hpin, hw]; rfl, rfl⟩
  | builtin hb =>
    obtain rfl := List.map_eq_nil_iff.1 hcs
    have hpin : name ≠ "Pin" := by rintro rfl; cases hb
    have hstr : name ≠ "str" := by rintro rfl; cases hb
    have hw := wrapper_none_of_builtin hb
    exact ⟨_, by simp only [resolve, if_neg hpin, hw, if_neg hstr, hb]; rfl, rfl⟩
  | user hpin hstr hw hb =>
    obtain rfl := List.map_eq_nil_iff.1 hcs
    exact ⟨_, by simp only [resolve, if_neg hpin, hw, if_neg hstr, hb]; rfl, rfl⟩

/-! ### Behind an ampersand -/

theorem afterAmp_of_opensType (l : Option String) {t : Token} (h : t.opensType = true) :
    afterAmp ((l.map Token.lifetime).toList ++ t :: us) = (false, t :: us) := by
  have hmut : t ≠ .ident "mut" := by rintro rfl; cases h
  have hlifetime : ∀ name, t ≠ .lifetime name := by rintro name rfl; cases h
  cases l with
  | none => exact afterAmp.eq_4 _ (by simp [hlifetime]) (by simp [hlifetime]) (by simp [hmut])
  | some name => exact afterAmp.eq_2 _ _ (by simp [hmut])

theorem afterAmp_mut (l : Option String) :
    afterAmp ((l.map Token.lifetime).toList ++ .ident "mut" :: us) = (true, us) := by
  cases l with
  | none => rfl
  | some name => rfl

/-! ### What is true of each piece -/

/-- Tokens that do not go on with a type before them. -/
structure Closed (rest : List Token) : Prop where
  pathSep : rest.head? ≠ some .pathSep
  less : rest.head? ≠ some .less

theorem Closed.cons {t : Token} (hpath : t ≠ .pathSep) (hless : t ≠ .less) :
    Closed (t :: us) :=
  ⟨by simpa using hpath, by simpa using hless⟩

/-- The piece `ts` is read as a type whose C++ text is `c`, whatever closed tokens follow. -/
def Complete (table : NameTable) (ts : List Token) (c : String) : Prop :=
  ∀ us rest, us = ts ++ rest → Closed rest →
    ∃ t, Yields (parse us) t rest ∧ t.cpp table = c

/-! ### Paths -/

theorem exists_yields_arguments {a : List Token × String} {as : List (List Token × String)}
    (h : ∀ b ∈ a :: as, Complete table b.1 b.2)
    (hus : us = a.1 ++ as.flatMap (fun b => .comma :: b.1) ++ rest) (hrest : Closed rest)
    (hcomma : rest.head? ≠ some .comma) :
    ∃ args, Yields (parseArguments us) args rest ∧
      args.map (cpp table) = (a :: as).map Prod.snd := by
  induction as generalizing a us with
  | nil =>
    obtain ⟨arg, harg, hcpp⟩ := h a (by simp) us rest (by simpa using hus) hrest
    refine ⟨[arg], yields_arguments_iff.2 ⟨arg, rest, harg, .inr ?_⟩, by simp [hcpp]⟩
    exact ⟨hcomma, rfl, rfl⟩
  | cons b as ih =>
    -- The comma closes the first argument, and the reader takes it as a sign of further ones.
    obtain ⟨args, hargs, hmap⟩ := ih (fun d hd => h d (List.mem_cons_of_mem _ hd)) rfl
    obtain ⟨arg, harg, hcpp⟩ := h a (by simp) us
      (.comma :: (b.1 ++ as.flatMap (fun b => .comma :: b.1) ++ rest))
      (by simpa using hus) (.cons (by simp) (by simp))
    refine ⟨arg :: args, yields_arguments_iff.2 ⟨arg, _, harg, .inl ?_⟩, by simp [hcpp, hmap]⟩
    exact ⟨_, args, rfl, hargs, rfl⟩

theorem exists_yields_segment {s : Segment} (hname : isReserved s.name = false)
    (hargs : ∀ a ∈ s.args, Complete table a.1 a.2) (hus : us = s.tokens ++ rest)
    (hless : rest.head? ≠ some .less) :
    ∃ args, Yields (parseSegment us) (s.name, args) rest ∧
      args.map (cpp table) = s.args.map Prod.snd := by
  obtain ⟨name, args⟩ := s
  cases args with
  | nil => exact ⟨[], yields_segment_iff.2 ⟨rest, hus, hname, .inr ⟨hless, rfl, rfl⟩⟩, rfl⟩
  | cons a as =>
    have hgreater : Closed (.greater :: rest) := .cons (by simp) (by simp)
    obtain ⟨args, hyields, hmap⟩ := exists_yields_arguments hargs rfl hgreater (by simp)
    refine ⟨args, yields_segment_iff.2 ⟨_, ?_, hname, .inl ⟨_, rfl, hyields⟩⟩, hmap⟩
    simpa [Segment.tokens, Segment.argTokens] using hus

theorem exists_yields_path {outer : List Segment} {last : Segment}
    (hname : ∀ s ∈ outer ++ [last], isReserved s.name = false)
    (hargs : ∀ s ∈ outer ++ [last], ∀ a ∈ s.args, Complete table a.1 a.2)
    (hlast : Names table last.name (last.args.map Prod.snd) c)
    (hus : us = Segment.joined outer ++ last.tokens ++ rest) (hrest : Closed rest) :
    ∃ t, Yields (parsePath us) t rest ∧ t.cpp table = c := by
  induction outer generalizing us with
  | nil =>
    obtain ⟨args, hs, hmap⟩ := exists_yields_segment (hname last (by simp)) (hargs last (by simp))
      hus hrest.less
    obtain ⟨t, ht, hcpp⟩ := resolve_of_names (hmap ▸ hlast)
    exact ⟨t, yields_path_iff.2 ⟨_, args, rest, hs, .inr ⟨hrest.pathSep, rfl, ht⟩⟩, hcpp⟩
  | cons s outer ih =>
    obtain ⟨t, hp, hcpp⟩ := ih (fun u hu => hname u (by simp [hu]))
      (fun u hu => hargs u (by simp [hu])) rfl
    have hus' : us = s.tokens ++ .pathSep :: (Segment.joined outer ++ last.tokens ++ rest) := by
      simpa [Segment.joined] using hus
    obtain ⟨args, hs, -⟩ := exists_yields_segment (hname s (by simp)) (hargs s (by simp)) hus'
      (by simp)
    exact ⟨t, yields_path_iff.2 ⟨_, args, _, hs, .inl ⟨_, rfl, hp⟩⟩, hcpp⟩

/-! ### All together -/

/-- Each piece that the grammar derives is read as a whole. -/
theorem Derives.complete (h : Derives table ts c) : Complete table ts c := by
  induction h with
  | unit =>
    rintro _ rest rfl _
    exact ⟨.unit, yields_unit_iff.2 ⟨rfl, rfl⟩, rfl⟩
  | str l =>
    intro us rest hus _
    have hstr : (Token.ident "str").opensType = true := by decide
    obtain rfl : us = _ := by simpa [ampersand] using hus
    exact ⟨.str, (yields_str_iff (afterAmp_of_opensType l hstr)).2 ⟨rfl, rfl⟩, rfl⟩
  | slice l _ ih =>
    intro us rest hus _
    obtain ⟨elem, helem, hcpp⟩ := ih _ (.rbracket :: rest) rfl (.cons (by simp) (by simp))
    obtain rfl : us = _ := by simpa [ampersand] using hus
    refine ⟨.slice false elem, (yields_slice_iff (afterAmp_of_opensType l rfl)).2 ?_, ?_⟩
    · exact ⟨elem, helem, rfl⟩
    · simp [hcpp]
  | sliceMut l _ ih =>
    intro us rest hus _
    obtain ⟨elem, helem, hcpp⟩ := ih _ (.rbracket :: rest) rfl (.cons (by simp) (by simp))
    obtain rfl : us = _ := by simpa [ampersand] using hus
    refine ⟨.slice true elem, (yields_slice_iff (afterAmp_mut l)).2 ⟨elem, helem, rfl⟩, ?_⟩
    simp [hcpp]
  | reference l htarget hslice hstr ih =>
    intro us rest hus hrest
    obtain ⟨target, hyields, hcpp⟩ := ih _ rest rfl hrest
    -- The target starts with a token that is neither a lifetime nor `mut`.
    obtain ⟨t, ts, rfl, hopens⟩ := htarget.exists_cons
    obtain rfl : us = _ := by simpa [ampersand] using hus
    refine ⟨.reference false target,
      (yields_reference_iff (afterAmp_of_opensType l hopens) ?_ fun _ => ?_).2
        ⟨target, hyields, rfl⟩, ?_⟩
    · simpa using hslice
    · simpa using hstr
    · simp [hcpp]
  | referenceMut l htarget hslice ih =>
    intro us rest hus hrest
    obtain ⟨target, hyields, hcpp⟩ := ih _ rest rfl hrest
    obtain ⟨t, ts, rfl, hopens⟩ := htarget.exists_cons
    obtain rfl : us = _ := by simpa [ampersand] using hus
    refine ⟨.reference true target,
      (yields_reference_iff (afterAmp_mut l) ?_ nofun).2 ⟨target, hyields, rfl⟩, ?_⟩
    · simpa using hslice
    · simp [hcpp]
  | pointer _ ih =>
    rintro _ rest rfl hrest
    obtain ⟨target, htarget, hcpp⟩ := ih _ rest rfl hrest
    exact ⟨_, yields_pointer_iff.2 ⟨target, htarget, rfl⟩, by simp [hcpp]⟩
  | pointerMut _ ih =>
    rintro _ rest rfl hrest
    obtain ⟨target, htarget, hcpp⟩ := ih _ rest rfl hrest
    exact ⟨_, yields_pointerMut_iff.2 ⟨target, htarget, rfl⟩, by simp [hcpp]⟩
  | array _ digits ih =>
    intro us rest hus _
    obtain ⟨elem, helem, hcpp⟩ := ih _ (.semicolon :: .number digits :: .rbracket :: rest) rfl
      (.cons (by simp) (by simp))
    obtain rfl : us = _ := by simpa using hus
    exact ⟨_, yields_array_iff.2 ⟨elem, digits, helem, rfl⟩, by simp [hcpp]⟩
  | path root outer last hname _ hlast ih =>
    rintro us rest hus hrest
    obtain ⟨t, ht, hcpp⟩ := exists_yields_path hname ih hlast rfl hrest
    cases root with
    | true =>
      obtain rfl : us = .pathSep :: (Segment.joined outer ++ last.tokens ++ rest) := by
        simpa using hus
      exact ⟨t, yields_root_iff.2 ht, hcpp⟩
    | false =>
      obtain ⟨s, _, vs, hvs⟩ := Segment.exists_ident_cons outer last
      obtain rfl : us = .ident s.name :: (vs ++ rest) := by simpa [hvs] using hus
      rw [hvs] at ht
      exact ⟨t, parse_of_ident ▸ ht, hcpp⟩

/-! ### Whole texts -/

theorem ofTokens_eq_ok_iff {t : TypeExpr} : ofTokens ts = .ok t ↔ Yields (parse ts) t [] := by
  cases ts with
  | nil =>
    refine ⟨nofun, fun h => ?_⟩
    exact absurd h.length_lt (Nat.not_lt_zero _)
  | cons u us =>
    cases h : parse (u :: us) with
    | error fault => simp [ofTokens, h, Yields, bind, Except.bind]
    | ok p =>
      obtain ⟨t', rest, hrest⟩ := p
      cases rest with
      | nil => simp [ofTokens, h, Yields, bind, Except.bind, pure, Except.pure]
      | cons v vs => simp [ofTokens, h, Yields, bind, Except.bind]

theorem exists_ofTokens_iff :
    (∃ t, ofTokens ts = .ok t ∧ t.cpp table = c) ↔ Derives table ts c := by
  simp only [ofTokens_eq_ok_iff]
  constructor
  · rintro ⟨t, ht, rfl⟩
    obtain ⟨us, rfl, hd⟩ := sound table ts t [] ht
    simpa using hd
  · intro h
    exact h.complete ts [] (by simp) ⟨by simp, by simp⟩

/-- Exactly the texts whose tokens the grammar derives as a whole have a C++ type. -/
theorem spell_eq_ok_iff {s : String} :
    spell table s = .ok c ↔ ∃ ts, tokens s.toList = .ok ts ∧ Derives table ts c := by
  simp only [← exists_ofTokens_iff, spell, ofText]
  cases tokens s.toList with
  | error d => simp
  | ok ts => cases h : ofTokens ts <;> simp [h]

theorem source_of_spell_error {s : String} {e : Unresolved} (h : spell table s = .error e) :
    e.source = s := by
  unfold spell at h
  split at h
  · cases h
  · cases h; rfl

/--
The texts of parameter types and their C++ types are those of the grammar; every other text is
refused, and named in the refusal.
-/
theorem spell_iff_derives (table : NameTable) (s : String) :
    (∀ c, spell table s = .ok c ↔ ∃ ts, tokens s.toList = .ok ts ∧ Derives table ts c) ∧
      ((∃ fault, spell table s = .error { source := s, fault }) ↔
        ¬ ∃ c ts, tokens s.toList = .ok ts ∧ Derives table ts c) := by
  refine ⟨fun c => spell_eq_ok_iff, ?_⟩
  simp only [← spell_eq_ok_iff]
  cases h : spell table s with
  | error e =>
    obtain rfl := source_of_spell_error h
    simpa using ⟨e.fault, rfl⟩
  | ok c => simp

end SignalBinding.TypeExpr
