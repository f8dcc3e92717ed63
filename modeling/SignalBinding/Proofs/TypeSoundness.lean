import SignalBinding.Proofs.TypeGrammar
import SignalBinding.Proofs.TypeReaders

/-!
# What is read is in the grammar

Each reader takes from its tokens a piece that the grammar derives, and answers with the meaning
that the grammar gives to the piece. There is one lemma for each way in which a reader can
succeed; `parse.induct` puts them together.

## Main definitions

- `Sound`, `SoundPath`, `SoundSegment`, `SoundArguments`: what is true of each reader
-/

namespace SignalBinding.TypeExpr

variable {table : NameTable} {ts us vs rest : List Token}

/-- Only a lifetime and `mut` are passed over behind an ampersand. -/
theorem eq_of_afterAmp {m : Bool} (h : afterAmp us = (m, vs)) :
    ∃ l : Option String,
      .amp :: us = ampersand l ++ (if m then [.ident "mut"] else []) ++ vs := by
  unfold afterAmp at h
  split at h <;> obtain ⟨rfl, rfl⟩ := Prod.mk.inj h
  case h_1 name rest => exact ⟨some name, rfl⟩
  case h_2 name rest _ => exact ⟨some name, rfl⟩
  case h_3 rest => exact ⟨none, rfl⟩
  case h_4 => exact ⟨none, rfl⟩

theorem names_of_resolve {name : String} {args : List TypeExpr} {t : TypeExpr}
    (h : resolve name args = .ok t) :
    Names table name (args.map (cpp table)) (t.cpp table) := by
  unfold resolve at h
  split at h
  next hpin =>
    subst hpin
    split at h
    · cases h; exact .pinned _
    · cases h
  next hpin =>
    split at h
    next w hw =>
      split at h
      · cases h; exact .wrapper _ hw
      · cases h
    next hw =>
      split at h
      · cases h
      · split at h
        · cases h
        next hstr =>
          split at h
          next b hb => cases h; exact .builtin hb
          next hb => cases h; exact .user hpin hstr hw hb

/-! ### What is true of each reader -/

/-- A type is read off a piece that the grammar derives. -/
def Sound (table : NameTable) (ts : List Token) : Prop :=
  ∀ t rest, Yields (parse ts) t rest →
    ∃ us, ts = us ++ rest ∧ Derives table us (t.cpp table)

/-- The parts of a segment obey the grammar. -/
structure Segment.Valid (table : NameTable) (s : Segment) : Prop where
  name : isReserved s.name = false
  args : ∀ a ∈ s.args, Derives table a.1 a.2

/-- A path is read off segments, the last of which gives its meaning. -/
def SoundPath (table : NameTable) (ts : List Token) : Prop :=
  ∀ t rest, Yields (parsePath ts) t rest →
    ∃ outer last, ts = Segment.joined outer ++ last.tokens ++ rest ∧
      (∀ s ∈ outer ++ [last], s.Valid table) ∧
      Names table last.name (last.args.map Prod.snd) (t.cpp table)

/-- A name with generic arguments is read off a segment. -/
def SoundSegment (table : NameTable) (ts : List Token) : Prop :=
  ∀ name args rest, Yields (parseSegment ts) (name, args) rest →
    ∃ s : Segment, ts = s.tokens ++ rest ∧ s.Valid table ∧ s.name = name ∧
      s.args.map Prod.snd = args.map (cpp table)

/-- Generic arguments are read off types with commas between them. -/
def SoundArguments (table : NameTable) (ts : List Token) : Prop :=
  ∀ args rest, Yields (parseArguments ts) args rest →
    ∃ a as, ts = a.1 ++ as.flatMap (fun b => .comma :: b.1) ++ rest ∧
      (∀ b ∈ a :: as, Derives table b.1 b.2) ∧ (a :: as).map Prod.snd = args.map (cpp table)

/-! ### Types -/

theorem Sound.slice {m : Bool} (hamp : afterAmp us = (m, .lbracket :: vs))
    (ih : Sound table vs) : Sound table (.amp :: us) := by
  intro t rest h
  obtain ⟨elem, helem, rfl⟩ := (yields_slice_iff hamp).1 h
  obtain ⟨ws, rfl, hd⟩ := ih _ _ helem
  obtain ⟨l, hl⟩ := eq_of_afterAmp hamp
  cases m with
  | false => exact ⟨_, by simpa using hl, .slice l hd⟩
  | true => exact ⟨_, by simpa using hl, .sliceMut l hd⟩

theorem Sound.str (hamp : afterAmp us = (false, .ident "str" :: vs)) :
    Sound table (.amp :: us) := by
  intro t rest h
  obtain ⟨rfl, rfl⟩ := (yields_str_iff hamp).1 h
  obtain ⟨l, hl⟩ := eq_of_afterAmp hamp
  exact ⟨_, by simpa using hl, .str l⟩

theorem Sound.reference {m : Bool} (hamp : afterAmp us = (m, vs))
    (hslice : vs.head? ≠ some .lbracket)
    (hstr : m = false → vs.head? ≠ some (.ident "str")) (ih : Sound table vs) :
    Sound table (.amp :: us) := by
  intro t rest h
  obtain ⟨target, htarget, rfl⟩ := (yields_reference_iff hamp hslice hstr).1 h
  obtain ⟨ws, rfl, hd⟩ := ih _ _ htarget
  obtain ⟨l, hl⟩ := eq_of_afterAmp hamp
  obtain ⟨w, ws', rfl, -⟩ := hd.exists_cons
  cases m with
  | false => exact ⟨_, by simpa using hl, .reference l hd hslice (hstr rfl)⟩
  | true => exact ⟨_, by simpa using hl, .referenceMut l hd hslice⟩

theorem Sound.pointer (ih : Sound table us) : Sound table (.star :: .ident "const" :: us) := by
  intro t rest h
  obtain ⟨target, htarget, rfl⟩ := yields_pointer_iff.1 h
  obtain ⟨ws, rfl, hd⟩ := ih _ _ htarget
  exact ⟨_, rfl, .pointer hd⟩

theorem Sound.pointerMut (ih : Sound table us) : Sound table (.star :: .ident "mut" :: us) := by
  intro t rest h
  obtain ⟨target, htarget, rfl⟩ := yields_pointerMut_iff.1 h
  obtain ⟨ws, rfl, hd⟩ := ih _ _ htarget
  exact ⟨_, rfl, .pointerMut hd⟩

theorem Sound.array (ih : Sound table us) : Sound table (.lbracket :: us) := by
  intro t rest h
  obtain ⟨elem, digits, helem, rfl⟩ := yields_array_iff.1 h
  obtain ⟨ws, rfl, hd⟩ := ih _ _ helem
  exact ⟨_, by simp, .array hd digits⟩

theorem Sound.unit : Sound table (.lparen :: .rparen :: us) := by
  intro t rest h
  obtain ⟨rfl, rfl⟩ := yields_unit_iff.1 h
  exact ⟨[.lparen, .rparen], rfl, .unit⟩

theorem SoundPath.derives (root : Bool) {t : TypeExpr} (ih : SoundPath table ts)
    (h : Yields (parsePath ts) t rest) :
    ∃ us, (if root then [.pathSep] else []) ++ ts = us ++ rest ∧
      Derives table us (t.cpp table) := by
  obtain ⟨outer, last, rfl, hvalid, hlast⟩ := ih _ _ h
  exact ⟨_, by simp, .path root outer last (fun s hs => (hvalid s hs).name)
    (fun s hs => (hvalid s hs).args) hlast⟩

/-! ### Paths -/

theorem SoundPath.of_segment (ihs : SoundSegment table ts)
    (ihp : ∀ us : List Token, us.length < ts.length → ∀ vs : List Token, vs.length < us.length →
      SoundPath table vs) : SoundPath table ts := by
  intro t rest h
  obtain ⟨name, args, us, hs, h⟩ := yields_path_iff.1 h
  obtain ⟨s, rfl, hvalid, rfl, hargs⟩ := ihs _ _ _ hs
  rcases h with ⟨vs, rfl, hp⟩ | ⟨-, rfl, hr⟩
  · obtain ⟨outer, last, rfl, houter, hlast⟩ := ihp _ hs.length_lt _ (by simp) _ _ hp
    refine ⟨s :: outer, last, by simp [Segment.joined], ?_, hlast⟩
    simpa [hvalid] using houter
  · refine ⟨[], s, by simp [Segment.joined], by simpa using hvalid, ?_⟩
    -- The path ends here, so this segment says what it denotes.
    rw [hargs]
    exact names_of_resolve hr

theorem SoundSegment.of_arguments {name : String}
    (ih : ∀ vs, us = .less :: vs → SoundArguments table vs) :
    SoundSegment table (.ident name :: us) := by
  intro name' args rest h
  obtain ⟨us', hus, hname, h⟩ := yields_segment_iff.1 h
  obtain ⟨rfl, rfl⟩ : name = name' ∧ us = us' := by simpa using hus
  rcases h with ⟨vs, rfl, ha⟩ | ⟨-, rfl, rfl⟩
  · obtain ⟨a, as, rfl, has, hmap⟩ := ih _ rfl _ _ ha
    exact ⟨⟨name, a :: as⟩, by simp [Segment.tokens, Segment.argTokens], ⟨hname, has⟩, rfl, hmap⟩
  · exact ⟨⟨name, []⟩, rfl, ⟨hname, by simp⟩, rfl, rfl⟩

theorem SoundArguments.of_sound (iht : Sound table ts)
    (iha : ∀ us : List Token, us.length < ts.length → ∀ vs : List Token, vs.length < us.length →
      SoundArguments table vs) : SoundArguments table ts := by
  intro args rest hargs
  obtain ⟨arg, us, harg, h⟩ := yields_arguments_iff.1 hargs
  obtain ⟨ws, rfl, hd⟩ := iht _ _ harg
  rcases h with ⟨vs, args', rfl, h, rfl⟩ | ⟨-, rfl, rfl⟩
  · obtain ⟨a, as, rfl, has, hmap⟩ := iha _ harg.length_lt _ (by simp) _ _ h
    refine ⟨(ws, arg.cpp table), a :: as, by simp, ?_, ?_⟩
    · intro b hb
      rcases List.mem_cons.1 hb with rfl | hb
      · exact hd
      · exact has b hb
    · simpa using hmap
  · exact ⟨(ws, arg.cpp table), [], by simp, by simpa using hd, rfl⟩

/-! ### All together -/

/-- Whatever is read at the front of a token list is a piece that the grammar derives. -/
theorem sound (table : NameTable) (ts : List Token) : Sound table ts := by
  refine parse.induct (Sound table) (SoundPath table) (SoundSegment table) (SoundArguments table)
    ?slice ?str ?reference ?pointer ?pointerMut ?star ?array ?unit ?tuple ?root ?path ?segments
    ?nothing ?reserved ?generic ?plain ?notAName ?arguments ts
  case slice => exact fun us _ m vs hamp _ ih => .slice hamp ih
  case str => exact fun us _ vs hamp => .str hamp
  case reference =>
    intro us _ m vs hslice hstr hamp _ ih
    refine .reference hamp ?_ ?_ ih
    · rintro h
      obtain ⟨ws, rfl⟩ := List.head?_eq_some_iff.1 h
      exact hslice _ rfl
    · rintro rfl h
      obtain ⟨ws, rfl⟩ := List.head?_eq_some_iff.1 h
      exact hstr _ rfl rfl
  case pointer => exact fun us ih => .pointer ih
  case pointerMut => exact fun us ih => .pointerMut ih
  case star =>
    intro us hconst hmut t rest h
    rw [parse] at h
    · simp at h
    · exact hconst
    · exact hmut
  case array => exact fun us ih => .array ih
  case unit => exact fun us => .unit
  case tuple =>
    intro us hne t rest h
    rw [parse] at h
    · simp at h
    · exact hne
  case root => exact fun us ih t rest h => ih.derives true (yields_root_iff.1 h)
  case path =>
    intro ts h1 h2 h3 h4 h5 h6 h7 h8 ih t rest h
    rw [parse] at h
    · exact ih.derives false h
    all_goals assumption
  case segments => exact fun ts ihs ihp => .of_segment ihs ihp
  case nothing =>
    intro name args rest h
    simp [yields_segment_iff] at h
  case reserved =>
    intro name us hname name' args rest h
    obtain ⟨us', hus, hname', -⟩ := yields_segment_iff.1 h
    simp_all
  case generic =>
    rintro name us - vs hvs hacc ih
    refine .of_arguments fun ws hws => ?_
    subst hws
    -- What the reader took as behind `<` is what the arguments are read from.
    obtain rfl : ws = vs := by simpa [accept?] using hacc
    exact ih
  case plain =>
    rintro name us - hacc
    refine .of_arguments fun ws hws => ?_
    subst hws
    simp [accept?] at hacc
  case notAName =>
    intro t us hne name args rest h
    obtain ⟨us', hus, -⟩ := yields_segment_iff.1 h
    exact absurd (List.head_eq_of_cons_eq hus) (hne name)
  case arguments => exact fun ts iht iha => .of_sound iht iha

end SignalBinding.TypeExpr
