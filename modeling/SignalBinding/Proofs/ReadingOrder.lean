import SignalBinding.Proofs.BoundedReading

/-!
# Reading moves on

A bound that allows for one level per token is never exhausted, on whatever tokens and however they
end. Within such a bound a type is read as `parse` reads it, and each thing that is done on the way
is done later in the tokens than the last.

## Main results

- `typeReads`: reading within a bound does what `parse` does
- `parse_moves_on`: reading from a place ends in a fault or at a later place, and no place is come
  back to
-/

namespace SignalBinding.TypeExpr

variable {α β γ : Type} {ts us vs ws : List Token}

/-! ### Later places -/

theorem Later.trans_suffix (h : Later us ts) (hts : ts <:+ vs) : Later us vs :=
  ⟨h.suffix.trans hts, Nat.lt_of_lt_of_le h.length_lt hts.length_le⟩

theorem Later.of_suffix (hvs : vs <:+ us) (h : Later us ts) : Later vs ts :=
  ⟨hvs.trans h.suffix, Nat.lt_of_le_of_lt hvs.length_le h.length_lt⟩

theorem later_cons (t : Token) (ts : List Token) : Later ts (t :: ts) :=
  ⟨List.suffix_cons t ts, Nat.lt_succ_self _⟩

theorem later_cons_cons (t u : Token) (ts : List Token) : Later ts (t :: u :: ts) :=
  (later_cons u ts).trans_suffix (List.suffix_cons t _)

theorem later_of_expect {wanted : Token} {r : Rest ts} (h : expect wanted ts = .ok r) :
    Later r.1 ts := by
  cases ts with
  | nil => cases h
  | cons t rest => grind [expect, later_cons]

theorem later_of_accept? {wanted : Token} {r : Rest ts} (h : accept? wanted ts = some r) :
    Later r.1 ts := by
  cases ts with
  | nil => cases h
  | cons t rest => grind [accept?, later_cons]

theorem later_of_parseLength {a : String × Rest ts} (h : parseLength ts = .ok a) :
    Later a.2.1 ts := by
  unfold parseLength at h
  split at h
  · cases h
  · cases h
    exact later_cons _ _
  · cases h

theorem later_of_afterAmp {mutable : Bool} (h : afterAmp us = (mutable, vs)) :
    Later vs (.amp :: us) := by
  have hsuffix : (afterAmp us).2 <:+ us := by
    unfold afterAmp
    grind [List.suffix_cons]
  rw [h] at hsuffix
  exact (later_cons _ _).of_suffix hsuffix

/-! ### Records that move on -/

namespace Event.Forward

variable {before after : List Event} {e : Event}

theorem nil : (Event.type us []).Forward :=
  .type nofun .nil nofun

theorem singleton (h : e.Forward) (hus : Later e.place us) : (Event.type us [e]).Forward :=
  .type (List.forall_mem_singleton.2 hus) (List.pairwise_singleton _ _)
    (List.forall_mem_singleton.2 h)

theorem later (h : (Event.type us before).Forward) : ∀ e ∈ before, Later e.place us := by
  cases h with
  | type later _ _ => exact later

theorem mono (h : (Event.type us before).Forward) (hus : us <:+ vs) :
    (Event.type vs before).Forward := by
  cases h with
  | type later ordered inner =>
    exact .type (fun e he => (later e he).trans_suffix hus) ordered inner

theorem append (h : (Event.type us before).Forward) (h' : (Event.type us after).Forward)
    (hlater : ∀ e ∈ before, ∀ e' ∈ after, Later e'.place e.place) :
    (Event.type us (before ++ after)).Forward := by
  cases h with
  | type later ordered inner =>
    cases h' with
    | type later' ordered' inner' =>
      exact .type (List.forall_mem_append.2 ⟨later, later'⟩)
        (List.pairwise_append.2 ⟨ordered, ordered', hlater⟩)
        (List.forall_mem_append.2 ⟨inner, inner'⟩)

end Event.Forward

/-! ### Runs beside readers -/

/--
The run has the outcome of a reader that answers `e`. What it tells is as in a type that starts with
the tokens `us`, and the tokens that it leaves are not earlier than any of that.
-/
structure Follows (us : List Token) (x : Run (α × List Token)) (e : Except Fault (α × Rest ts)) :
    Prop where
  outcome : x.outcome = some (e.map fun a => (a.1, a.2.1))
  forward : (Event.type us x.events).Forward
  rest : ∀ a, e = .ok a → a.2.1 <:+ us ∧ ∀ ev ∈ x.events, a.2.1 <:+ ev.place

namespace Follows

variable {x : Run (α × List Token)} {e : Except Fault (α × Rest ts)}

theorem error (fault : Fault) :
    Follows us (Run.ofExcept (.error fault)) (.error fault : Except Fault (α × Rest ts)) :=
  ⟨rfl, .nil, nofun⟩

theorem pure {a : α} (hlt : vs.length < ts.length) (h : vs <:+ us) :
    Follows us (Pure.pure (a, vs)) (Pure.pure (a, ⟨vs, hlt⟩) : Except Fault (α × Rest ts)) := by
  refine ⟨rfl, .nil, ?_⟩
  rintro _ ⟨⟩
  exact ⟨h, nofun⟩

theorem mono (h : Follows us x e) (hus : us <:+ vs) : Follows vs x e where
  outcome := h.outcome
  forward := h.forward.mono hus
  rest a ha := ⟨(h.rest a ha).1.trans hus, (h.rest a ha).2⟩

theorem ofExcept_bind {e : Except Fault γ} {f : γ → Run (β × List Token)}
    {g : γ → Except Fault (β × Rest ts)} (h : ∀ c, e = .ok c → Follows us (f c) (g c)) :
    Follows us (Run.ofExcept e >>= f) (e >>= g) := by
  cases e with
  | error fault => exact .error fault
  | ok c => exact h c rfl

/-- What follows a reader goes on from the tokens that the reader leaves. -/
theorem bind {e : Except Fault (α × Rest vs)} {f : α × List Token → Run (β × List Token)}
    {g : α × Rest vs → Except Fault (β × Rest ts)} (h : Follows us x e)
    (hfg : ∀ a r, r.1 <:+ us → Follows r.1 (f (a, r.1)) (g (a, r))) :
    Follows us (x >>= f) (e >>= g) := by
  cases e with
  | error fault =>
    rw [Run.bind_of_error h.outcome]
    exact ⟨rfl, h.forward, nofun⟩
  | ok a =>
    obtain ⟨a, r⟩ := a
    rw [Run.bind_of_ok h.outcome]
    obtain ⟨hr, hbefore⟩ := h.rest _ rfl
    have hnext := hfg a r hr
    refine ⟨hnext.outcome, h.forward.append (hnext.forward.mono hr) ?_, fun b hb => ?_⟩
    · intro ev hev ev' hev'
      exact (hnext.forward.later ev' hev').trans_suffix (hbefore ev hev)
    · obtain ⟨hsuffix, hafter⟩ := hnext.rest b hb
      refine ⟨hsuffix.trans hr, List.forall_mem_append.2 ⟨fun ev hev => ?_, hafter⟩⟩
      exact hsuffix.trans (hbefore ev hev)

/-- A round is told behind all else that happens in it, so it has to end behind all of that. -/
theorem round (h : Follows us x e) (hlater : ∀ a, e = .ok a → Later a.2.1 vs)
    (hevents : ∀ a, e = .ok a → Later a.2.1 us ∧ ∀ ev ∈ x.events, Later a.2.1 ev.place) :
    Follows us (x.round vs) e := by
  cases e with
  | error fault =>
    rw [Run.round, Run.bind_of_error h.outcome]
    exact ⟨rfl, h.forward, nofun⟩
  | ok a =>
    obtain ⟨hus, hevents⟩ := hevents a rfl
    obtain ⟨hrest, hbefore⟩ := h.rest a rfl
    have hround : (Event.type us [.round vs a.2.1]).Forward :=
      .singleton (.round (hlater a rfl)) hus
    rw [Run.round, Run.bind_of_ok h.outcome]
    refine ⟨rfl, h.forward.append hround ?_, ?_⟩
    · exact fun ev hev => List.forall_mem_singleton.2 (hevents ev hev)
    · rintro _ ⟨⟩
      exact ⟨hrest, List.forall_mem_append.2
        ⟨hbefore, List.forall_mem_singleton.2 List.suffix_rfl⟩⟩

theorem pure_round {a : α} (hlt : us.length < ts.length) (h : Later us vs) (hws : Later us ws) :
    Follows vs (Run.round (Pure.pure (a, us)) ws)
      (Pure.pure (a, ⟨us, hlt⟩) : Except Fault (α × Rest ts)) := by
  refine (Follows.pure hlt h.suffix).round ?_ ?_
  · rintro _ ⟨⟩
    exact hws
  · rintro _ ⟨⟩
    exact ⟨h, List.forall_mem_nil _⟩

/-- What is known of the tokens left may be put in other words. -/
theorem rebound {g : α × Rest ts → Except Fault (α × Rest vs)} (h : Follows us x e)
    (hg : ∀ a, ∃ hlt, g a = .ok (a.1, ⟨a.2.1, hlt⟩)) : Follows us x (e >>= g) := by
  cases e with
  | error fault => exact ⟨h.outcome, h.forward, nofun⟩
  | ok a =>
    obtain ⟨hlt, ha⟩ := hg a
    change Follows us x (g a)
    rw [ha]
    refine ⟨h.outcome, h.forward, ?_⟩
    rintro _ ⟨⟩
    exact h.rest a rfl

end Follows

/-! ### Types -/

/-- One level of the bound for each token is enough to read a type at the front of `ts`. -/
def TypeReads (ts : List Token) : Prop :=
  ∀ n, ts.length ≤ n → Follows ts (typeWithin n ts) (parse ts)

def PathReads (ts : List Token) : Prop :=
  ∀ n, ts.length ≤ n → Follows ts (pathWithin n ts) (parsePath ts)

/-- A segment is always read as a round of a path. -/
def SegmentReads (ts : List Token) : Prop :=
  ∀ n, ts.length ≤ n → Follows ts ((segmentWithin n ts).round ts) (parseSegment ts)

/-- The first argument starts where the arguments do, so what is ahead of them is counted in. -/
def ArgumentsRead (ts : List Token) : Prop :=
  ∀ n us, Later ts us → us.length ≤ n → Follows us (argumentsWithin n ts) (parseArguments ts)

variable {n : Nat}

theorem TypeReads.rest_later {a : TypeExpr × Rest ts} (h : TypeReads ts) (ha : parse ts = .ok a) :
    Later a.2.1 ts :=
  ⟨((h ts.length (Nat.le_refl _)).rest a ha).1, a.2.2⟩

/-- A type inside another one takes one level, and at least one token is ahead of it. -/
theorem TypeReads.inner (h : TypeReads vs) (hvs : Later vs us) (hn : us.length ≤ n) :
    Follows us (innerWithin n vs) (parse vs) := by
  have hpos := hvs.length_lt
  obtain ⟨n, rfl⟩ := Nat.exists_eq_succ_of_ne_zero (n := n) (by omega)
  have hreads := h n (by omega)
  rw [innerWithin]
  refine ⟨hreads.outcome, hreads.forward.singleton hvs, fun a ha => ?_⟩
  have hrest := (hreads.rest a ha).1
  exact ⟨hrest.trans hvs.suffix, List.forall_mem_singleton.2 hrest⟩

theorem TypeReads.inner_round (h : TypeReads vs) (hvs : Later vs us) (hn : us.length ≤ n) :
    Follows us ((innerWithin n vs).round vs) (parse vs) := by
  have hinner := h.inner hvs hn
  refine hinner.round (fun a ha => h.rest_later ha) fun a ha => ?_
  refine ⟨(h.rest_later ha).trans_suffix hvs.suffix, fun ev hev => ?_⟩
  have hpos := hvs.length_lt
  obtain ⟨n, rfl⟩ := Nat.exists_eq_succ_of_ne_zero (n := n) (by omega)
  rw [innerWithin] at hev
  obtain rfl := List.mem_singleton.1 hev
  exact h.rest_later ha

/-! The cases of a type. -/

theorem TypeReads.slice {mutable : Bool} (hamp : afterAmp us = (mutable, .lbracket :: vs))
    (ih : TypeReads vs) : TypeReads (.amp :: us) := by
  intro n hn
  have hvs : Later vs (.amp :: us) :=
    (later_of_afterAmp hamp).of_suffix (List.suffix_cons _ _)
  rw [parse, typeWithin]
  simp only [hamp]
  split
  next h =>
    obtain ⟨rfl, h⟩ := Prod.mk.inj (h.symm.trans hamp)
    obtain rfl := List.tail_eq_of_cons_eq h
    refine (ih.inner hvs hn).bind fun elem r _ => ?_
    exact .ofExcept_bind fun rest hrest => .pure _ (later_of_expect hrest).suffix
  next h => simp [hamp] at h
  next hne _ h =>
    obtain ⟨rfl, rfl⟩ := Prod.mk.inj (h.symm.trans hamp)
    exact absurd rfl (hne _)

theorem TypeReads.str (hamp : afterAmp us = (false, .ident "str" :: vs)) :
    TypeReads (.amp :: us) := by
  intro n hn
  have hvs : Later vs (.amp :: us) :=
    (later_of_afterAmp hamp).of_suffix (List.suffix_cons _ _)
  rw [parse, typeWithin]
  simp only [hamp]
  split
  next h => simp [hamp] at h
  next h =>
    obtain rfl := List.tail_eq_of_cons_eq (Prod.mk.inj (h.symm.trans hamp)).2
    exact .pure _ hvs.suffix
  next _ hne h =>
    obtain ⟨rfl, rfl⟩ := Prod.mk.inj (h.symm.trans hamp)
    exact absurd rfl (hne _ rfl)

theorem TypeReads.reference {mutable : Bool} (hamp : afterAmp us = (mutable, vs))
    (hslice : ∀ ws, vs ≠ .lbracket :: ws)
    (hstr : ∀ ws, mutable = false → vs ≠ .ident "str" :: ws) (ih : TypeReads vs) :
    TypeReads (.amp :: us) := by
  intro n hn
  rw [parse, typeWithin]
  simp only [hamp]
  split
  next h =>
    obtain ⟨rfl, rfl⟩ := Prod.mk.inj (h.symm.trans hamp)
    exact absurd rfl (hslice _)
  next h =>
    obtain ⟨rfl, rfl⟩ := Prod.mk.inj (h.symm.trans hamp)
    exact absurd rfl (hstr _ rfl)
  next h =>
    obtain ⟨rfl, rfl⟩ := Prod.mk.inj (h.symm.trans hamp)
    exact (ih.inner (later_of_afterAmp hamp) hn).bind fun target r _ => .pure _ List.suffix_rfl

theorem TypeReads.array (ih : TypeReads us) : TypeReads (.lbracket :: us) := by
  intro n hn
  rw [parse, typeWithin]
  refine (ih.inner (later_cons _ _) hn).bind fun elem r _ => ?_
  refine .ofExcept_bind fun ws hws => ?_
  refine .ofExcept_bind fun length hlength => ?_
  refine .ofExcept_bind fun rest hrest => .pure _ ?_
  have hxs := (later_of_expect hrest).suffix.trans (later_of_parseLength hlength).suffix
  exact hxs.trans (later_of_expect hws).suffix

theorem TypeReads.root (ih : PathReads us) : TypeReads (.pathSep :: us) := by
  intro n hn
  rw [parse, typeWithin]
  have hpath := (ih n (Nat.le_of_lt hn)).mono (List.suffix_cons .pathSep us)
  exact hpath.rebound fun a => ⟨_, rfl⟩

/-! Paths, their segments and the arguments of a segment. -/

theorem PathReads.of_segment (ihs : SegmentReads ts)
    (ihp : ∀ us : List Token, us.length < ts.length → ∀ vs : List Token, vs.length < us.length →
      PathReads vs) : PathReads ts := by
  intro n hn
  rw [parsePath, pathWithin]
  refine (ihs n hn).bind fun ⟨name, args⟩ ⟨us, hus⟩ _ => ?_
  dsimp only
  cases haccept : accept? .pathSep us with
  | none => exact .ofExcept_bind fun t _ => .pure _ List.suffix_rfl
  | some vs =>
    have hvs := vs.2
    obtain ⟨n, rfl⟩ := Nat.exists_eq_succ_of_ne_zero (n := n) (by omega)
    have hpath := (ihp us hus vs.1 hvs n (by omega)).mono (later_of_accept? haccept).suffix
    exact hpath.rebound fun a => ⟨_, rfl⟩

theorem SegmentReads.of_arguments {name : String}
    (ih : ∀ vs, accept? .less us = some vs → ArgumentsRead vs.1) :
    SegmentReads (.ident name :: us) := by
  intro n hn
  rw [parseSegment, segmentWithin]
  split
  · exact .error _
  cases haccept : accept? .less us with
  | none => exact .pure_round _ (later_cons _ _) (later_cons _ _)
  | some vs =>
    have hvs := (later_of_accept? haccept).trans_suffix (List.suffix_cons (.ident name) us)
    -- The round ends behind the closing bracket, later than all that the arguments tell.
    rw [Run.round, Run.bind_assoc]
    refine (ih vs haccept n _ hvs hn).bind fun args r hr => ?_
    dsimp only
    rw [Run.bind_assoc]
    refine .ofExcept_bind fun rest hrest => ?_
    have hlater := later_of_expect hrest
    exact .pure_round _ hlater (hlater.trans_suffix hr)

theorem ArgumentsRead.of_type (iht : TypeReads ts)
    (iha : ∀ us : List Token, us.length < ts.length → ∀ vs : List Token, vs.length < us.length →
      ArgumentsRead vs) : ArgumentsRead ts := by
  intro n ws hws hn
  rw [parseArguments, argumentsWithin]
  refine (iht.inner_round hws hn).bind fun arg ⟨us, hus⟩ _ => ?_
  dsimp only
  cases haccept : accept? .comma us with
  | none => exact .pure _ List.suffix_rfl
  | some vs =>
    have hvs := later_of_accept? haccept
    have hlt := hws.length_lt
    obtain ⟨n, rfl⟩ := Nat.exists_eq_succ_of_ne_zero (n := n) (by omega)
    refine (iha us hus vs.1 vs.2 n us hvs (by omega)).bind fun args r _ => ?_
    exact .pure _ List.suffix_rfl

/-- Each way to read a type is as its parts are, and its parts are further on in the tokens. -/
theorem typeReads (ts : List Token) : TypeReads ts := by
  refine parse.induct TypeReads PathReads SegmentReads ArgumentsRead
    ?slice ?str ?reference ?pointer ?pointerMut ?star ?array ?unit ?tuple ?root ?path ?segments
    ?nothing ?reserved ?generic ?plain ?notAName ?arguments ts
  case slice => exact fun us _ mutable vs hamp _ ih => .slice hamp ih
  case str => exact fun us _ vs hamp => .str hamp
  case reference =>
    exact fun us _ mutable vs hslice hstr hamp _ ih => .reference hamp hslice hstr ih
  case pointer =>
    intro us ih n hn
    rw [parse, typeWithin]
    exact (ih.inner (later_cons_cons _ _ _) hn).bind fun target r _ => .pure _ List.suffix_rfl
  case pointerMut =>
    intro us ih n hn
    rw [parse, typeWithin]
    exact (ih.inner (later_cons_cons _ _ _) hn).bind fun target r _ => .pure _ List.suffix_rfl
  case star =>
    intro us hconst hmut n _
    rw [parse, typeWithin]
    · exact .error _
    all_goals assumption
  case array => exact fun us ih => .array ih
  case unit =>
    intro us n _
    rw [parse, typeWithin]
    exact .pure _ (later_cons_cons _ _ _).suffix
  case tuple =>
    intro us hunit n _
    rw [parse, typeWithin]
    · exact .error _
    all_goals assumption
  case root => exact fun us ih => .root ih
  case path =>
    -- The eight hypotheses say that none of the other forms is at the front of the tokens.
    intro ts _ _ _ _ _ _ _ _ ih n hn
    rw [parse, typeWithin]
    · exact ih n hn
    all_goals assumption
  case segments => exact fun ts ihs ihp => .of_segment ihs ihp
  case nothing =>
    intro n _
    rw [parseSegment, segmentWithin]
    exact .error _
  case reserved =>
    intro name us hname n _
    rw [parseSegment, segmentWithin, if_pos hname, if_pos hname]
    exact .error _
  case generic =>
    intro name us _ vs hvs haccept ih
    refine .of_arguments fun ws hws => ?_
    obtain rfl := Option.some.inj (haccept.symm.trans hws)
    exact ih
  case plain =>
    intro name us _ haccept
    refine .of_arguments fun ws hws => ?_
    cases haccept.symm.trans hws
  case notAName =>
    intro t us hident n _
    rw [parseSegment, segmentWithin]
    · exact .error _
    all_goals assumption
  case arguments => exact fun ts iht iha => .of_type iht iha

/-! ### Places and depths -/

theorem depths_le_iff {es : List Event} {k : Nat} :
    Event.depths es ≤ k ↔ ∀ e ∈ es, e.depth ≤ k := by
  induction es with
  | nil => simp [Event.depths]
  | cons e es ih => rw [Event.depths, Nat.max_le, ih, List.forall_mem_cons]

theorem Event.Forward.depth_le {e : Event} (h : e.Forward) : e.depth ≤ e.place.length + 1 := by
  induction h with
  | round => exact Nat.zero_le _
  | @type start inside later _ _ ih =>
    have hinside : ∀ e ∈ inside, e.depth ≤ start.length := by
      intro e he
      have hlt := (later e he).length_lt
      have hdepth := ih e he
      omega
    exact Nat.succ_le_succ (depths_le_iff.2 hinside)

theorem exists_of_later_drop {p : Nat} (h : Later us (ts.drop p)) :
    ∃ q, p < q ∧ q ≤ ts.length ∧ us = ts.drop q := by
  have hlt := h.length_lt
  rw [List.length_drop] at hlt
  have hsuffix := h.suffix.trans (List.drop_suffix p ts)
  exact ⟨ts.length - us.length, by omega, Nat.sub_le _ _, List.suffix_iff_eq_drop.1 hsuffix⟩

/--
From any place in any tokens a type is read to a fault or to a later place. A bound that allows for
the tokens ahead is not exhausted. What is read inside a type is later than the type, each round of
a loop ends later than it starts, and types are nested at most one deeper than there are tokens.
-/
theorem parse_moves_on (ts : List Token) (p n : Nat) (hn : ts.length - p ≤ n) :
    ((∃ fault, parse (ts.drop p) = .error fault) ∨
      ∃ t q hq, parse (ts.drop p) = .ok (t, ⟨ts.drop q, hq⟩) ∧ p < q ∧ q ≤ ts.length) ∧
    (typeWithin n (ts.drop p)).outcome = some ((parse (ts.drop p)).map fun a => (a.1, a.2.1)) ∧
    (Event.type (ts.drop p) (typeWithin n (ts.drop p)).events).Forward ∧
    (Event.type (ts.drop p) (typeWithin n (ts.drop p)).events).depth ≤ ts.length - p + 1 := by
  have hreads := typeReads (ts.drop p) n (by rwa [List.length_drop])
  refine ⟨?_, hreads.outcome, hreads.forward, ?_⟩
  · cases hparse : parse (ts.drop p) with
    | error fault => exact .inl ⟨fault, rfl⟩
    | ok a =>
      obtain ⟨t, us, hus⟩ := a
      obtain ⟨q, hpq, hq, rfl⟩ := exists_of_later_drop ((typeReads _).rest_later hparse)
      exact .inr ⟨t, q, hus, rfl, hpq, hq⟩
  · have hdepth := hreads.forward.depth_le
    rwa [Event.place, List.length_drop] at hdepth

theorem parse_moves_on_vec :
    [Token.amp, .ident "Vec", .less, .ident "u8", .greater, .semicolon].length - 1 ≤ 5 ∧
      (∃ t q hq, parse [.ident "Vec", .less, .ident "u8", .greater, .semicolon] =
        .ok (t, ⟨[Token.amp, .ident "Vec", .less, .ident "u8", .greater, .semicolon].drop q, hq⟩) ∧
          1 < q ∧ q ≤ 6) ∧
      ∃ x, typeWithin 5 [.ident "Vec", .less, .ident "u8", .greater, .semicolon] = x ∧
        x.outcome = some (.ok (.wrapped .vec (.builtin .u8), [.semicolon])) ∧
        x.events =
          [.type [.ident "u8", .greater, .semicolon]
              [.round [.ident "u8", .greater, .semicolon] [.greater, .semicolon]],
            .round [.ident "u8", .greater, .semicolon] [.greater, .semicolon],
            .round [.ident "Vec", .less, .ident "u8", .greater, .semicolon] [.semicolon]] ∧
        (Event.type [.ident "Vec", .less, .ident "u8", .greater, .semicolon] x.events).Forward ∧
        (Event.type [.ident "Vec", .less, .ident "u8", .greater, .semicolon] x.events).depth ≤
          6 := by
  have hread : (typeWithin 5 [.ident "Vec", .less, .ident "u8", .greater, .semicolon]).outcome =
      some (.ok (.wrapped .vec (.builtin .u8), [.semicolon])) := by cbv
  obtain ⟨hend, hsame, hforward, hdepth⟩ :=
    parse_moves_on [.amp, .ident "Vec", .less, .ident "u8", .greater, .semicolon] 1 5 (by decide)
  refine ⟨by decide, hend.resolve_left ?_, _, rfl, hread, by cbv, hforward, hdepth⟩
  rintro ⟨fault, hfault⟩
  rw [hfault] at hsame
  cases hread.symm.trans hsame

example : (typeWithin 1 [.amp, .amp]).outcome = none := by cbv

example : (typeWithin 2 [.amp, .amp]).outcome = some (.error .unexpectedEnd) := by cbv

end SignalBinding.TypeExpr
