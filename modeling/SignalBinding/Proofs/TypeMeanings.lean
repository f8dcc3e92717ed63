import Mathlib.Data.List.Forall2
import SignalBinding.Proofs.TypeNames
import SignalBinding.Proofs.TypeTrees

/-!
# The meaning of a tree

What a written type means, read off its tree: a path means what its last segment means, and
lifetimes mean nothing. The texts that have a C++ type are those of the proper trees that have a
meaning.

## Main definitions

- `Written.meaning?`: the type that a tree means, if it means one
- `Resolves`: what a name means with generic arguments
- `Compositional`: what follows the way that meanings are put together
- `words`: what gets from a type into C++ as it is written

## Main statements

- `Compositional.of_meaning?`: a compositional relation holds of each tree and its meaning
- `spell_eq_ok_iff_writes`: the C++ type of a text is that of the meaning of its tree
-/

namespace SignalBinding.TypeExpr

mutual

/-- The type that is written; none if a name in it is used as it may not be. -/
def Written.meaning? : Written → Option TypeExpr
  | .unit => some .unit
  | .str _ => some .str
  | .slice _ m elem => elem.meaning?.map (.slice m)
  | .reference _ m target => target.meaning?.map (.reference m)
  | .pointer m target => target.meaning?.map (.pointer m)
  | .array elem length => elem.meaning?.map (.array · length)
  | .path _ segments => segments.meaning?

/-- What the last segment means; what stands in the others has to mean something as well. -/
def Segments.meaning? : Segments → Option TypeExpr
  | .last name args => (meanings? args).bind fun ts => (resolve name ts).toOption
  | .next _ args rest => (meanings? args).bind fun _ => rest.meaning?

def meanings? : List Written → Option (List TypeExpr)
  | [] => some []
  | a :: as => a.meaning?.bind fun t => (meanings? as).map (t :: ·)

end

variable {table : NameTable} {ts : List Token} {c : String}

theorem resolve_toOption {name : String} {args : List TypeExpr} {t : TypeExpr} :
    (resolve name args).toOption = some t ↔ resolve name args = .ok t := by
  cases resolve name args <;> simp [Except.toOption]

theorem meanings?_cons {a : Written} {as : List Written} {us : List TypeExpr} :
    meanings? (a :: as) = some us ↔
      ∃ t ts, a.meaning? = some t ∧ meanings? as = some ts ∧ us = t :: ts := by
  simp only [meanings?, Option.bind_eq_some_iff, Option.map_eq_some_iff]
  grind

/-! ### How meanings are put together -/

/-- The types that a name means with the types that are its arguments. -/
inductive Resolves : String → List TypeExpr → TypeExpr → Prop
  | pinned (t : TypeExpr) : Resolves "Pin" [t] t
  | wrapper {name : String} {w : Wrapper} (arg : TypeExpr) (hw : Wrapper.ofIdent? name = some w) :
      Resolves name [arg] (.wrapped w arg)
  | builtin {name : String} {b : Builtin} (hb : Builtin.ofIdent? name = some b) :
      Resolves name [] (.builtin b)
  | user {name : String} (h : IsUserName name) : Resolves name [] (.named name)

theorem resolves_of_resolve {name : String} {args : List TypeExpr} {t : TypeExpr}
    (h : resolve name args = .ok t) : Resolves name args t := by
  unfold resolve at h
  split at h
  next hpin =>
    subst hpin
    split at h <;> cases h
    exact .pinned _
  next hpin =>
    split at h
    next w hw =>
      split at h <;> cases h
      exact .wrapper _ hw
    next hw =>
      split at h
      · cases h
      · split at h
        · cases h
        next hstr =>
          split at h <;> cases h
          next b hb => exact .builtin hb
          next hb => exact .user ⟨hpin, hstr, hw, hb⟩

/-- The segment that a path means something by: its name and its arguments. -/
def Segments.final : Segments → String × List Written
  | .last name args => (name, args)
  | .next _ _ rest => rest.final

/--
The relation between trees and types goes from the parts of a tree to the tree, on the way that its
meaning is put together. A path is related to what its last segment means.
-/
structure Compositional (P : Written → TypeExpr → Prop) : Prop where
  unit : P .unit .unit
  str (l : Option String) : P (.str l) .str
  slice {w : Written} {t : TypeExpr} (l : Option String) (m : Bool) (hw : w.meaning? = some t)
    (ih : P w t) : P (.slice l m w) (.slice m t)
  reference {w : Written} {t : TypeExpr} (l : Option String) (m : Bool)
    (hw : w.meaning? = some t) (ih : P w t) : P (.reference l m w) (.reference m t)
  pointer {w : Written} {t : TypeExpr} (m : Bool) (hw : w.meaning? = some t) (ih : P w t) :
    P (.pointer m w) (.pointer m t)
  array {w : Written} {t : TypeExpr} (length : String) (hw : w.meaning? = some t) (ih : P w t) :
    P (.array w length) (.array t length)
  path {p : Segments} {name : String} {as : List Written} {args : List TypeExpr} {t : TypeExpr}
    (root : Bool) (hp : p.final = (name, as)) (ih : List.Forall₂ P as args)
    (h : Resolves name args t) : P (.path root p) t

section

variable {P : Written → TypeExpr → Prop}

mutual

theorem Compositional.of_meaning? {w : Written} {t : TypeExpr} (hP : Compositional P)
    (h : w.meaning? = some t) : P w t := by
  cases w with
  | unit =>
    obtain rfl : TypeExpr.unit = t := by simpa [Written.meaning?] using h
    exact hP.unit
  | str l =>
    obtain rfl : TypeExpr.str = t := by simpa [Written.meaning?] using h
    exact hP.str l
  | slice l m elem =>
    obtain ⟨u, hu, rfl⟩ := Option.map_eq_some_iff.1 h
    exact hP.slice l m hu (hP.of_meaning? hu)
  | reference l m target =>
    obtain ⟨u, hu, rfl⟩ := Option.map_eq_some_iff.1 h
    exact hP.reference l m hu (hP.of_meaning? hu)
  | pointer m target =>
    obtain ⟨u, hu, rfl⟩ := Option.map_eq_some_iff.1 h
    exact hP.pointer m hu (hP.of_meaning? hu)
  | array elem length =>
    obtain ⟨u, hu, rfl⟩ := Option.map_eq_some_iff.1 h
    exact hP.array length hu (hP.of_meaning? hu)
  | path root p =>
    obtain ⟨args, hargs, hresolves⟩ := hP.exists_forall₂ h
    exact hP.path root rfl hargs hresolves

theorem Compositional.exists_forall₂ {p : Segments} {t : TypeExpr} (hP : Compositional P)
    (h : p.meaning? = some t) :
    ∃ args, List.Forall₂ P p.final.2 args ∧ Resolves p.final.1 args t := by
  cases p with
  | last name args =>
    obtain ⟨ts, hts, hresolve⟩ := Option.bind_eq_some_iff.1 h
    exact ⟨ts, hP.forall₂ hts, resolves_of_resolve (resolve_toOption.1 hresolve)⟩
  | next name args rest =>
    obtain ⟨-, -, hrest⟩ := Option.bind_eq_some_iff.1 h
    have ih := hP.exists_forall₂ hrest
    exact ih

theorem Compositional.forall₂ {as : List Written} {ts : List TypeExpr} (hP : Compositional P)
    (h : meanings? as = some ts) : List.Forall₂ P as ts := by
  cases as with
  | nil =>
    obtain rfl : [] = ts := by simpa [meanings?] using h
    exact .nil
  | cons a as =>
    obtain ⟨u, us, hu, hus, rfl⟩ := meanings?_cons.1 h
    exact .cons (hP.of_meaning? hu) (hP.forall₂ hus)

end

end

/-! ### Words -/

/-- What is written in a type and gets into C++ as it is: names of the user's types, and lengths. -/
def words : TypeExpr → List Token
  | unit => []
  | str => []
  | builtin _ => []
  | named ident => [.ident ident]
  | wrapped _ arg => arg.words
  | slice _ elem => elem.words
  | reference _ target => target.words
  | pointer _ target => target.words
  | array elem length => .number length :: elem.words

theorem Segments.final_subset (p : Segments) :
    .ident p.final.1 :: argTokens p.final.2 ⊆ p.tokens := by
  cases p with
  | last name args => exact List.Subset.refl _
  | next name args rest =>
    have ih := rest.final_subset
    exact List.Subset.trans ih fun u hu => by simp [Segments.tokens, hu]

/-- The words of what a tree means are words of the tree. -/
theorem compositional_words : Compositional fun w t => t.words ⊆ w.tokens where
  unit := List.nil_subset _
  str _ := List.nil_subset _
  slice l m _ ih u hu := by simp [Written.tokens, ih hu]
  reference l m _ ih u hu := by simp [Written.tokens, ih hu]
  pointer m _ ih u hu := by simp [Written.tokens, ih hu]
  array length _ ih u hu := by
    rcases List.mem_cons.1 hu with rfl | hu
    · simp [Written.tokens]
    · simp [Written.tokens, ih hu]
  path {p name as args t} root hp ih h u hu := by
    have hfinal : .ident name :: argTokens as ⊆ (Written.path root p).tokens := by
      have hpath := p.final_subset
      rw [hp] at hpath
      exact List.Subset.trans hpath (List.subset_append_right _ _)
    refine hfinal ?_
    cases h with
    | pinned _ =>
      obtain ⟨a, _, ha, -, rfl⟩ := List.forall₂_cons_right_iff.1 ih
      simp [argTokens, ha hu]
    | wrapper _ _ =>
      obtain ⟨a, _, ha, -, rfl⟩ := List.forall₂_cons_right_iff.1 ih
      simp [argTokens, ha hu]
    | builtin _ => cases hu
    | user _ =>
      obtain rfl := List.mem_singleton.1 hu
      simp

/-- The names among them have no meaning of their own. -/
theorem compositional_isUserName :
    Compositional fun _ t => ∀ i, .ident i ∈ t.words → IsUserName i where
  unit := nofun
  str _ := nofun
  slice _ _ _ ih := ih
  reference _ _ _ ih := ih
  pointer _ _ ih := ih
  array _ _ ih i hi := ih i (by simpa [words] using hi)
  path root _ ih h i hi := by
    cases h with
    | pinned _ =>
      obtain ⟨_, _, ha, -, -⟩ := List.forall₂_cons_right_iff.1 ih
      exact ha i hi
    | wrapper _ _ =>
      obtain ⟨_, _, ha, -, -⟩ := List.forall₂_cons_right_iff.1 ih
      exact ha i hi
    | builtin _ => cases hi
    | user hname =>
      obtain rfl := Token.ident.inj (List.mem_singleton.1 hi)
      exact hname

/-! ### From trees to derivations -/

mutual

/-- What a proper tree means is what the grammar derives for its tokens. -/
theorem Written.Proper.derives {w : Written} {t : TypeExpr} (hw : w.Proper)
    (h : w.meaning? = some t) : Derives table w.tokens (t.cpp table) := by
  cases w with
  | unit =>
    obtain rfl : TypeExpr.unit = t := by simpa [Written.meaning?] using h
    exact .unit
  | str l =>
    obtain rfl : TypeExpr.str = t := by simpa [Written.meaning?] using h
    exact .str l
  | slice l m elem =>
    have helem : elem.Proper := hw
    obtain ⟨u, hu, rfl⟩ := Option.map_eq_some_iff.1 h
    have hd := helem.derives hu
    cases m with
    | false => exact .slice l hd
    | true => exact .sliceMut l hd
  | reference l m target =>
    obtain ⟨u, hu, rfl⟩ := Option.map_eq_some_iff.1 h
    have hd := hw.1.derives hu
    obtain ⟨us, hus⟩ := target.exists_tokens
    have hslice : target.tokens.head? ≠ some .lbracket := by simpa [hus] using hw.2.1
    cases m with
    | false =>
      have hstr : target.tokens.head? ≠ some (.ident "str") := by simpa [hus] using hw.2.2 rfl
      exact .reference l hd hslice hstr
    | true => exact .referenceMut l hd hslice
  | pointer m target =>
    have htarget : target.Proper := hw
    obtain ⟨u, hu, rfl⟩ := Option.map_eq_some_iff.1 h
    have hd := htarget.derives hu
    cases m with
    | false => exact .pointer hd
    | true => exact .pointerMut hd
  | array elem length =>
    have helem : elem.Proper := hw
    obtain ⟨u, hu, rfl⟩ := Option.map_eq_some_iff.1 h
    exact .array (helem.derives hu) length
  | path root p =>
    have hp : p.Proper := hw
    obtain ⟨outer, last, htokens, hvalid, hlast⟩ := hp.derives h
    have hpath := Derives.path root outer last (fun s hs => (hvalid s hs).name)
      (fun s hs => (hvalid s hs).args) hlast
    simpa [Written.tokens, htokens] using hpath

theorem Segments.Proper.derives {p : Segments} {t : TypeExpr} (hp : p.Proper)
    (h : p.meaning? = some t) :
    ∃ outer last, p.tokens = Segment.joined outer ++ last.tokens ∧
      (∀ s ∈ outer ++ [last], s.Valid table) ∧
      Names table last.name (last.args.map Prod.snd) (t.cpp table) := by
  cases p with
  | last name args =>
    obtain ⟨ts, hts, hresolve⟩ := Option.bind_eq_some_iff.1 h
    obtain ⟨as, htokens, hd, hcpp⟩ := hp.2.derives_args hts
    refine ⟨[], ⟨name, as⟩, by simp [Segment.joined, Segments.tokens, Segment.tokens, htokens],
      by simpa using ⟨hp.1, hd⟩, ?_⟩
    simpa [hcpp] using names_of_resolve (resolve_toOption.1 hresolve)
  | next name args more =>
    obtain ⟨ts, hts, hmore⟩ := Option.bind_eq_some_iff.1 h
    obtain ⟨as, htokens, hd, hcpp⟩ := hp.2.1.derives_args hts
    obtain ⟨outer, last, htokens', hvalid, hlast⟩ := hp.2.2.derives hmore
    refine ⟨⟨name, as⟩ :: outer, last, ?_, ?_, hlast⟩
    · simp [Segment.joined, Segments.tokens, Segment.tokens, htokens, htokens']
    · exact List.forall_mem_cons.2 ⟨⟨hp.1, hd⟩, hvalid⟩

theorem AllProper.derives_args {as : List Written} {ts : List TypeExpr} (has : AllProper as)
    (h : meanings? as = some ts) :
    ∃ args, argTokens as = Segment.argTokens args ∧ (∀ a ∈ args, Derives table a.1 a.2) ∧
      args.map Prod.snd = ts.map (cpp table) := by
  cases as with
  | nil =>
    obtain rfl : [] = ts := by simpa [meanings?] using h
    exact ⟨[], rfl, by simp, rfl⟩
  | cons a as =>
    obtain ⟨t, ts, ht, hts, rfl⟩ := meanings?_cons.1 h
    have hd := has.1.derives ht
    obtain ⟨args, htokens, hds, hcpp⟩ := has.2.derives_more hts
    refine ⟨(a.tokens, t.cpp table) :: args, ?_, List.forall_mem_cons.2 ⟨hd, hds⟩, by simp [hcpp]⟩
    simp [argTokens, Segment.argTokens, htokens]

theorem AllProper.derives_more {as : List Written} {ts : List TypeExpr} (has : AllProper as)
    (h : meanings? as = some ts) :
    ∃ args : List (List Token × String),
      moreTokens as = args.flatMap (fun b => .comma :: b.1) ++ [.greater] ∧
      (∀ a ∈ args, Derives table a.1 a.2) ∧ args.map Prod.snd = ts.map (cpp table) := by
  cases as with
  | nil =>
    obtain rfl : [] = ts := by simpa [meanings?] using h
    exact ⟨[], rfl, by simp, rfl⟩
  | cons a as =>
    obtain ⟨t, ts, ht, hts, rfl⟩ := meanings?_cons.1 h
    have hd := has.1.derives ht
    obtain ⟨args, htokens, hds, hcpp⟩ := has.2.derives_more hts
    refine ⟨(a.tokens, t.cpp table) :: args, ?_, List.forall_mem_cons.2 ⟨hd, hds⟩, by simp [hcpp]⟩
    simp [moreTokens, htokens]

end

/-! ### From derivations to trees -/

/-- The tree is proper, is written with the tokens, and means a type whose C++ text is `c`. -/
structure Written.Bears (table : NameTable) (w : Written) (ts : List Token) (c : String) :
    Prop where
  proper : w.Proper
  tokens : w.tokens = ts
  means : ∃ t, w.meaning? = some t ∧ t.cpp table = c

/-- Trees for the arguments of a segment of the grammar. -/
theorem exists_trees {args : List (List Token × String)}
    (h : ∀ a ∈ args, ∃ w : Written, w.Bears table a.1 a.2) :
    ∃ as ts, AllProper as ∧ argTokens as = Segment.argTokens args ∧
      moreTokens as = args.flatMap (fun b => .comma :: b.1) ++ [.greater] ∧
      meanings? as = some ts ∧ ts.map (cpp table) = args.map Prod.snd := by
  induction args with
  | nil => exact ⟨[], [], trivial, rfl, rfl, rfl, rfl⟩
  | cons a args ih =>
    obtain ⟨w, hproper, htokens, t, ht, hcpp⟩ := h a (by simp)
    obtain ⟨as, ts, has, -, hmore, hts, hcpps⟩ := ih fun b hb => h b (List.mem_cons_of_mem _ hb)
    refine ⟨w :: as, t :: ts, ⟨hproper, has⟩, ?_, ?_, ?_, ?_⟩
    · simp [argTokens, Segment.argTokens, htokens, hmore]
    · simp [moreTokens, htokens, hmore]
    · exact meanings?_cons.2 ⟨t, ts, ht, hts, rfl⟩
    · simp [hcpp, hcpps]

/-- A tree for a path of the grammar. -/
theorem exists_segments {outer : List Segment} {last : Segment}
    (hname : ∀ s ∈ outer ++ [last], isReserved s.name = false)
    (hargs : ∀ s ∈ outer ++ [last], ∀ a ∈ s.args, ∃ w : Written, w.Bears table a.1 a.2)
    (hlast : Names table last.name (last.args.map Prod.snd) c) :
    ∃ p : Segments, p.Proper ∧ p.tokens = Segment.joined outer ++ last.tokens ∧
      ∃ t, p.meaning? = some t ∧ t.cpp table = c := by
  induction outer with
  | nil =>
    obtain ⟨as, ts, has, htokens, -, hts, hcpps⟩ := exists_trees (hargs last (by simp))
    obtain ⟨t, ht, hcpp⟩ := resolve_of_names (hcpps ▸ hlast)
    refine ⟨.last last.name as, ⟨hname last (by simp), has⟩, ?_, t, ?_, hcpp⟩
    · simp [Segments.tokens, Segment.joined, Segment.tokens, htokens]
    · exact Option.bind_eq_some_iff.2 ⟨ts, hts, resolve_toOption.2 ht⟩
  | cons s outer ih =>
    obtain ⟨as, ts, has, htokens, -, hts, -⟩ := exists_trees (hargs s (by simp))
    obtain ⟨p, hp, hmore, t, ht, hcpp⟩ := ih (fun u hu => hname u (by simp [hu]))
      (fun u hu => hargs u (by simp [hu]))
    refine ⟨.next s.name as p, ⟨hname s (by simp), has, hp⟩, ?_, t, ?_, hcpp⟩
    · simp [Segments.tokens, Segment.joined, Segment.tokens, htokens, hmore]
    · exact Option.bind_eq_some_iff.2 ⟨ts, hts, ht⟩

/-- What the grammar derives is written as a proper tree, which means just that. -/
theorem Derives.exists_tree (h : Derives table ts c) : ∃ w : Written, w.Bears table ts c := by
  induction h with
  | unit => exact ⟨.unit, trivial, rfl, .unit, rfl, rfl⟩
  | str l => exact ⟨.str l, trivial, rfl, .str, rfl, rfl⟩
  | slice l _ ih =>
    obtain ⟨w, hw, rfl, t, ht, rfl⟩ := ih
    exact ⟨.slice l false w, hw, rfl, .slice false t, by simp [Written.meaning?, ht], rfl⟩
  | sliceMut l _ ih =>
    obtain ⟨w, hw, rfl, t, ht, rfl⟩ := ih
    exact ⟨.slice l true w, hw, rfl, .slice true t, by simp [Written.meaning?, ht], rfl⟩
  | reference l _ hslice hstr ih =>
    obtain ⟨w, hw, rfl, t, ht, rfl⟩ := ih
    obtain ⟨us, hus⟩ := w.exists_tokens
    have hproper : (Written.reference l false w).Proper :=
      ⟨hw, by simpa [hus] using hslice, fun _ => by simpa [hus] using hstr⟩
    exact ⟨_, hproper, rfl, .reference false t, by simp [Written.meaning?, ht], rfl⟩
  | referenceMut l _ hslice ih =>
    obtain ⟨w, hw, rfl, t, ht, rfl⟩ := ih
    obtain ⟨us, hus⟩ := w.exists_tokens
    have hproper : (Written.reference l true w).Proper :=
      ⟨hw, by simpa [hus] using hslice, nofun⟩
    exact ⟨_, hproper, rfl, .reference true t, by simp [Written.meaning?, ht], rfl⟩
  | pointer _ ih =>
    obtain ⟨w, hw, rfl, t, ht, rfl⟩ := ih
    exact ⟨.pointer false w, hw, rfl, .pointer false t, by simp [Written.meaning?, ht], rfl⟩
  | pointerMut _ ih =>
    obtain ⟨w, hw, rfl, t, ht, rfl⟩ := ih
    exact ⟨.pointer true w, hw, rfl, .pointer true t, by simp [Written.meaning?, ht], rfl⟩
  | array _ digits ih =>
    obtain ⟨w, hw, rfl, t, ht, rfl⟩ := ih
    exact ⟨.array w digits, hw, rfl, .array t digits, by simp [Written.meaning?, ht], rfl⟩
  | path root outer last hname _ hlast ih =>
    obtain ⟨p, hp, htokens, t, ht, hcpp⟩ := exists_segments hname ih hlast
    exact ⟨.path root p, hp, by simp [Written.tokens, htokens], t, ht, hcpp⟩

/-! ### Texts -/

/-- A text has a C++ type if and only if it has a tree with a meaning. -/
theorem spell_eq_ok_iff_writes {s : String} :
    spell table s = .ok c ↔
      ∃ w t, Written.Writes w s ∧ w.meaning? = some t ∧ t.cpp table = c := by
  rw [spell_eq_ok_iff]
  constructor
  · rintro ⟨ts, hts, hd⟩
    obtain ⟨w, hw, rfl, t, ht, hcpp⟩ := hd.exists_tree
    exact ⟨w, t, ⟨hw, hts⟩, ht, hcpp⟩
  · rintro ⟨w, t, hw, ht, rfl⟩
    exact ⟨w.tokens, hw.tokens, hw.proper.derives ht⟩

theorem Written.Writes.spell_eq_ok_iff {w : Written} {s : String} (hw : w.Writes s) :
    spell table s = .ok c ↔ ∃ t, w.meaning? = some t ∧ t.cpp table = c := by
  rw [spell_eq_ok_iff_writes]
  constructor
  · rintro ⟨v, t, hv, ht, hcpp⟩
    obtain rfl := eq_of_writes hv hw
    exact ⟨t, ht, hcpp⟩
  · rintro ⟨t, ht, hcpp⟩
    exact ⟨w, t, hw, ht, hcpp⟩

end SignalBinding.TypeExpr
