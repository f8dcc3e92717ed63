import SignalBinding.Proofs.TypeCompleteness

/-!
# Types as they are written

The tree of a type keeps all that is written in it, down to the lifetimes and to the segments of a
path that mean nothing. A token list is written by at most one tree, which makes it possible to
speak of what stands where in a type.

## Main definitions

- `Written`, `Segments`: the tree of a type and that of a path
- `Written.tokens`: the tokens that a tree is written with
- `Written.Proper`: trees that the readers build, as far as their shape goes
- `Written.Writes`: a tree of a text

## Main statement

- `Written.eq_of_writes`: a text has at most one tree
-/

namespace SignalBinding.TypeExpr

mutual

/-- A type as it is written, but for the blanks. -/
inductive Written
  | unit
  | str (lifetime? : Option String)
  | slice (lifetime? : Option String) (mutable : Bool) (elem : Written)
  | reference (lifetime? : Option String) (mutable : Bool) (target : Written)
  | pointer (mutable : Bool) (target : Written)
  | array (elem : Written) (length : String)
  /-- A path, from the root or not. -/
  | path (root : Bool) (segments : Segments)

/-- The segments of a path: names with the generic arguments between their angle brackets. -/
inductive Segments
  | last (name : String) (args : List Written)
  | next (name : String) (args : List Written) (rest : Segments)

end

/-! ### Tokens -/

/-- The word for a mutable target; there is none for others. -/
def mutWord (mutable : Bool) : List Token :=
  if mutable then [.ident "mut"] else []

mutual

def Written.tokens : Written → List Token
  | .unit => [.lparen, .rparen]
  | .str l => ampersand l ++ [.ident "str"]
  | .slice l m elem => ampersand l ++ (mutWord m ++ .lbracket :: (elem.tokens ++ [.rbracket]))
  | .reference l m target => ampersand l ++ (mutWord m ++ target.tokens)
  | .pointer m target => .star :: .ident (if m then "mut" else "const") :: target.tokens
  | .array elem length =>
    .lbracket :: (elem.tokens ++ [.semicolon, .number length, .rbracket])
  | .path root segments => (if root then [.pathSep] else []) ++ segments.tokens

def Segments.tokens : Segments → List Token
  | .last name args => .ident name :: argTokens args
  | .next name args rest => .ident name :: (argTokens args ++ .pathSep :: rest.tokens)

/-- Arguments between angle brackets; nothing at all if there are none. -/
def argTokens : List Written → List Token
  | [] => []
  | a :: as => .less :: (a.tokens ++ moreTokens as)

/-- Further arguments, and the closing bracket. -/
def moreTokens : List Written → List Token
  | [] => [.greater]
  | a :: as => .comma :: (a.tokens ++ moreTokens as)

end

def Segments.first : Segments → String
  | .last name _ => name
  | .next name _ _ => name

/-- The first token of a type. -/
def Written.opening : Written → Token
  | .unit => .lparen
  | .str _ => .amp
  | .slice _ _ _ => .amp
  | .reference _ _ _ => .amp
  | .pointer _ _ => .star
  | .array _ _ => .lbracket
  | .path true _ => .pathSep
  | .path false segments => .ident segments.first

theorem Segments.exists_tokens (p : Segments) : ∃ us, p.tokens = .ident p.first :: us := by
  cases p with
  | last name args => exact ⟨_, rfl⟩
  | next name args rest => exact ⟨_, rfl⟩

theorem Written.exists_tokens (w : Written) : ∃ us, w.tokens = w.opening :: us := by
  cases w with
  | path root p =>
    cases root with
    | true => exact ⟨_, rfl⟩
    | false => exact p.exists_tokens
  | _ => exact ⟨_, rfl⟩

/-! ### Proper trees -/

mutual

/--
Behind an ampersand a bracket opens a slice, and `str` that is not mutable is a type of its own, so
the target of a reference does not start with these. No name is a reserved word.
-/
def Written.Proper : Written → Prop
  | .unit => True
  | .str _ => True
  | .slice _ _ elem => elem.Proper
  | .reference _ m target =>
    target.Proper ∧ target.opening ≠ .lbracket ∧ (m = false → target.opening ≠ .ident "str")
  | .pointer _ target => target.Proper
  | .array elem _ => elem.Proper
  | .path _ segments => segments.Proper

def Segments.Proper : Segments → Prop
  | .last name args => isReserved name = false ∧ AllProper args
  | .next name args rest => isReserved name = false ∧ AllProper args ∧ rest.Proper

def AllProper : List Written → Prop
  | [] => True
  | a :: as => a.Proper ∧ AllProper as

end

theorem Segments.Proper.first {p : Segments} (hp : p.Proper) : isReserved p.first = false := by
  cases p with
  | last name args => exact hp.1
  | next name args rest => exact hp.1

theorem Written.Proper.opensType {w : Written} (hw : w.Proper) : w.opening.opensType = true := by
  cases w with
  | path root p =>
    cases root with
    | true => rfl
    | false =>
      have hfirst := Segments.Proper.first hw
      simp [opening, Token.opensType, hfirst]
  | _ => rfl

/-! ### One tree for each token list -/

section

variable {rest rest' us vs : List Token} {t t' : Token}

theorem ampersand_mut_inj {l l' : Option String} {m m' : Bool} (ht : t.opensType = true)
    (ht' : t'.opensType = true)
    (h : ampersand l ++ (mutWord m ++ t :: us) = ampersand l' ++ (mutWord m' ++ t' :: vs)) :
    l = l' ∧ m = m' ∧ t = t' ∧ us = vs := by
  -- Neither a lifetime nor `mut` may open a type, so each of the two is seen to be there or not.
  have hlifetime (name : String) : t ≠ .lifetime name ∧ t' ≠ .lifetime name := by
    constructor <;> (rintro rfl; contradiction)
  have hmut : t ≠ .ident "mut" ∧ t' ≠ .ident "mut" := by
    constructor <;> (rintro rfl; contradiction)
  cases l <;> cases l' <;> cases m <;> cases m' <;> simp [ampersand, mutWord] at h <;> grind

theorem closed_moreTokens {as : List Written} : Closed (moreTokens as ++ rest) := by
  cases as with
  | nil => exact .cons (by simp) (by simp)
  | cons a as => exact .cons (by simp) (by simp)

/-- The tree is settled by its tokens, whatever closed tokens follow. -/
def Written.Settled (w : Written) : Prop :=
  ∀ ⦃w' : Written⦄ ⦃rest rest' : List Token⦄, w'.Proper → Closed rest → Closed rest' →
    w.tokens ++ rest = w'.tokens ++ rest' → w = w' ∧ rest = rest'

theorem Written.opening_eq {w w' : Written} (h : w.tokens ++ rest = w'.tokens ++ rest') :
    w.opening = w'.opening := by
  obtain ⟨us, hus⟩ := w.exists_tokens
  obtain ⟨vs, hvs⟩ := w'.exists_tokens
  simp only [hus, hvs, List.cons_append, List.cons.injEq] at h
  exact h.1

namespace Written.Settled

theorem unit : Settled .unit := by
  intro w' rest rest' _ _ _ h
  cases w' with
  | unit => exact ⟨rfl, by simpa [Written.tokens] using h⟩
  | path root _ => cases root <;> cases opening_eq h
  | _ => cases opening_eq h

theorem str (l : Option String) : Settled (.str l) := by
  intro w' rest rest' hw' _ _ h
  have hstr : (Token.ident "str").opensType = true := rfl
  cases w' with
  | str l' =>
    have h : ampersand l ++ (mutWord false ++ .ident "str" :: rest) =
        ampersand l' ++ (mutWord false ++ .ident "str" :: rest') := by
      simpa [Written.tokens, mutWord] using h
    obtain ⟨rfl, -, -, hrests⟩ := ampersand_mut_inj hstr hstr h
    exact ⟨rfl, hrests⟩
  | slice l' m' elem' =>
    have h : ampersand l ++ (mutWord false ++ .ident "str" :: rest) =
        ampersand l' ++ (mutWord m' ++ .lbracket :: (elem'.tokens ++ .rbracket :: rest')) := by
      simpa [Written.tokens, mutWord] using h
    exact absurd (ampersand_mut_inj hstr rfl h).2.2.1 (by decide)
  | reference l' m' target' =>
    obtain ⟨us, hus⟩ := target'.exists_tokens
    have h : ampersand l ++ (mutWord false ++ .ident "str" :: rest) =
        ampersand l' ++ (mutWord m' ++ target'.opening :: (us ++ rest')) := by
      simpa [Written.tokens, mutWord, hus] using h
    obtain ⟨-, hm, htarget, -⟩ := ampersand_mut_inj hstr hw'.1.opensType h
    exact absurd htarget.symm (hw'.2.2 hm.symm)
  | path root _ => cases root <;> cases opening_eq h
  | _ => cases opening_eq h

theorem slice {l : Option String} {m : Bool} {elem : Written}
    (hw : (Written.slice l m elem).Proper) (ih : elem.Settled) : Settled (.slice l m elem) := by
  intro w' rest rest' hw' hrest hrest' h
  cases w' with
  | str l' => cases (Settled.str l' hw hrest' hrest h.symm).1
  | slice l' m' elem' =>
    have helem' : elem'.Proper := hw'
    have h : ampersand l ++ (mutWord m ++ .lbracket :: (elem.tokens ++ .rbracket :: rest)) =
        ampersand l' ++ (mutWord m' ++ .lbracket :: (elem'.tokens ++ .rbracket :: rest')) := by
      simpa [Written.tokens] using h
    obtain ⟨rfl, rfl, -, hbehind⟩ := ampersand_mut_inj rfl rfl h
    obtain ⟨rfl, hrests⟩ := ih helem' (.cons (by simp) (by simp)) (.cons (by simp) (by simp))
      hbehind
    exact ⟨rfl, (List.cons.inj hrests).2⟩
  | reference l' m' target' =>
    obtain ⟨us, hus⟩ := target'.exists_tokens
    have h : ampersand l ++ (mutWord m ++ .lbracket :: (elem.tokens ++ .rbracket :: rest)) =
        ampersand l' ++ (mutWord m' ++ target'.opening :: (us ++ rest')) := by
      simpa [Written.tokens, hus] using h
    exact absurd (ampersand_mut_inj rfl hw'.1.opensType h).2.2.1.symm hw'.2.1
  | path root _ => cases root <;> cases opening_eq h
  | _ => cases opening_eq h

theorem reference {l : Option String} {m : Bool} {target : Written}
    (hw : (Written.reference l m target).Proper) (ih : target.Settled) :
    Settled (.reference l m target) := by
  intro w' rest rest' hw' hrest hrest' h
  cases w' with
  | str l' => cases (Settled.str l' hw hrest' hrest h.symm).1
  | slice l' m' elem' =>
    obtain ⟨us, hus⟩ := target.exists_tokens
    have h : ampersand l ++ (mutWord m ++ target.opening :: (us ++ rest)) =
        ampersand l' ++ (mutWord m' ++ .lbracket :: (elem'.tokens ++ .rbracket :: rest')) := by
      simpa [Written.tokens, hus] using h
    exact absurd (ampersand_mut_inj hw.1.opensType rfl h).2.2.1 hw.2.1
  | reference l' m' target' =>
    obtain ⟨us, hus⟩ := target.exists_tokens
    obtain ⟨vs, hvs⟩ := target'.exists_tokens
    have h : ampersand l ++ (mutWord m ++ target.opening :: (us ++ rest)) =
        ampersand l' ++ (mutWord m' ++ target'.opening :: (vs ++ rest')) := by
      simpa [Written.tokens, hus, hvs] using h
    obtain ⟨rfl, rfl, htarget, hbehind⟩ := ampersand_mut_inj hw.1.opensType hw'.1.opensType h
    obtain ⟨rfl, hrests⟩ := ih hw'.1 hrest hrest' (by simp [hus, hvs, htarget, hbehind])
    exact ⟨rfl, hrests⟩
  | path root _ => cases root <;> cases opening_eq h
  | _ => cases opening_eq h

theorem pointer (m : Bool) {target : Written} (ih : target.Settled) :
    Settled (.pointer m target) := by
  intro w' rest rest' hw' hrest hrest' h
  cases w' with
  | pointer m' target' =>
    simp only [Written.tokens, List.cons_append, List.cons.injEq, true_and] at h
    obtain rfl : m = m' := by cases m <;> cases m' <;> simp_all
    have htarget' : target'.Proper := hw'
    obtain ⟨rfl, hrests⟩ := ih htarget' hrest hrest' h.2
    exact ⟨rfl, hrests⟩
  | path root _ => cases root <;> cases opening_eq h
  | _ => cases opening_eq h

theorem array {elem : Written} (length : String) (ih : elem.Settled) :
    Settled (.array elem length) := by
  intro w' rest rest' hw' _ _ h
  cases w' with
  | array elem' length' =>
    have helem' : elem'.Proper := hw'
    simp only [Written.tokens, List.cons_append, List.append_assoc, List.cons.injEq,
      true_and] at h
    obtain ⟨rfl, hrests⟩ := ih helem' (.cons (by simp) (by simp)) (.cons (by simp) (by simp)) h
    simp only [List.nil_append, List.cons.injEq, Token.number.injEq, true_and] at hrests
    exact ⟨by rw [hrests.1], hrests.2⟩
  | path root _ => cases root <;> cases opening_eq h
  | _ => cases opening_eq h

end Written.Settled

/-- The path is settled by its tokens, whatever closed tokens follow. -/
def Segments.Settled (p : Segments) : Prop :=
  ∀ ⦃p' : Segments⦄ ⦃rest rest' : List Token⦄, p'.Proper → Closed rest → Closed rest' →
    p.tokens ++ rest = p'.tokens ++ rest' → p = p' ∧ rest = rest'

theorem Written.Settled.path (root : Bool) {p : Segments} (ih : p.Settled) :
    Written.Settled (.path root p) := by
  intro w' rest rest' hw' hrest hrest' h
  cases w' with
  | path root' p' =>
    have hp' : p'.Proper := hw'
    have hopening := opening_eq h
    obtain rfl : root = root' := by cases root <;> cases root' <;> simp_all [Written.opening]
    obtain ⟨rfl, hrests⟩ := ih hp' hrest hrest' (by simpa [Written.tokens] using h)
    exact ⟨rfl, hrests⟩
  | _ => cases root <;> cases opening_eq h

/-- The arguments are settled by their tokens, whatever follows the closing bracket. -/
def MoreSettled (as : List Written) : Prop :=
  ∀ ⦃as' : List Written⦄ ⦃rest rest' : List Token⦄, AllProper as' →
    moreTokens as ++ rest = moreTokens as' ++ rest' → as = as' ∧ rest = rest'

theorem moreSettled_nil : MoreSettled [] := by
  intro as' rest rest' _ h
  cases as' with
  | nil => exact ⟨rfl, (List.cons.inj h).2⟩
  | cons a' as' => cases h

theorem MoreSettled.cons {a : Written} {as : List Written} (ha : a.Settled)
    (has : MoreSettled as) : MoreSettled (a :: as) := by
  intro as' rest rest' has' h
  cases as' with
  | nil => cases h
  | cons a' as' =>
    simp only [moreTokens, List.cons_append, List.append_assoc, List.cons.injEq, true_and] at h
    obtain ⟨rfl, hmore⟩ := ha has'.1 closed_moreTokens closed_moreTokens h
    obtain ⟨rfl, hrests⟩ := has has'.2 hmore
    exact ⟨rfl, hrests⟩

/-- Arguments and what follows them are told apart, as long as no bracket follows. -/
theorem MoreSettled.argTokens_inj {as as' : List Written} (has : MoreSettled as)
    (has' : AllProper as') (hrest : rest.head? ≠ some .less) (hrest' : rest'.head? ≠ some .less)
    (h : argTokens as ++ rest = argTokens as' ++ rest') : as = as' ∧ rest = rest' := by
  cases as with
  | nil =>
    cases as' with
    | nil => exact ⟨rfl, h⟩
    | cons a' as' => exact absurd (congrArg List.head? h) hrest
  | cons a as =>
    cases as' with
    | nil => exact absurd (congrArg List.head? h).symm hrest'
    | cons a' as' => exact has has' (by simpa [argTokens, moreTokens] using h)

theorem Segments.Settled.last (name : String) {args : List Written} (hargs : MoreSettled args) :
    Segments.Settled (.last name args) := by
  intro p' rest rest' hp' hrest hrest' h
  cases p' with
  | last name' args' =>
    simp only [Segments.tokens, List.cons_append, List.cons.injEq, Token.ident.injEq] at h
    obtain ⟨rfl, hrests⟩ := hargs.argTokens_inj hp'.2 hrest.less hrest'.less h.2
    exact ⟨by rw [h.1], hrests⟩
  | next name' args' more' =>
    simp only [Segments.tokens, List.cons_append, List.append_assoc, List.cons.injEq,
      Token.ident.injEq] at h
    -- The one path ends where the other goes on.
    obtain ⟨-, rfl⟩ := hargs.argTokens_inj hp'.2.1 hrest.less (by simp) h.2
    exact absurd rfl hrest.pathSep

theorem Segments.Settled.next (name : String) {args : List Written} {more : Segments}
    (hargs : MoreSettled args) (ih : more.Settled) :
    Segments.Settled (.next name args more) := by
  intro p' rest rest' hp' hrest hrest' h
  cases p' with
  | last name' args' =>
    simp only [Segments.tokens, List.cons_append, List.append_assoc, List.cons.injEq,
      Token.ident.injEq] at h
    obtain ⟨-, rfl⟩ := hargs.argTokens_inj hp'.2 (by simp) hrest'.less h.2
    exact absurd rfl hrest'.pathSep
  | next name' args' more' =>
    simp only [Segments.tokens, List.cons_append, List.append_assoc, List.cons.injEq,
      Token.ident.injEq] at h
    obtain ⟨rfl, hmore⟩ := hargs.argTokens_inj hp'.2.1 (by simp) (by simp) h.2
    obtain ⟨rfl, hrests⟩ := ih hp'.2.2 hrest hrest' (List.cons.inj hmore).2
    exact ⟨by rw [h.1], hrests⟩

mutual

theorem Written.Proper.settled {w : Written} (hw : w.Proper) : w.Settled := by
  cases w with
  | unit => exact .unit
  | str l => exact .str l
  | slice l m elem => exact .slice hw (Written.Proper.settled hw)
  | reference l m target => exact .reference hw (Written.Proper.settled hw.1)
  | pointer m target => exact .pointer m (Written.Proper.settled hw)
  | array elem length => exact .array length (Written.Proper.settled hw)
  | path root p => exact .path root (Segments.Proper.settled hw)

theorem Segments.Proper.settled {p : Segments} (hp : p.Proper) : p.Settled := by
  cases p with
  | last name args => exact .last name hp.2.moreSettled
  | next name args more => exact .next name hp.2.1.moreSettled (Segments.Proper.settled hp.2.2)

theorem AllProper.moreSettled {as : List Written} (has : AllProper as) : MoreSettled as := by
  cases as with
  | nil => exact moreSettled_nil
  | cons a as => exact .cons has.1.settled has.2.moreSettled

end

end

/-- The tree is one of the text. -/
structure Written.Writes (w : Written) (s : String) : Prop where
  proper : w.Proper
  tokens : TypeExpr.tokens s.toList = .ok w.tokens

/-- A text has at most one tree. -/
theorem Written.eq_of_writes {s : String} {w w' : Written} (hw : w.Writes s)
    (hw' : w'.Writes s) : w = w' := by
  have htokens := Except.ok.inj (hw.tokens.symm.trans hw'.tokens)
  have hclosed : Closed [] := ⟨by simp, by simp⟩
  exact (hw.proper.settled hw'.proper hclosed hclosed (by rw [htokens])).1

end SignalBinding.TypeExpr
