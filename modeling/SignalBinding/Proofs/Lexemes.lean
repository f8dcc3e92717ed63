import Mathlib
import SignalBinding.Proofs.TokenBoundaries

/-!
# What the tokens of a text are

Which characters are a token is said by rules that know nothing of how a text is read. The reader
takes the longest token that starts at a place, again and again, and leaves out the blanks in
between. So the tokens of a text are the only way to cut it like this, and a text that has none is
told by the first character that can not be cut off.

## Main definitions

- `Lexeme`: the characters that a token is written with
- `Longest`: the longest token at the start of a text
- `Layout`: texts that are cut into tokens and blanks
- `Strays`: texts that are cut up to a character at which no token starts

## Main statements

- `tokens_eq_ok_iff`, `tokens_eq_error_iff`: what is read off a text
-/

namespace SignalBinding.TypeExpr

variable {c : Char} {cs ds v w rest : List Char} {t u : Token} {ts us : List Token}

/-- The characters that a token is written with. -/
inductive Lexeme : Token → List Char → Prop
  | lifetime {c : Char} {cs : List Char} (hc : isIdentStart c = true)
      (hcs : ∀ x ∈ cs, isIdentRest x = true) :
      Lexeme (.lifetime (String.ofList (c :: cs))) ('\'' :: c :: cs)
  | ident {c : Char} {cs : List Char} (hc : isIdentStart c = true)
      (hcs : ∀ x ∈ cs, isIdentRest x = true) : Lexeme (.ident (String.ofList (c :: cs))) (c :: cs)
  | number {c : Char} {cs : List Char} (hc : c.isDigit = true)
      (hcs : ∀ x ∈ cs, x.isDigit = true) : Lexeme (.number (String.ofList (c :: cs))) (c :: cs)
  | pathSep : Lexeme .pathSep [':', ':']
  | punctuation {c : Char} {t : Token} (h : punctuation? c = some t) : Lexeme t [c]

/-- Of all tokens that the text `cs` starts with, `t` is the longest. It is written `w`. -/
structure Longest (t : Token) (w cs : List Char) : Prop where
  lexeme : Lexeme t w
  starts : w <+: cs
  longest : ∀ u v, Lexeme u v → v <+: cs → v <+: w

/-- All characters are blank. -/
def Blank (cs : List Char) : Prop :=
  ∀ x ∈ cs, Text.isBlank x = true

instance : DecidablePred Blank :=
  fun cs => List.decidableBAll (fun x => Text.isBlank x = true) cs

/-- The text is cut into the tokens, each the longest at its place, and the blanks around them. -/
inductive Layout : List Token → List Char → Prop
  | blank {cs : List Char} (h : Blank cs) : Layout [] cs
  | token {t : Token} {ts : List Token} {before w rest : List Char} (hbefore : Blank before)
      (hw : Longest t w (w ++ rest)) (hrest : Layout ts rest) :
      Layout (t :: ts) (before ++ w ++ rest)

/-- The text can be cut up to the character `c`, which is not blank and where no token starts. -/
def Strays (c : Char) (cs : List Char) : Prop :=
  ∃ ts before rest, cs = before ++ c :: rest ∧ Layout ts before ∧ Text.isBlank c = false ∧
    ∀ t w, Lexeme t w → ¬ w <+: c :: rest

/-! ### Characters -/

theorem isIdentRest_of_isIdentStart (h : isIdentStart c = true) : isIdentRest c = true := by
  simp [isIdentRest, h]

theorem isBlank_of_isIdentRest (h : isIdentRest c = true) : Text.isBlank c = false := by
  have hcode : 48 ≤ c.toNat ∧ c.toNat ≤ 122 := by
    simp only [isIdentRest, isIdentStart, Char.isAlpha, Char.isUpper, Char.isLower, Char.isDigit,
      Bool.or_eq_true, Bool.and_eq_true, decide_eq_true_eq, beq_iff_eq, UInt32.le_iff_toNat_le,
      ge_iff_le] at h
    change 48 ≤ c.val.toNat ∧ c.val.toNat ≤ 122
    have hzero : '0'.val.toNat = 48 := rfl
    have hnine : '9'.val.toNat = 57 := rfl
    have hA : 'A'.val.toNat = 65 := rfl
    have hZ : 'Z'.val.toNat = 90 := rfl
    have ha : 'a'.val.toNat = 97 := rfl
    have hz : 'z'.val.toNat = 122 := rfl
    obtain (hletter | rfl) | hdigit := h
    · omega
    · decide
    · omega
  suffices hblank : ¬ Text.isBlank c = true by simpa using hblank
  simp only [Text.isBlank, Bool.or_eq_true, Bool.and_eq_true, decide_eq_true_eq, beq_iff_eq]
  omega

theorem isBlank_of_punctuation? (h : punctuation? c = some t) : Text.isBlank c = false := by
  unfold punctuation? at h
  split at h <;> cases h <;> rfl

theorem text_of_punctuation? (h : punctuation? c = some t) : t.text.toList = [c] := by
  unfold punctuation? at h
  split at h <;> cases h <;> rfl

theorem isBlank_of_dropWhile (h : cs.dropWhile Text.isBlank = c :: ds) :
    Text.isBlank c = false := by
  have hnot := List.head?_dropWhile_not Text.isBlank cs
  rw [h] at hnot
  exact hnot

/-! ### Tokens as they are written -/

namespace Lexeme

theorem exists_cons (h : Lexeme t w) : ∃ c cs, w = c :: cs := by
  cases h <;> exact ⟨_, _, rfl⟩

theorem text_eq (h : Lexeme t w) : t.text.toList = w := by
  cases h with
  | pathSep => decide
  | punctuation h => exact text_of_punctuation? h
  | _ => simp [Token.text]

/-- No token has a blank in it. -/
theorem isBlank (h : Lexeme t w) : ∀ x ∈ w, Text.isBlank x = false := by
  intro x hx
  cases h with
  | lifetime hc hcs =>
    obtain rfl | rfl | hx := by simpa using hx
    · decide
    · exact isBlank_of_isIdentRest (isIdentRest_of_isIdentStart hc)
    · exact isBlank_of_isIdentRest (hcs x hx)
  | ident hc hcs =>
    obtain rfl | hx := List.mem_cons.1 hx
    · exact isBlank_of_isIdentRest (isIdentRest_of_isIdentStart hc)
    · exact isBlank_of_isIdentRest (hcs x hx)
  | number hc hcs =>
    obtain rfl | hx := List.mem_cons.1 hx
    · exact isBlank_of_isDigit hc
    · exact isBlank_of_isDigit (hcs x hx)
  | pathSep =>
    obtain rfl : x = ':' := by simpa using hx
    decide
  | punctuation h =>
    obtain rfl := List.mem_singleton.1 hx
    exact isBlank_of_punctuation? h

end Lexeme

/-! ### The token at the start of a text -/

/-- A run of characters takes in those that are known, and goes on as far as it can. -/
theorem exists_of_run {p : Char → Bool} {k : String → Token} (hv : ∀ x ∈ v, p x = true)
    (h : lexeme? c cs = some (k (run p (v ++ ds)).1, (run p (v ++ ds)).2)) :
    ∃ t rest, lexeme? c cs = some (t, rest) ∧ rest <:+ ds ∧
      (ds = [] → t = k (String.ofList v)) := by
  have hrun : run p (v ++ ds) = (String.ofList (v ++ ds.takeWhile p), ds.dropWhile p) := by
    rw [run, List.takeWhile_append_of_pos hv, List.dropWhile_append_of_pos hv]
  rw [hrun] at h
  refine ⟨_, _, h, List.dropWhile_suffix p, ?_⟩
  rintro rfl
  simp

/-- Where a token starts, one is read that goes at least as far. -/
theorem Lexeme.exists_lexeme? (h : Lexeme u v) (hcs : c :: cs = v ++ ds) :
    ∃ t rest, lexeme? c cs = some (t, rest) ∧ rest <:+ ds ∧ (ds = [] → t = u) := by
  cases h with
  | @lifetime d v hd hv =>
    obtain ⟨rfl, rfl⟩ := List.cons.inj hcs
    have hword : ∀ x ∈ d :: v, isIdentRest x = true :=
      List.forall_mem_cons.2 ⟨isIdentRest_of_isIdentStart hd, hv⟩
    exact exists_of_run hword (by simp [lexeme?, hd])
  | @ident d v hc hv =>
    obtain ⟨rfl, rfl⟩ := List.cons.inj hcs
    have hword : ∀ x ∈ c :: v, isIdentRest x = true :=
      List.forall_mem_cons.2 ⟨isIdentRest_of_isIdentStart hc, hv⟩
    have htick : c ≠ '\'' := by rintro rfl; contradiction
    exact exists_of_run hword (by simp [lexeme?, htick, hc])
  | @number d v hc hv =>
    obtain ⟨rfl, rfl⟩ := List.cons.inj hcs
    have hword : ∀ x ∈ c :: v, x.isDigit = true := List.forall_mem_cons.2 ⟨hc, hv⟩
    have htick : c ≠ '\'' := by rintro rfl; contradiction
    exact exists_of_run hword (by simp [lexeme?, htick, isIdentStart_of_isDigit hc, hc])
  | pathSep =>
    obtain ⟨rfl, rfl⟩ := List.cons.inj hcs
    exact ⟨_, _, rfl, List.suffix_rfl, fun _ => rfl⟩
  | punctuation h =>
    obtain ⟨rfl, rfl⟩ := List.cons.inj hcs
    have hread : lexeme? c cs = some (u, cs) := by
      unfold punctuation? at h
      split at h <;> cases h <;> rfl
    exact ⟨u, cs, hread, List.suffix_rfl, fun _ => rfl⟩

/-- What is read is a token. -/
theorem exists_lexeme_of_lexeme? (h : lexeme? c cs = some (t, rest)) :
    ∃ w, Lexeme t w ∧ c :: cs = w ++ rest := by
  revert h
  fun_cases lexeme? c cs with
  | case1 htick d ds hd =>
    rintro ⟨⟩
    obtain rfl : c = '\'' := by simpa using htick
    have hrest := isIdentRest_of_isIdentStart hd
    refine ⟨'\'' :: d :: ds.takeWhile isIdentRest, ?_, by simp [run, hrest]⟩
    simpa [run, hrest] using Lexeme.lifetime hd fun x => List.mem_takeWhile_imp
  | case4 cs htick hstart =>
    rintro ⟨⟩
    have hrest := isIdentRest_of_isIdentStart hstart
    refine ⟨c :: cs.takeWhile isIdentRest, ?_, by simp [run, hrest]⟩
    simpa [run, hrest] using Lexeme.ident hstart fun x => List.mem_takeWhile_imp
  | case5 cs htick hstart hd =>
    rintro ⟨⟩
    refine ⟨c :: cs.takeWhile Char.isDigit, ?_, by simp [run, hd]⟩
    simpa [run, hd] using Lexeme.number hd fun x => List.mem_takeWhile_imp
  | case6 htick hstart hd hcolon ds =>
    rintro ⟨⟩
    obtain rfl : c = ':' := by simpa using hcolon
    exact ⟨[':', ':'], .pathSep, rfl⟩
  | case8 cs htick hstart hd hcolon =>
    intro h
    obtain ⟨u, hu, h⟩ := Option.map_eq_some_iff.1 h
    cases h
    exact ⟨[c], .punctuation hu, rfl⟩
  | _ => rintro ⟨⟩

namespace Lexeme

/-- A token that is alone is read as a whole. -/
theorem lexeme?_eq (h : Lexeme t (c :: cs)) : lexeme? c cs = some (t, []) := by
  obtain ⟨u, rest, hread, hrest, hu⟩ := h.exists_lexeme? (List.append_nil _).symm
  rw [hread, hu rfl, List.suffix_nil.1 hrest]

/-- Different tokens are written differently. -/
theorem unique (ht : Lexeme t w) (hu : Lexeme u w) : t = u := by
  obtain ⟨c, cs, rfl⟩ := ht.exists_cons
  have hread := ht.lexeme?_eq.symm.trans hu.lexeme?_eq
  exact (Prod.mk.inj (Option.some.inj hread)).1

theorem tokens_eq (h : Lexeme t w) : tokens w = .ok [t] := by
  obtain ⟨c, cs, rfl⟩ := h.exists_cons
  rw [tokens_cons (h.isBlank c List.mem_cons_self) h.lexeme?_eq, tokens_nil]
  rfl

end Lexeme

theorem Longest.unique (ht : Longest t w cs) (hu : Longest u v cs) : t = u ∧ w = v := by
  have hwv := hu.longest t w ht.lexeme ht.starts
  have hvw := ht.longest u v hu.lexeme hu.starts
  obtain rfl := hwv.eq_of_length (Nat.le_antisymm hwv.length_le hvw.length_le)
  exact ⟨ht.lexeme.unique hu.lexeme, rfl⟩

/-- What is the longest before more of a text is the longest before less of it. -/
theorem Longest.of_shorter (h : Longest t w (w ++ ds)) (hcs : cs <+: ds) :
    Longest t w (w ++ cs) where
  lexeme := h.lexeme
  starts := List.prefix_append w cs
  longest u v hv hstarts := by
    have hwhole : w ++ cs <+: w ++ ds := (List.prefix_append_right_inj w).2 hcs
    exact h.longest u v hv (hstarts.trans hwhole)

theorem longest_of_lexeme? (h : lexeme? c cs = some (t, rest)) :
    ∃ w, Longest t w (c :: cs) ∧ c :: cs = w ++ rest := by
  obtain ⟨w, hw, hcs⟩ := exists_lexeme_of_lexeme? h
  refine ⟨w, ⟨hw, ⟨rest, hcs.symm⟩, ?_⟩, hcs⟩
  rintro u v hv ⟨ds, hds⟩
  obtain ⟨t', rest', hread, ⟨es, rfl⟩, -⟩ := hv.exists_lexeme? hds.symm
  obtain ⟨rfl, rfl⟩ := Prod.mk.inj (Option.some.inj (h.symm.trans hread))
  have hwhole : v ++ es ++ rest = w ++ rest := by rw [List.append_assoc, hds, hcs]
  exact ⟨es, List.append_cancel_right hwhole⟩

theorem lexeme?_eq_none_iff :
    lexeme? c cs = none ↔ ∀ t w, Lexeme t w → ¬ w <+: c :: cs := by
  constructor
  · rintro h t w hw ⟨ds, hds⟩
    obtain ⟨u, rest, hread, -⟩ := hw.exists_lexeme? hds.symm
    cases h.symm.trans hread
  · intro h
    cases hread : lexeme? c cs with
    | none => rfl
    | some p =>
      obtain ⟨w, hw, hcs⟩ := exists_lexeme_of_lexeme? hread
      exact absurd ⟨p.2, hcs.symm⟩ (h _ w hw)

theorem Longest.lexeme?_eq (h : Longest t w (c :: cs)) (hcs : c :: cs = w ++ rest) :
    lexeme? c cs = some (t, rest) := by
  cases hread : lexeme? c cs with
  | none => exact absurd h.starts (lexeme?_eq_none_iff.1 hread t w h.lexeme)
  | some p =>
    obtain ⟨v, hv, hcs'⟩ := longest_of_lexeme? hread
    obtain ⟨rfl, rfl⟩ := h.unique hv
    rw [List.append_cancel_left (hcs.symm.trans hcs')]

/-! ### Whole texts -/

/-- The reader takes the longest token behind the blanks. -/
theorem exists_longest (hcs : cs.dropWhile Text.isBlank = c :: ds)
    (h : lexeme? c ds = some (t, rest)) :
    ∃ before w, Blank before ∧ Longest t w (w ++ rest) ∧ cs = before ++ w ++ rest := by
  obtain ⟨w, hw, hds⟩ := longest_of_lexeme? h
  refine ⟨cs.takeWhile Text.isBlank, w, fun x => List.mem_takeWhile_imp, hds ▸ hw, ?_⟩
  rw [List.append_assoc, ← hds, ← hcs, List.takeWhile_append_dropWhile]

theorem Layout.of_tokens (h : tokens cs = .ok ts) : Layout ts cs := by
  fun_induction tokens cs generalizing ts with
  | case1 cs hblank =>
    obtain rfl := Except.ok.inj h
    exact .blank (List.dropWhile_eq_nil_iff.1 hblank)
  | case2 => cases h
  | case3 cs c ds hcs t rest hlexeme _ ih =>
    cases hrest : tokens rest with
    | error d => simp [hrest, Except.map] at h
    | ok us =>
      obtain rfl : t :: us = ts := by simpa [hrest, Except.map] using h
      obtain ⟨before, w, hbefore, hw, rfl⟩ := exists_longest hcs hlexeme
      exact .token hbefore hw (ih hrest)

theorem Layout.tokens_eq (h : Layout ts cs) : tokens cs = .ok ts := by
  induction h with
  | blank h => exact tokens_of_blank (List.dropWhile_eq_nil_iff.2 h)
  | @token t ts before w rest hbefore hw _ ih =>
    obtain ⟨c, ds, rfl⟩ := hw.lexeme.exists_cons
    have hc : Text.isBlank c = false := hw.lexeme.isBlank c List.mem_cons_self
    have hdrop : (before ++ c :: ds ++ rest).dropWhile Text.isBlank = c :: (ds ++ rest) := by
      rw [List.append_assoc, List.dropWhile_append_of_pos hbefore]
      simp [hc]
    rw [tokens_of_lexeme hdrop (hw.lexeme?_eq rfl), ih]
    rfl

theorem tokens_eq_ok_iff : tokens cs = .ok ts ↔ Layout ts cs :=
  ⟨Layout.of_tokens, Layout.tokens_eq⟩

theorem Strays.of_tokens (h : tokens cs = .error c) : Strays c cs := by
  fun_induction tokens cs with
  | case1 => cases h
  | case2 cs d ds hcs hlexeme =>
    obtain rfl := Except.error.inj h
    have hbefore : Blank (cs.takeWhile Text.isBlank) := fun x => List.mem_takeWhile_imp
    refine ⟨[], _, ds, ?_, .blank hbefore, isBlank_of_dropWhile hcs, lexeme?_eq_none_iff.1 hlexeme⟩
    rw [← hcs, List.takeWhile_append_dropWhile]
  | case3 cs d ds hcs t rest hlexeme _ ih =>
    cases hrest : tokens rest with
    | ok us => simp [hrest, Except.map] at h
    | error e =>
      obtain rfl : e = c := by simpa [hrest, Except.map] using h
      obtain ⟨us, read, unread, rfl, hread, hblank, hnone⟩ := ih hrest
      obtain ⟨before, w, hbefore, hw, rfl⟩ := exists_longest hcs hlexeme
      have hlayout : Layout (t :: us) (before ++ w ++ read) :=
        .token hbefore (hw.of_shorter (List.prefix_append _ _)) hread
      exact ⟨t :: us, _, unread, by simp, hlayout, hblank, hnone⟩

/-- Where no token starts, the token before does not go on either. -/
theorem breaks_of_no_lexeme (h : ∀ t w, Lexeme t w → ¬ w <+: c :: rest) :
    Breaks (c :: rest) := by
  refine breaks_cons ?_
  by_contra hc
  simp only [isIdentRest, Bool.not_eq_false, Bool.or_eq_true] at hc
  have hfirst : [c] <+: c :: rest := ⟨rest, rfl⟩
  rcases hc with hc | hc
  · exact h _ _ (.ident hc (by simp)) hfirst
  · exact h _ _ (.number hc (by simp)) hfirst

theorem Strays.tokens_eq (h : Strays c cs) : tokens cs = .error c := by
  obtain ⟨ts, before, rest, rfl, hlayout, hblank, hnone⟩ := h
  have hdrop : (c :: rest).dropWhile Text.isBlank = c :: rest := by simp [hblank]
  rw [tokens_append_eq_map hlayout.tokens_eq (breaks_of_no_lexeme hnone),
    tokens_of_stray hdrop (lexeme?_eq_none_iff.2 hnone)]
  rfl

theorem tokens_eq_error_iff : tokens cs = .error c ↔ Strays c cs :=
  ⟨Strays.of_tokens, Strays.tokens_eq⟩

end SignalBinding.TypeExpr
