import Mathlib.Data.List.TakeWhile
import SignalBinding.TypeExpr.Token

/-!
# Where tokens end

A token goes on as long as letters, digits and underscores follow. Texts that are put together where
none of these follows have the tokens of the one text and then those of the other.

## Main definitions

- `Breaks`: texts that do not go on with a token before them

## Main statement

- `tokens_append`: the tokens of two texts put together
-/

namespace SignalBinding.TypeExpr

variable {cs ys rest : List Char} {ts us : List Token}

/-- The text does not start with a character that a token before it would take. -/
def Breaks (ys : List Char) : Prop :=
  ∀ x ∈ ys.head?, isIdentRest x = false

theorem breaks_cons {c : Char} (hc : isIdentRest c = false) : Breaks (c :: cs) := by
  simpa [Breaks] using hc

theorem run_append {p : Char → Bool} (hp : ∀ x ∈ ys.head?, p x = false) :
    run p (cs ++ ys) = ((run p cs).1, (run p cs).2 ++ ys) := by
  induction cs with
  | nil =>
    cases ys with
    | nil => rfl
    | cons y ys =>
      have hy : p y = false := hp y rfl
      simp [run, hy]
  | cons c cs ih =>
    by_cases hc : p c
    · simp only [run, Prod.mk.injEq] at ih
      simp [run, hc, ih]
    · simp [run, hc]

/-- The token at the start of a text is the same with a further text behind it. -/
theorem lexeme?_append {c : Char} {t : Token} (hys : Breaks ys)
    (h : lexeme? c cs = some (t, rest)) : lexeme? c (cs ++ ys) = some (t, rest ++ ys) := by
  have hdigit : ∀ x ∈ ys.head?, x.isDigit = false := by
    intro x hx
    have hrest := hys x hx
    simp only [isIdentRest, Bool.or_eq_false_iff] at hrest
    exact hrest.2
  revert h
  -- One case for each branch that finds a token, the others are vacuous.
  fun_cases lexeme? c cs with
  | case1 htick d ds hd =>
    rintro ⟨⟩
    simp only [lexeme?, htick, List.cons_append, hd, if_true]
    rw [← List.cons_append, run_append hys]
  | case4 cs htick hstart =>
    rintro ⟨⟩
    simp only [lexeme?, htick, hstart, if_true, if_false, Bool.false_eq_true]
    rw [← List.cons_append, run_append hys]
  | case5 cs htick hstart hd =>
    rintro ⟨⟩
    simp only [lexeme?, htick, hstart, hd, if_true, if_false, Bool.false_eq_true]
    rw [← List.cons_append, run_append hdigit]
  | case6 htick hstart hd hcolon ds =>
    rintro ⟨⟩
    simp only [lexeme?, htick, hstart, hd, hcolon, if_true, if_false, Bool.false_eq_true,
      List.cons_append]
  | case8 cs htick hstart hd hcolon =>
    intro h
    obtain ⟨u, hu, h⟩ := Option.map_eq_some_iff.1 h
    cases h
    simp only [lexeme?, htick, hstart, hd, hcolon, hu, if_false, Bool.false_eq_true,
      Option.map_some]
  | _ => rintro ⟨⟩

/-! ### What a text starts with -/

theorem tokens_of_blank (h : cs.dropWhile Text.isBlank = []) : tokens cs = .ok [] := by
  rw [tokens]
  split
  · rfl
  next hcons => simp [h] at hcons

theorem tokens_of_stray {c : Char} {ds : List Char} (h : cs.dropWhile Text.isBlank = c :: ds)
    (hlexeme : lexeme? c ds = none) : tokens cs = .error c := by
  rw [tokens]
  split
  next hnil => simp [h] at hnil
  next d es hcons =>
    obtain ⟨rfl, rfl⟩ := List.cons.inj (h.symm.trans hcons)
    split
    · rfl
    next hsome => simp [hlexeme] at hsome

theorem tokens_of_lexeme {c : Char} {ds : List Char} {t : Token}
    (h : cs.dropWhile Text.isBlank = c :: ds) (hlexeme : lexeme? c ds = some (t, rest)) :
    tokens cs = (tokens rest).map (t :: ·) := by
  rw [tokens]
  split
  next hnil => simp [h] at hnil
  next d es hcons =>
    obtain ⟨rfl, rfl⟩ := List.cons.inj (h.symm.trans hcons)
    split
    next hnone => simp [hlexeme] at hnone
    next hsome =>
      obtain ⟨rfl, rfl⟩ := Prod.mk.inj (Option.some.inj (hlexeme.symm.trans hsome))
      rfl

/-- Blanks before a text make no tokens. -/
theorem tokens_congr (h : cs.dropWhile Text.isBlank = ys.dropWhile Text.isBlank) :
    tokens cs = tokens ys := by
  cases hys : ys.dropWhile Text.isBlank with
  | nil => rw [tokens_of_blank hys, tokens_of_blank (h.trans hys)]
  | cons c ds =>
    cases hlexeme : lexeme? c ds with
    | none => rw [tokens_of_stray hys hlexeme, tokens_of_stray (h.trans hys) hlexeme]
    | some p => rw [tokens_of_lexeme hys hlexeme, tokens_of_lexeme (h.trans hys) hlexeme]

/-- What holds of each token that can be read holds of all tokens of a text. -/
theorem forall_mem_of_tokens {P : Token → Prop}
    (hP : ∀ c cs t rest, lexeme? c cs = some (t, rest) → P t) (h : tokens cs = .ok ts) :
    ∀ t ∈ ts, P t := by
  fun_induction tokens cs generalizing ts with
  | case1 =>
    obtain rfl : [] = ts := Except.ok.inj h
    simp
  | case2 => cases h
  | case3 cs c ds hcs t rest hlexeme _ ih =>
    cases hrest : tokens rest with
    | error d => simp [hrest, Except.map] at h
    | ok us =>
      obtain rfl : t :: us = ts := by simpa [hrest, Except.map] using h
      exact List.forall_mem_cons.2 ⟨hP _ _ _ _ hlexeme, ih hrest⟩

/-! ### Texts put together -/

/-- The tokens of a text come before all that is read behind it, or before the fault found there. -/
theorem tokens_append_eq_map (hcs : tokens cs = .ok ts) (hbreaks : Breaks ys) :
    tokens (cs ++ ys) = (tokens ys).map (ts ++ ·) := by
  fun_induction tokens cs generalizing ts with
  | case1 cs hblank =>
    obtain rfl : [] = ts := Except.ok.inj hcs
    have hdrop : (cs ++ ys).dropWhile Text.isBlank = ys.dropWhile Text.isBlank := by
      simp [List.dropWhile_append, hblank]
    rw [tokens_congr hdrop]
    cases tokens ys <;> rfl
  | case2 cs c ds h hlexeme => cases hcs
  | case3 cs c ds h t rest hlexeme _ ih =>
    cases hrest : tokens rest with
    | error d => simp [hrest, Except.map] at hcs
    | ok vs =>
      obtain rfl : t :: vs = ts := by simpa [hrest, Except.map] using hcs
      have hdrop : (cs ++ ys).dropWhile Text.isBlank = c :: (ds ++ ys) := by
        simp [List.dropWhile_append, h]
      rw [tokens_of_lexeme hdrop (lexeme?_append hbreaks hlexeme), ih hrest]
      cases tokens ys <;> rfl

theorem tokens_append (hcs : tokens cs = .ok ts) (hbreaks : Breaks ys) (hys : tokens ys = .ok us) :
    tokens (cs ++ ys) = .ok (ts ++ us) := by
  rw [tokens_append_eq_map hcs hbreaks, hys]
  rfl

theorem tokens_blank_cons {c : Char} (hc : Text.isBlank c = true) :
    tokens (c :: cs) = tokens cs :=
  tokens_congr (by simp [hc])

/-- A number as the length of an array is written: one digit or more. -/
structure IsLength (digits : String) : Prop where
  ne : digits.toList ≠ []
  isDigit : ∀ x ∈ digits.toList, x.isDigit = true

/-- A number that can be read is at least the digit that it starts with. -/
theorem IsLength.of_lexeme? {c : Char} {digits : String}
    (h : lexeme? c cs = some (.number digits, rest)) : IsLength digits := by
  revert h
  fun_cases lexeme? c cs with
  | case5 cs htick hstart hd =>
    rintro ⟨⟩
    refine ⟨by simp [run, hd], fun x hx => ?_⟩
    rw [run, String.toList_ofList] at hx
    exact List.all_eq_true.1 List.all_takeWhile x hx
  | case8 cs htick hstart hd hcolon =>
    intro h
    obtain ⟨u, hu, h⟩ := Option.map_eq_some_iff.1 h
    cases h
    unfold punctuation? at hu
    split at hu <;> cases hu
  | _ => rintro ⟨⟩

theorem IsLength.of_tokens {digits : String} (h : tokens cs = .ok ts)
    (hmem : .number digits ∈ ts) : IsLength digits :=
  forall_mem_of_tokens (P := fun t => ∀ digits, t = .number digits → IsLength digits)
    (fun _ _ _ _ hlexeme _ hnumber => .of_lexeme? (hnumber ▸ hlexeme)) h _ hmem _ rfl

theorem isDigit_iff {c : Char} : c.isDigit = true ↔ 48 ≤ c.toNat ∧ c.toNat ≤ 57 := by
  unfold Char.isDigit
  simp [UInt32.le_iff_toNat_le]

theorem isIdentStart_of_isDigit {c : Char} (h : c.isDigit = true) : isIdentStart c = false := by
  have hcode := isDigit_iff.1 h
  have hline : c ≠ '_' := by rintro rfl; contradiction
  have hupper : ¬ 65 ≤ c.toNat := by omega
  have hlower : ¬ 97 ≤ c.toNat := by omega
  unfold isIdentStart Char.isAlpha Char.isUpper Char.isLower
  simp [hline, UInt32.le_iff_toNat_le, hupper, hlower]

theorem isBlank_of_isDigit {c : Char} (h : c.isDigit = true) : Text.isBlank c = false := by
  have hcode := isDigit_iff.1 h
  suffices hblank : ¬ Text.isBlank c = true by simpa using hblank
  simp only [Text.isBlank, Bool.or_eq_true, Bool.and_eq_true, decide_eq_true_eq, beq_iff_eq]
  omega

/-- Digits are one token. -/
theorem IsLength.tokens_eq {digits : String} (h : IsLength digits) :
    tokens digits.toList = .ok [.number digits] := by
  obtain ⟨c, cs, hcs⟩ := List.exists_cons_of_ne_nil h.ne
  have hc : c.isDigit = true := h.isDigit c (by simp [hcs])
  have htick : c ≠ '\'' := by rintro rfl; contradiction
  have hrun : run Char.isDigit (c :: cs) = (digits, []) := by
    have hall := hcs ▸ h.isDigit
    rw [run, List.takeWhile_eq_self_iff.2 hall, List.dropWhile_eq_nil_iff.2 hall, ← hcs,
      String.ofList_toList]
  have hlexeme : lexeme? c cs = some (.number digits, []) := by
    simp [lexeme?, htick, isIdentStart_of_isDigit hc, hc, hrun]
  rw [hcs, tokens_cons (isBlank_of_isDigit hc) hlexeme, tokens_nil]
  rfl

end SignalBinding.TypeExpr
