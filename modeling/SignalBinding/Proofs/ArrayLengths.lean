import Mathlib
import SignalBinding.Decimal.Numeral
import SignalBinding.Proofs.TypeMeanings
import SignalBinding.Proofs.TokenBoundaries

/-!
# Lengths of arrays

The length of an array stands in C++ with the digits that it is written with in Rust. Both languages
read them in base ten, but C++ does so only if the first one is not a zero: it reads the others in
base eight.

## Main definitions

- `TypeExpr.parts`, `Written.parts`: what a type and a tree are made of
- `decimal?`, `cppLiteral?`: the number that digits denote in Rust and in C++

## Main statement

- `spell_array_length`: which arrays keep their length
-/

namespace SignalBinding

namespace Numeral

variable {a b d k m n v w : Nat} {c : Char} {cs : List Char}

/-- The value of a digit does not depend on the base that it is a digit of. -/
theorem digit?_eq_some_iff_of_le (hab : a ≤ b) :
    digit? a c = some d ↔ digit? b c = some d ∧ d < a := by
  simp only [digit?, Option.filter_eq_some_iff, decide_eq_true_eq]
  grind

theorem continue?_cons :
    continue? a n (c :: cs) = some v ↔
      ∃ d, digit? a c = some d ∧ continue? a (n * a + d) cs = some v :=
  Option.bind_eq_some_iff

theorem le_of_continue? (ha : 0 < a) (h : continue? a n cs = some v) : n ≤ v := by
  induction cs generalizing n with
  | nil => exact (Option.some.inj h).le
  | cons c cs ih =>
    obtain ⟨d, -, h⟩ := continue?_cons.1 h
    have hn : n ≤ n * a := Nat.le_mul_of_pos_right n ha
    exact (hn.trans (Nat.le_add_right _ d)).trans (ih h)

/-- The digits that follow make less of a number that is less, in a base that is no larger. -/
theorem lt_of_continue? (hab : a ≤ b) (hmn : m < n) (hv : continue? a m cs = some v)
    (hw : continue? b n cs = some w) : v < w := by
  induction cs generalizing m n with
  | nil =>
    obtain rfl := Option.some.inj hv
    obtain rfl := Option.some.inj hw
    exact hmn
  | cons c cs ih =>
    obtain ⟨d, hd, hv⟩ := continue?_cons.1 hv
    obtain ⟨e, he, hw⟩ := continue?_cons.1 hw
    obtain ⟨hd, hda⟩ := (digit?_eq_some_iff_of_le hab).1 hd
    obtain rfl := Option.some.inj (hd.symm.trans he)
    have hmul : m * a < n * b := Nat.mul_lt_mul_of_lt_of_le hmn hab (by omega)
    exact ih (Nat.add_lt_add_right hmul d) hv hw

/-- Digits mean the same number in two bases if and only if it is a digit of both. -/
theorem continue?_zero_eq_some_iff (ha : 0 < a) (hab : a < b) (h : continue? b 0 cs = some n) :
    continue? a 0 cs = some n ↔ n < a := by
  induction cs with
  | nil =>
    obtain rfl := Option.some.inj h
    exact iff_of_true rfl ha
  | cons c cs ih =>
    obtain ⟨d, hd, hb⟩ := continue?_cons.1 h
    have hstep : continue? a 0 (c :: cs) = some n ↔ d < a ∧ continue? a d cs = some n := by
      rw [continue?_cons]
      simp only [Nat.zero_mul, Nat.zero_add, digit?_eq_some_iff_of_le hab.le, hd]
      grind
    rw [Nat.zero_mul, Nat.zero_add] at hb
    rw [hstep]
    rcases Nat.eq_zero_or_pos d with rfl | hd
    · exact (and_iff_right ha).trans (ih hb)
    -- Behind a digit that counts, one more digit makes more in the larger base.
    cases cs with
    | nil =>
      obtain rfl := Option.some.inj hb
      exact and_iff_left rfl
    | cons e es =>
      obtain ⟨k, hk, hb⟩ := continue?_cons.1 hb
      have hn : d * b + k ≤ n := le_of_continue? (by omega) hb
      have hdb : b ≤ d * b := Nat.le_mul_of_pos_left b hd
      refine iff_of_false (fun hboth => ?_) (by omega)
      obtain ⟨j, hj, ha'⟩ := continue?_cons.1 hboth.2
      obtain rfl := Option.some.inj (((digit?_eq_some_iff_of_le hab.le).1 hj).1.symm.trans hk)
      have hmul : d * a < d * b := Nat.mul_lt_mul_of_pos_left hab hd
      exact (lt_of_continue? hab.le (Nat.add_lt_add_right hmul j) ha' hb).false

/-- Any digits of a base are a number in it. -/
theorem exists_continue? (h : ∀ c ∈ cs, ∃ d, digit? a c = some d) (n : Nat) :
    ∃ v, continue? a n cs = some v := by
  induction cs generalizing n with
  | nil => exact ⟨n, rfl⟩
  | cons c cs ih =>
    obtain ⟨hc, hcs⟩ := List.forall_mem_cons.1 h
    obtain ⟨d, hd⟩ := hc
    obtain ⟨v, hv⟩ := ih hcs (n * a + d)
    exact ⟨v, continue?_cons.2 ⟨d, hd, hv⟩⟩

end Numeral

namespace TypeExpr

theorem exists_digit?_of_isDigit {c : Char} (h : c.isDigit = true) :
    ∃ d, Numeral.digit? 10 c = some d := by
  obtain ⟨hlow, hhigh⟩ := isDigit_iff.1 h
  have halpha : c.isAlpha = false := by
    have hstart := isIdentStart_of_isDigit h
    simp only [isIdentStart, Bool.or_eq_false_iff] at hstart
    exact hstart.1
  have hvalue : Numeral.decimalDigit? c = some (c.toNat - 48) := by
    have hzero : Numeral.zeros.find? (fun z => z ≤ c.toNat && c.toNat < z + 10) = some 48 := by
      change (48 :: Numeral.zeros.tail).find? _ = _
      exact List.find?_cons_of_pos (by simp only [Bool.and_eq_true, decide_eq_true_eq]; omega)
    simp [Numeral.decimalDigit?, hzero]
  have hsmall : c.toNat - 48 < 10 := by omega
  exact ⟨c.toNat - 48, by simp [Numeral.digit?, halpha, hvalue, hsmall]⟩

/-! ### The parts of a type -/

/-- The type and all types that it is made of. -/
def parts : TypeExpr → List TypeExpr
  | wrapped w arg => wrapped w arg :: arg.parts
  | slice m elem => slice m elem :: elem.parts
  | reference m target => reference m target :: target.parts
  | pointer m target => pointer m target :: target.parts
  | array elem length => array elem length :: elem.parts
  | t => [t]

/-- The lengths of all arrays in a type are words of the type. -/
theorem number_mem_words {t elem : TypeExpr} {digits : String}
    (h : .array elem digits ∈ t.parts) : .number digits ∈ t.words := by
  induction t with
  | wrapped _ _ ih | slice _ _ ih | reference _ _ ih | pointer _ _ ih =>
    exact ih (by simpa [parts] using h)
  | array inner length ih =>
    rcases List.mem_cons.1 h with heq | hmem
    · obtain ⟨-, rfl⟩ := TypeExpr.array.inj heq
      exact List.mem_cons_self
    · exact List.mem_cons_of_mem _ (ih hmem)
  | _ => simp [parts] at h

theorem infix_between (l s r : String) : s.toList <:+: (l ++ s ++ r).toList :=
  ⟨l.toList, r.toList, by simp only [String.toList_append]⟩

theorem infix_before (s r : String) : s.toList <:+: (s ++ r).toList :=
  ⟨[], r.toList, by rw [String.toList_append, List.nil_append]⟩

/-- The C++ text of a part stands in that of the whole. -/
theorem cpp_infix {table : NameTable} {t u : TypeExpr} (h : u ∈ t.parts) :
    (u.cpp table).toList <:+: (t.cpp table).toList := by
  induction t with
  | wrapped w inner ih =>
    rcases List.mem_cons.1 h with rfl | hu
    · exact List.infix_rfl
    · exact (ih hu).trans (infix_between _ _ _)
  | slice m inner ih =>
    rcases List.mem_cons.1 h with rfl | hu
    · exact List.infix_rfl
    · cases m <;> exact (ih hu).trans (infix_between _ _ _)
  | reference m inner ih =>
    rcases List.mem_cons.1 h with rfl | hu
    · exact List.infix_rfl
    · cases m <;> exact (ih hu).trans (infix_before _ _)
  | pointer m inner ih =>
    rcases List.mem_cons.1 h with rfl | hu
    · exact List.infix_rfl
    · cases m <;> exact (ih hu).trans (infix_before _ _)
  | array inner length ih =>
    rcases List.mem_cons.1 h with rfl | hu
    · exact List.infix_rfl
    · have hbefore := infix_between "::std::array<" (inner.cpp table) ", "
      have hlength := hbefore.trans (infix_before _ length)
      exact (ih hu).trans (hlength.trans (infix_before _ ">"))
  | _ =>
    obtain rfl := List.mem_singleton.1 h
    exact List.infix_rfl

mutual

/-- The tree and all trees that it is made of. -/
def Written.parts : Written → List Written
  | .unit => [.unit]
  | .str l => [.str l]
  | .slice l m elem => .slice l m elem :: elem.parts
  | .reference l m target => .reference l m target :: target.parts
  | .pointer m target => .pointer m target :: target.parts
  | .array elem length => .array elem length :: elem.parts
  | .path root segments => .path root segments :: segments.parts

def Segments.parts : Segments → List Written
  | .last _ args => allParts args
  | .next _ args rest => allParts args ++ rest.parts

def allParts : List Written → List Written
  | [] => []
  | a :: as => a.parts ++ allParts as

end

/-! ### The arrays in a type -/

section

variable {elem : TypeExpr} {digits : String} {ws vs : List Written}

/-- Among the trees is one of the array, with its length as written and its element as meant. -/
def HasArray (ws : List Written) (elem : TypeExpr) (digits : String) : Prop :=
  ∃ e : Written, .array e digits ∈ ws ∧ e.meaning? = some elem

theorem HasArray.mono (h : HasArray ws elem digits) (hws : ws ⊆ vs) :
    HasArray vs elem digits := by
  obtain ⟨e, he, helem⟩ := h
  exact ⟨e, hws he, helem⟩

theorem Segments.allParts_final_subset (p : Segments) : allParts p.final.2 ⊆ p.parts := by
  cases p with
  | last name args => exact List.Subset.refl _
  | next name args rest =>
    exact List.Subset.trans rest.allParts_final_subset (List.subset_append_right _ _)

/-- Each array in what a tree means is written in the tree. -/
theorem compositional_hasArray (elem : TypeExpr) (digits : String) :
    Compositional fun w t => .array elem digits ∈ t.parts → HasArray w.parts elem digits where
  unit := by simp [parts]
  str l := by simp [parts]
  slice l m _ ih h := (ih (by simpa [parts] using h)).mono (List.subset_cons_self _ _)
  reference l m _ ih h := (ih (by simpa [parts] using h)).mono (List.subset_cons_self _ _)
  pointer m _ ih h := (ih (by simpa [parts] using h)).mono (List.subset_cons_self _ _)
  array length hw ih h := by
    rcases List.mem_cons.1 h with heq | hmem
    · obtain ⟨rfl, rfl⟩ := TypeExpr.array.inj heq
      exact ⟨_, List.mem_cons_self, hw⟩
    · exact (ih hmem).mono (List.subset_cons_self _ _)
  path {p name as args t} root hp ih hresolves h := by
    -- Names mean no arrays by themselves, so the array comes from the argument.
    obtain ⟨arg, rfl, hmem⟩ : ∃ arg, args = [arg] ∧ .array elem digits ∈ arg.parts := by
      cases hresolves with
      | pinned _ => exact ⟨t, rfl, h⟩
      | wrapper arg _ => exact ⟨arg, rfl, by simpa [parts] using h⟩
      | builtin _ => simp [parts] at h
      | user _ => simp [parts] at h
    obtain ⟨a, as, ha, -, rfl⟩ := List.forall₂_cons_right_iff.1 ih
    have hargs : a.parts ⊆ allParts p.final.2 := by
      rw [hp]
      exact List.subset_append_left _ _
    have hparts := List.Subset.trans hargs p.allParts_final_subset
    exact (ha hmem).mono (List.Subset.trans hparts (List.subset_cons_self _ _))

end

/-! ### Lengths -/

/-- The number that digits denote in Rust. -/
def decimal? (digits : String) : Option Nat :=
  Numeral.natural? 10 digits.toList

/-- The number that digits denote in C++, where a zero at the front stands for base eight. -/
def cppLiteral? (digits : String) : Option Nat :=
  if digits.toList.head? = some '0' then Numeral.natural? 8 digits.toList else decimal? digits

theorem IsLength.exists_decimal? {digits : String} (h : IsLength digits) :
    ∃ n, decimal? digits = some n := by
  obtain ⟨x, xs, hxs⟩ := List.exists_cons_of_ne_nil h.ne
  have hdigits : ∀ y ∈ x :: xs, ∃ d, Numeral.digit? 10 y = some d :=
    fun y hy => exists_digit?_of_isDigit (h.isDigit y (hxs ▸ hy))
  unfold decimal?
  rw [hxs]
  exact Numeral.exists_continue? hdigits 0

/-- The two numbers are the same if and only if no zero is at the front or one digit would do. -/
theorem cppLiteral?_eq_iff {digits : String} {n : Nat} (h : decimal? digits = some n) :
    cppLiteral? digits = some n ↔ (digits.toList.head? = some '0' → n < 8) := by
  unfold cppLiteral?
  split
  next hzero =>
    obtain ⟨xs, hxs⟩ := List.head?_eq_some_iff.1 hzero
    unfold decimal? at h
    rw [hxs] at h ⊢
    have hoctal : Numeral.natural? 8 ('0' :: xs) = some n ↔ n < 8 :=
      Numeral.continue?_zero_eq_some_iff (by decide) (by decide) h
    simpa using hoctal
  next hzero => simp [h, hzero]

variable {table : NameTable} {s c : String}

/--
Every array in the C++ type of a text is one that is written in it, with the same digits for its
length. They denote the same number in both languages if and only if the first of them is not a zero
or the number is less than eight.
-/
theorem spell_array_length (h : spell table s = .ok c) :
    ∃ w t, Written.Writes w s ∧ w.meaning? = some t ∧ t.cpp table = c ∧
      ∀ elem digits, .array elem digits ∈ t.parts →
        HasArray w.parts elem digits ∧
        ("::std::array<" ++ elem.cpp table ++ ", " ++ digits ++ ">").toList <:+: c.toList ∧
        ∃ n, decimal? digits = some n ∧
          (cppLiteral? digits = some n ↔ (digits.toList.head? = some '0' → n < 8)) := by
  obtain ⟨w, t, hw, ht, rfl⟩ := spell_eq_ok_iff_writes.1 h
  refine ⟨w, t, hw, ht, rfl, fun elem digits hmem => ?_⟩
  have harray := (compositional_hasArray elem digits).of_meaning? ht hmem
  have hinfix : ((TypeExpr.array elem digits).cpp table).toList <:+: _ := cpp_infix hmem
  rw [cpp_array] at hinfix
  have hnumber := compositional_words.of_meaning? ht (number_mem_words hmem)
  obtain ⟨n, hn⟩ := (IsLength.of_tokens hw.tokens hnumber).exists_decimal?
  exact ⟨harray, hinfix, n, hn, cppLiteral?_eq_iff hn⟩

theorem spell_array_length_nested :
    spell {} "Vec<[[u8; 12]; 07]>" =
        .ok "::rust::Vec<::std::array<::std::array<::std::uint8_t, 12>, 07>>" ∧
      ∃ w t, Written.Writes w "Vec<[[u8; 12]; 07]>" ∧ w.meaning? = some t ∧
        t.cpp {} = "::rust::Vec<::std::array<::std::array<::std::uint8_t, 12>, 07>>" ∧
        ∀ elem digits, .array elem digits ∈ t.parts →
          HasArray w.parts elem digits ∧
          ("::std::array<" ++ elem.cpp {} ++ ", " ++ digits ++ ">").toList <:+:
            "::rust::Vec<::std::array<::std::array<::std::uint8_t, 12>, 07>>".toList ∧
          ∃ n, decimal? digits = some n ∧
            (cppLiteral? digits = some n ↔ (digits.toList.head? = some '0' → n < 8)) := by
  have hspell : spell {} "Vec<[[u8; 12]; 07]>" =
      .ok "::rust::Vec<::std::array<::std::array<::std::uint8_t, 12>, 07>>" := by cbv
  exact ⟨hspell, spell_array_length hspell⟩

/-- Ten elements in Rust are eight in C++, and `08` is not a number there at all. -/
theorem spell_octal_array :
    spell {} "[i32; 010]" = .ok "::std::array<::std::int32_t, 010>" ∧
      decimal? "010" = some 10 ∧ cppLiteral? "010" = some 8 ∧
      spell {} "[i32; 08]" = .ok "::std::array<::std::int32_t, 08>" ∧
      decimal? "08" = some 8 ∧ cppLiteral? "08" = none :=
  ⟨by cbv, by decide, by decide, by cbv, by decide, by decide⟩

end TypeExpr
end SignalBinding
