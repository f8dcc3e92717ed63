import Mathlib
import SignalBinding.Proofs.TypeNames
import SignalBinding.Proofs.TokenBoundaries

/-!
# Types made of types

The ways to make a type out of another one, each with its text in Rust and in C++. Any type may
stand in any of them, but for one thing: behind an ampersand, a bracket is taken for that of a slice
and `str` for a type of its own, so a type that starts with these can not be referred to.

## Main definitions

- `Former`: the ways to make a type out of another one
- `Former.write`, `Former.cpp`: the text of the type that is made, in Rust and in C++
- `Former.Takes`: the types that it can be made out of

## Main statements

- `Former.spell_write`: the C++ type of a type that is made out of another one
- `Former.spell_foldr_write`: the same for types nested to any depth
-/

namespace SignalBinding.TypeExpr

/-- A way to make a type out of another one. -/
inductive Former
  | reference (mutable : Bool)
  | pointer (mutable : Bool)
  | slice (mutable : Bool)
  | array (digits : String) (h : IsLength digits)
  | pinned
  | wrapped (w : Wrapper)

namespace Former

/-- How the type that is made out of the one written `s` is written. -/
def write : Former → String → String
  | reference false, s => "&" ++ s
  | reference true, s => "&mut " ++ s
  | pointer false, s => "*const " ++ s
  | pointer true, s => "*mut " ++ s
  | slice false, s => "&[" ++ s ++ "]"
  | slice true, s => "&mut [" ++ s ++ "]"
  | array digits _, s => "[" ++ s ++ "; " ++ digits ++ "]"
  | pinned, s => "Pin<" ++ s ++ ">"
  | wrapped w, s => w.ident ++ "<" ++ s ++ ">"

/-- What the type that is made is in C++, if the other one is `c`. -/
def cpp : Former → String → String
  | reference false, c => c ++ " const&"
  | reference true, c => c ++ "&"
  | pointer false, c => c ++ " const*"
  | pointer true, c => c ++ "*"
  | slice false, c => "::rust::Slice<" ++ c ++ " const>"
  | slice true, c => "::rust::Slice<" ++ c ++ ">"
  | array digits _, c => "::std::array<" ++ c ++ ", " ++ digits ++ ">"
  | pinned, c => c
  | wrapped w, c => w.cpp ++ "<" ++ c ++ ">"

/-- The tokens around those of the other type. -/
def tokens : Former → List Token → List Token
  | reference false, ts => .amp :: ts
  | reference true, ts => .amp :: .ident "mut" :: ts
  | pointer false, ts => .star :: .ident "const" :: ts
  | pointer true, ts => .star :: .ident "mut" :: ts
  | slice false, ts => .amp :: .lbracket :: (ts ++ [.rbracket])
  | slice true, ts => .amp :: .ident "mut" :: .lbracket :: (ts ++ [.rbracket])
  | array digits _, ts => .lbracket :: (ts ++ [.semicolon, .number digits, .rbracket])
  | pinned, ts => .ident "Pin" :: .less :: (ts ++ [.greater])
  | wrapped w, ts => .ident w.ident :: .less :: (ts ++ [.greater])

section

variable {cs : List Char} {ts : List Token}

theorem tokens_closed {c : Char} {t : Token} (h : TypeExpr.tokens cs = .ok ts)
    (hc : isIdentRest c = false) (ht : TypeExpr.tokens [c] = .ok [t]) :
    TypeExpr.tokens (cs ++ [c]) = .ok (ts ++ [t]) :=
  tokens_append h (breaks_cons hc) ht

/-- A word before a text, with a blank between them. -/
theorem tokens_word {word : List Char} {us : List Token} (hword : TypeExpr.tokens word = .ok us)
    (h : TypeExpr.tokens cs = .ok ts) : TypeExpr.tokens (word ++ ' ' :: cs) = .ok (us ++ ts) :=
  tokens_append hword (breaks_cons rfl) ((tokens_blank_cons rfl).trans h)

theorem tokens_angled {name : List Char} {t : Token} (hname : TypeExpr.tokens name = .ok [t])
    (h : TypeExpr.tokens cs = .ok ts) :
    TypeExpr.tokens (name ++ '<' :: (cs ++ ['>'])) = .ok (t :: .less :: (ts ++ [.greater])) := by
  have hinner := tokens_closed h (c := '>') (t := .greater) rfl (by cbv)
  refine tokens_append hname (breaks_cons rfl) ?_
  rw [tokens_cons rfl rfl, hinner]
  rfl

theorem tokens_bracketed (h : TypeExpr.tokens cs = .ok ts) :
    TypeExpr.tokens ('[' :: (cs ++ [']'])) = .ok (.lbracket :: (ts ++ [.rbracket])) := by
  have hinner := tokens_closed h (c := ']') (t := .rbracket) rfl (by cbv)
  rw [tokens_cons rfl rfl, hinner]
  rfl

theorem tokens_sized {digits : String} (hdigits : IsLength digits)
    (h : TypeExpr.tokens cs = .ok ts) :
    TypeExpr.tokens ('[' :: (cs ++ ';' :: ' ' :: (digits.toList ++ [']']))) =
      .ok (.lbracket :: (ts ++ [.semicolon, .number digits, .rbracket])) := by
  have hlength := tokens_closed hdigits.tokens_eq (c := ']') (t := .rbracket) rfl (by cbv)
  have hafter : TypeExpr.tokens (';' :: ' ' :: (digits.toList ++ [']'])) =
      .ok [.semicolon, .number digits, .rbracket] := by
    rw [tokens_cons rfl rfl, tokens_blank_cons rfl, hlength]
    rfl
  rw [tokens_cons rfl rfl, tokens_append h (breaks_cons rfl) hafter]
  rfl

end

theorem tokens_write (f : Former) {s : String} {ts : List Token}
    (h : TypeExpr.tokens s.toList = .ok ts) :
    TypeExpr.tokens (f.write s).toList = .ok (f.tokens ts) := by
  have hamp : TypeExpr.tokens ('&' :: s.toList) = .ok (.amp :: ts) := by
    rw [tokens_cons rfl rfl, h]
    rfl
  have hmut : TypeExpr.tokens "&mut".toList = .ok [.amp, .ident "mut"] := by cbv
  cases f with
  | reference m =>
    cases m with
    | false => simpa [write, tokens] using hamp
    | true => simpa [write, tokens] using tokens_word hmut h
  | pointer m =>
    cases m with
    | false =>
      have hconst : TypeExpr.tokens "*const".toList = .ok [.star, .ident "const"] := by cbv
      simpa [write, tokens] using tokens_word hconst h
    | true =>
      have hstar : TypeExpr.tokens "*mut".toList = .ok [.star, .ident "mut"] := by cbv
      simpa [write, tokens] using tokens_word hstar h
  | slice m =>
    cases m with
    | false =>
      have hslice : TypeExpr.tokens ('&' :: '[' :: (s.toList ++ [']'])) =
          .ok (.amp :: .lbracket :: (ts ++ [.rbracket])) := by
        rw [tokens_cons rfl rfl, tokens_bracketed h]
        rfl
      simpa [write, tokens] using hslice
    | true => simpa [write, tokens] using tokens_word hmut (tokens_bracketed h)
  | array digits hdigits => simpa [write, tokens] using tokens_sized hdigits h
  | pinned =>
    have hpin : TypeExpr.tokens "Pin".toList = .ok [.ident "Pin"] := by cbv
    simpa [write, tokens] using tokens_angled hpin h
  | wrapped w =>
    have hname : TypeExpr.tokens w.ident.toList = .ok [.ident w.ident] := by cases w <;> cbv
    simpa [write, tokens] using tokens_angled hname h

/-! ### What the types that are made are in C++ -/

/-- The text starts with the token. -/
def StartsWith (s : String) (t : Token) : Prop :=
  ∃ ts, TypeExpr.tokens s.toList = .ok (t :: ts)

/-- The tokens that mean something else behind an ampersand than at the start of a type. -/
def barred : Former → List Token
  | reference false => [.lbracket, .ident "str"]
  | reference true => [.lbracket]
  | _ => []

/-- A type can be made out of the one written `s`. -/
def Takes (f : Former) (s : String) : Prop :=
  ∀ t ∈ f.barred, ¬ StartsWith s t

variable {table : NameTable} {s c d : String} {ts us : List Token} {t : Token}

theorem takes_iff (f : Former) (hs : TypeExpr.tokens s.toList = .ok ts) :
    f.Takes s ↔ ∀ t ∈ f.barred, ts.head? ≠ some t := by
  simp [Takes, StartsWith, hs, List.head?_eq_some_iff]

/-- Each way to make a type is one of the rules of the grammar. -/
theorem derives (f : Former) (h : Derives table ts c) (hts : ∀ t ∈ f.barred, ts.head? ≠ some t) :
    Derives table (f.tokens ts) (f.cpp c) := by
  cases f with
  | reference m =>
    cases m with
    | false => exact .reference none h (hts _ (by simp [barred])) (hts _ (by simp [barred]))
    | true => exact .referenceMut none h (hts _ (by simp [barred]))
  | pointer m =>
    cases m with
    | false => exact .pointer h
    | true => exact .pointerMut h
  | slice m =>
    cases m with
    | false => exact .slice none h
    | true => exact .sliceMut none h
  | array digits _ => exact .array h digits
  | pinned => exact .of_applied (by decide) h (.pinned c)
  | wrapped w =>
    have hreserved : isReserved w.ident = false := by cases w <;> decide
    exact .of_applied hreserved h (.wrapper c w.ofIdent?_ident)

/-! ### What can not be referred to -/

/-- Behind an ampersand, the bracket of an array is taken for that of a slice. -/
theorem not_derives_bracket (m : Bool) (h : Derives table (.lbracket :: us) c) :
    ¬ Derives table ((reference m).tokens (.lbracket :: us)) d := by
  intro hslice
  obtain ⟨t, ht, -⟩ := exists_ofTokens_iff.2 h
  obtain ⟨t', ht', -⟩ := exists_ofTokens_iff.2 hslice
  obtain ⟨elem, digits, helem, -⟩ := yields_array_iff.1 (ofTokens_eq_ok_iff.1 ht)
  obtain ⟨elem', helem'⟩ : ∃ elem', Yields (parse us) elem' [.rbracket] := by
    cases m with
    | false =>
      have hamp : afterAmp (.lbracket :: us) = (false, .lbracket :: us) := rfl
      obtain ⟨elem', helem', -⟩ := (yields_slice_iff hamp).1 (ofTokens_eq_ok_iff.1 ht')
      exact ⟨elem', helem'⟩
    | true =>
      have hamp : afterAmp (.ident "mut" :: .lbracket :: us) = (true, .lbracket :: us) := rfl
      obtain ⟨elem', helem', -⟩ := (yields_slice_iff hamp).1 (ofTokens_eq_ok_iff.1 ht')
      exact ⟨elem', helem'⟩
  -- The element is read alike in both, and then comes either its number or the end.
  have hrest := (helem.unique helem').2
  simp at hrest

/-- Behind an ampersand, `str` is a type of its own. -/
theorem not_derives_str (h : Derives table (.ident "str" :: us) c) :
    ¬ Derives table ((reference false).tokens (.ident "str" :: us)) d := by
  intro hstr
  obtain ⟨t, ht, -⟩ := exists_ofTokens_iff.2 h
  obtain ⟨t', ht', -⟩ := exists_ofTokens_iff.2 hstr
  have hamp : afterAmp (.ident "str" :: us) = (false, .ident "str" :: us) := rfl
  obtain ⟨-, rfl⟩ := (yields_str_iff hamp).1 (ofTokens_eq_ok_iff.1 ht')
  -- Then nothing follows in the other text either, and `str` alone is no type.
  have halone : ofTokens [.ident "str"] = .error .bareStr := by cbv
  cases halone.symm.trans ht

theorem not_derives (f : Former) (h : Derives table (t :: us) c) (ht : t ∈ f.barred) :
    ¬ Derives table (f.tokens (t :: us)) d := by
  cases f with
  | reference m =>
    by_cases hbracket : t = .lbracket
    · subst hbracket
      exact not_derives_bracket m h
    · cases m with
      | false =>
        obtain rfl : t = .ident "str" := by simpa [barred, hbracket] using ht
        exact not_derives_str h
      | true => exact absurd (by simpa [barred] using ht) hbracket
  | _ => simp [barred] at ht

/-- Nothing that is made starts with what is barred elsewhere, apart from arrays. -/
theorem head?_tokens_iff (f g : Former) :
    (∀ t ∈ f.barred, (g.tokens ts).head? ≠ some t) ↔
      ∀ m digits hdigits, f = reference m → g ≠ array digits hdigits := by
  cases f with
  | reference m =>
    have hstr (w : Wrapper) : w.ident ≠ "str" := by cases w <;> decide
    cases g with
    | array digits hdigits => cases m <;> simp [barred, tokens, hdigits]
    | wrapped w => cases m <;> simp [barred, tokens, hstr]
    | reference m' | pointer m' | slice m' => cases m <;> cases m' <;> simp [barred, tokens]
    | pinned => cases m <;> simp [barred, tokens]
  | _ => simp [barred]

/-! ### Texts -/

theorem spell_of_takes (f : Former) (h : spell table s = .ok c) (hs : f.Takes s) :
    spell table (f.write s) = .ok (f.cpp c) := by
  obtain ⟨ts, hts, hd⟩ := spell_eq_ok_iff.1 h
  exact spell_eq_ok_iff.2 ⟨_, f.tokens_write hts, f.derives hd ((f.takes_iff hts).1 hs)⟩

theorem exists_fault_of_not_takes (f : Former) (h : spell table s = .ok c) (hs : ¬ f.Takes s) :
    ∃ fault, spell table (f.write s) = .error { source := f.write s, fault } := by
  obtain ⟨ts, hts, hd⟩ := spell_eq_ok_iff.1 h
  simp only [f.takes_iff hts, not_forall, not_not, exists_prop] at hs
  obtain ⟨t, ht, hhead⟩ := hs
  obtain ⟨us, rfl⟩ := List.head?_eq_some_iff.1 hhead
  cases hspell : spell table (f.write s) with
  | error e =>
    have hsource := source_of_spell_error hspell
    exact ⟨e.fault, by rw [← hsource]⟩
  | ok d =>
    obtain ⟨vs, hvs, hderives⟩ := spell_eq_ok_iff.1 hspell
    obtain rfl := Except.ok.inj (hvs.symm.trans (f.tokens_write hts))
    exact absurd hderives (f.not_derives hd ht)

theorem takes_write_iff (f g : Former) (hs : TypeExpr.tokens s.toList = .ok ts) :
    f.Takes (g.write s) ↔ ∀ m digits hdigits, f = reference m → g ≠ array digits hdigits := by
  rw [f.takes_iff (g.tokens_write hs)]
  exact f.head?_tokens_iff g

theorem tokens_foldr_write (fs : List Former) (hs : TypeExpr.tokens s.toList = .ok ts) :
    TypeExpr.tokens (fs.foldr write s).toList = .ok (fs.foldr tokens ts) := by
  induction fs with
  | nil => exact hs
  | cons f fs ih => exact f.tokens_write ih

/--
Types made one out of the other, the last one out of the type written `s`. They may be nested to any
depth, as long as no array stands right behind an ampersand.
-/
theorem spell_foldr_write {fs : List Former} (h : spell table s = .ok c)
    (hfs : fs.IsChain fun f g => ∀ m digits hdigits, f = reference m → g ≠ array digits hdigits)
    (hs : ∀ f ∈ fs.getLast?, f.Takes s) :
    spell table (fs.foldr write s) = .ok (fs.foldr cpp c) := by
  induction fs with
  | nil => exact h
  | cons f fs ih =>
    cases fs with
    | nil => exact f.spell_of_takes h (hs f rfl)
    | cons g fs =>
      obtain ⟨hfg, hgs⟩ := List.isChain_cons_cons.1 hfs
      obtain ⟨ts, hts, -⟩ := spell_eq_ok_iff.1 h
      have htakes : f.Takes (g.write (fs.foldr write s)) :=
        (f.takes_write_iff g (tokens_foldr_write fs hts)).2 hfg
      exact f.spell_of_takes (ih hgs (by simpa using hs)) htakes

/--
Each way to make a type out of another one gives the C++ type that goes with it, for all types but
these: a text that starts with a bracket, and so is an array, can not stand behind `&` or `&mut`,
and one that starts with `str` can not stand behind `&`. What is made in any of these ways may be
put to any use again, except that arrays are not referred to.
-/
theorem spell_write (f : Former) (h : spell table s = .ok c) :
    (f.Takes s → spell table (f.write s) = .ok (f.cpp c)) ∧
      (¬ f.Takes s → ∃ fault, spell table (f.write s) = .error { source := f.write s, fault }) ∧
      ∀ g : Former, f.Takes (g.write s) ↔
        ∀ m digits hdigits, f = reference m → g ≠ array digits hdigits := by
  obtain ⟨ts, hts, -⟩ := spell_eq_ok_iff.1 h
  exact ⟨f.spell_of_takes h, f.exists_fault_of_not_takes h, fun g => f.takes_write_iff g hts⟩

theorem spell_write_pointers :
    spell {} "*mut Vec<&str>" = .ok "::rust::Vec<::rust::Str>*" ∧
      Takes (.reference true) "*mut Vec<&str>" ∧
      spell {} "&mut *mut Vec<&str>" = .ok "::rust::Vec<::rust::Str>*&" := by
  have hspell : spell {} "*mut Vec<&str>" = .ok "::rust::Vec<::rust::Str>*" := by cbv
  have htokens : TypeExpr.tokens "*mut Vec<&str>".toList =
      .ok [.star, .ident "mut", .ident "Vec", .less, .amp, .ident "str", .greater] := by cbv
  have htakes : Takes (.reference true) "*mut Vec<&str>" :=
    (takes_iff _ htokens).2 (by simp [barred])
  exact ⟨hspell, htakes, (spell_write (.reference true) hspell).1 htakes⟩

/-- Arrays can be used in all other ways, but a reference to one is refused. -/
theorem spell_reference_array :
    spell {} "[i32; 4]" = .ok "::std::array<::std::int32_t, 4>" ∧
      spell {} "*const [i32; 4]" = .ok "::std::array<::std::int32_t, 4> const*" ∧
      spell {} "&[i32; 4]" =
        .error { source := "&[i32; 4]", fault := .mismatch .rbracket .semicolon } :=
  ⟨by cbv, by cbv, by cbv⟩

end Former

end SignalBinding.TypeExpr
