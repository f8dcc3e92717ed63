import SignalBinding.Proofs.Nesting
import SignalBinding.Proofs.TypeCharacters

/-!
# The C++ types of parameters are nested

What a type takes over from its Rust text are names and numbers, which have no brackets. All
brackets of its C++ text come from the forms of types, each of which closes what it opens, so it is
enough that the name table brings in none.

## Main definitions

- `NameTable.IsPlain`: a table without brackets
- `Token.IsPlain`: a token of which nothing with brackets gets into C++
-/

namespace SignalBinding

open TypeExpr

/-! ### Names -/

/-- No name and no namespace in the table has a bracket. -/
structure NameTable.IsPlain (table : NameTable) : Prop where
  renames : ∀ e ∈ table.renames.entries, PlainText e.2
  namespaces : ∀ e ∈ table.namespaces.entries, PlainText e.2

variable {table : NameTable} {name : String}

theorem NameTable.IsPlain.of_hasChar (htable : table.IsPlain) {x : Char} (h : table.HasChar x) :
    SignalBinding.IsPlain x := by
  obtain ⟨e, he, hx⟩ := h
  rcases List.mem_append.1 he with he | he
  · exact htable.renames e he x hx
  · exact htable.namespaces e he x hx

theorem NameTable.plain_cppName (htable : table.IsPlain) (hname : PlainText name) :
    PlainText (table.cppName name) := by
  intro x hx
  rcases mem_cppName hx with rfl | hx | hx
  · decide
  · exact hname x hx
  · exact htable.of_hasChar hx

/-! ### Types -/

namespace TypeExpr

theorem isPlain_of_isIdentRest {c : Char} (h : isIdentRest c) : IsPlain c := by
  constructor
  · unfold BracketKind.opens?
    split
    all_goals first
      | rfl
      | exact absurd h (by decide)
  · unfold BracketKind.closes?
    split
    all_goals first
      | rfl
      | exact absurd h (by decide)

/-- What of the token is written into C++ has no brackets. -/
def Token.IsPlain : Token → Prop
  | .ident name => PlainText name
  | .number digits => PlainText digits
  | _ => True

theorem Token.isPlain_of_word {t : Token} (h : ∀ x ∈ t.word, isIdentRest x = true) :
    t.IsPlain := by
  cases t with
  | ident name => exact fun x hx => isPlain_of_isIdentRest (h x hx)
  | number digits => exact fun x hx => isPlain_of_isIdentRest (h x hx)
  | _ => trivial

theorem isPlain_of_tokens {cs : List Char} {ts : List Token} (h : tokens cs = .ok ts) :
    ∀ t ∈ ts, t.IsPlain :=
  fun t ht => Token.isPlain_of_word (isIdentRest_of_tokens h t ht)

theorem Names.nested (htable : table.IsPlain) {args : List String} {c : String}
    (h : Names table name args c) (hname : PlainText name) (hargs : ∀ a ∈ args, NestedText a) :
    NestedText c := by
  cases h with
  | pinned => exact hargs c (by simp)
  | @wrapper _ w d hw =>
    have hopens : unclosed [] (w.cpp ++ "<").toList = some [.angle] := by cases w <;> rfl
    exact (hargs d (by simp)).between hopens rfl
  | @builtin _ b hb => cases b <;> decide
  | user => exact (NameTable.plain_cppName htable hname).nested

/-- If no name has a bracket, a C++ type has those of its type formers, and they are nested. -/
theorem Derives.nested (htable : table.IsPlain) {ts : List Token} {c : String}
    (h : Derives table ts c) (hts : ∀ t ∈ ts, t.IsPlain) : NestedText c := by
  induction h with
  | unit => decide
  | str l => decide
  | slice l _ ih =>
    have helem := ih fun t ht => hts t (by simp [ht])
    exact helem.between (l := "::rust::Slice<") (r := " const>") rfl rfl
  | sliceMut l _ ih =>
    have helem := ih fun t ht => hts t (by simp [ht])
    exact helem.between (l := "::rust::Slice<") (r := ">") rfl rfl
  | reference l _ _ _ ih => exact (ih fun t ht => hts t (by simp [ht])).append (by decide)
  | referenceMut l _ _ ih => exact (ih fun t ht => hts t (by simp [ht])).append (by decide)
  | pointer _ ih => exact (ih fun t ht => hts t (by simp [ht])).append (by decide)
  | pointerMut _ ih => exact (ih fun t ht => hts t (by simp [ht])).append (by decide)
  | @array ts c _ digits ih =>
    have helem := ih fun t ht => hts t (by simp [ht])
    have hlength : PlainText digits := hts (.number digits) (by simp)
    have hinner : NestedText (c ++ ", " ++ digits) :=
      (helem.append (by decide)).append hlength.nested
    have harray := hinner.between (l := "::std::array<") (r := ">") rfl rfl
    simpa only [String.append_assoc] using harray
  | path root outer last hname _ hlast ih =>
    have hsub : last.tokens ⊆ Segment.joined outer ++ last.tokens :=
      Segment.tokens_subset (by simp)
    have hlasts : ∀ t ∈ last.tokens, t.IsPlain := fun t ht => hts t (by
      rw [List.append_assoc]
      exact List.mem_append_right _ (hsub ht))
    refine hlast.nested htable (hlasts (.ident last.name) List.mem_cons_self) fun a ha => ?_
    obtain ⟨arg, harg, rfl⟩ := List.mem_map.1 ha
    exact ih last (by simp) arg harg fun t ht => hlasts t (Segment.args_subset harg ht)

theorem nested_spell (htable : table.IsPlain) {s c : String} (h : spell table s = .ok c) :
    NestedText c := by
  obtain ⟨ts, hts, hd⟩ := spell_eq_ok_iff.1 h
  exact hd.nested htable (isPlain_of_tokens hts)

end TypeExpr

end SignalBinding
