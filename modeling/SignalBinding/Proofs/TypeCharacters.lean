import SignalBinding.Proofs.TextEnds
import SignalBinding.Proofs.TokenBoundaries
import SignalBinding.Proofs.TypeNames

/-!
# The characters of C++ types

Blanks, lifetimes and brackets of a Rust type stay behind when it is spelled in C++. What gets
through are words of letters, digits and underscores; all else comes from the forms of types and
from the name table.

## Main definitions

- `Token.word`: the characters of a token that may get into C++
- `WrittenWith`: texts of words, of the punctuation of C++ types and of what a table has

## Main statement

- `writtenWith_spell`: the C++ type of any text is written with these
-/

namespace SignalBinding

theorem Glossary.mem_of_get? {g : Glossary} {name text : String} (h : g.get? name = some text) :
    (name, text) ∈ g.entries := by
  obtain ⟨before, after, hsplit, -⟩ := List.lookup_eq_some_iff.1 h
  rw [hsplit]
  simp

namespace NameTable

/-- The character stands in one of the table's C++ names or namespaces. -/
def HasChar (table : NameTable) (x : Char) : Prop :=
  ∃ e ∈ table.renames.entries ++ table.namespaces.entries, x ∈ e.2.toList

variable {table : NameTable} {name : String} {x : Char}

theorem mem_baseName (h : x ∈ (table.baseName name).toList) :
    x ∈ name.toList ∨ table.HasChar x := by
  unfold baseName at h
  cases hget : table.renames.get? name with
  | none => exact .inl (by simpa [hget] using h)
  | some text =>
    have hentry := List.mem_append_left table.namespaces.entries (Glossary.mem_of_get? hget)
    exact .inr ⟨_, hentry, by simpa [hget] using h⟩

theorem hasChar_of_namespaceOf? {ns : String} (hns : table.namespaceOf? name = some ns)
    (h : x ∈ ns.toList) : table.HasChar x := by
  unfold namespaceOf? at hns
  split at hns
  · cases hns
  next text htext =>
    have hentry := List.mem_append_right table.renames.entries (Glossary.mem_of_get? htext)
    split at hns
    · cases hns
    next d ds htrim =>
      cases hns
      rw [String.toList_ofList, ← htrim] at h
      exact ⟨_, hentry, (Text.isTrimmed_trim _ _).mem h⟩

/-- A C++ name is made of the name, of what the table has, and of colons. -/
theorem mem_cppName (h : x ∈ (table.cppName name).toList) :
    x = ':' ∨ x ∈ name.toList ∨ table.HasChar x := by
  unfold cppName at h
  cases hns : table.namespaceOf? name with
  | none =>
    rw [hns] at h
    exact .inr (mem_baseName h)
  | some ns =>
    simp only [hns, String.toList_append, List.mem_append] at h
    obtain ((hcolon | hx) | hcolon) | hbase := h
    · exact .inl (by simpa using hcolon)
    · exact .inr (.inr (hasChar_of_namespaceOf? hns hx))
    · exact .inl (by simpa using hcolon)
    · exact .inr (mem_baseName hbase)

end NameTable

namespace TypeExpr

/-! ### Words -/

/-- The characters of a token that may get into C++. -/
def Token.word : Token → List Char
  | .ident name => name.toList
  | .number digits => digits.toList
  | _ => []

theorem all_run (p : Char → Bool) (cs : List Char) : ∀ x ∈ (run p cs).1.toList, p x = true := by
  intro x hx
  rw [run, String.toList_ofList] at hx
  exact List.all_eq_true.1 List.all_takeWhile x hx

theorem isIdentRest_of_lexeme? {c : Char} {cs rest : List Char} {t : Token}
    (h : lexeme? c cs = some (t, rest)) : ∀ x ∈ t.word, isIdentRest x = true := by
  unfold lexeme? at h
  split at h
  · split at h
    · split at h
      · cases h
        simp [Token.word]
      · cases h
    · cases h
  · split at h
    · cases h
      exact all_run isIdentRest _
    · split at h
      · cases h
        intro x hx
        simp [isIdentRest, all_run Char.isDigit _ x hx]
      · split at h
        · split at h
          · cases h
            simp [Token.word]
          · cases h
        · obtain ⟨u, hu, h⟩ := Option.map_eq_some_iff.1 h
          cases h
          unfold punctuation? at hu
          split at hu
          all_goals cases hu
          all_goals simp [Token.word]

theorem isIdentRest_of_tokens {cs : List Char} {ts : List Token} (h : tokens cs = .ok ts) :
    ∀ t ∈ ts, ∀ x ∈ t.word, isIdentRest x = true :=
  forall_mem_of_tokens (fun _ _ _ _ hlexeme => isIdentRest_of_lexeme? hlexeme) h

/-! ### Types -/

/-- A character of words, or one that the forms of types put around them. -/
def isTypeChar (x : Char) : Bool :=
  isIdentRest x || [':', '<', '>', '&', '*', ',', ' '].contains x

/-- The text has characters of types and of the table's texts, and no others. -/
def WrittenWith (table : NameTable) (s : String) : Prop :=
  ∀ x ∈ s.toList, isTypeChar x = true ∨ table.HasChar x

variable {table : NameTable} {name c s t : String}

namespace WrittenWith

theorem append (hs : WrittenWith table s) (ht : WrittenWith table t) :
    WrittenWith table (s ++ t) := by
  intro x hx
  rw [String.toList_append, List.mem_append] at hx
  exact hx.elim (hs x) (ht x)

/-- What the forms of types write themselves. -/
theorem fixed (h : s.toList.all isTypeChar = true) : WrittenWith table s :=
  fun x hx => .inl (List.all_eq_true.1 h x hx)

theorem word (h : ∀ x ∈ s.toList, isIdentRest x = true) : WrittenWith table s :=
  fun x hx => .inl (by simp [isTypeChar, h x hx])

theorem between (hs : WrittenWith table s) {l r : String} (hl : l.toList.all isTypeChar = true)
    (hr : r.toList.all isTypeChar = true) : WrittenWith table (l ++ s ++ r) :=
  ((fixed hl).append hs).append (fixed hr)

end WrittenWith

theorem writtenWith_cppName (hname : ∀ x ∈ name.toList, isIdentRest x = true) :
    WrittenWith table (table.cppName name) := by
  intro x hx
  rcases NameTable.mem_cppName hx with rfl | hx | hx
  · exact .inl rfl
  · exact WrittenWith.word hname x hx
  · exact .inr hx

theorem Names.writtenWith {args : List String} (h : Names table name args c)
    (hname : ∀ x ∈ name.toList, isIdentRest x = true)
    (hargs : ∀ a ∈ args, WrittenWith table a) : WrittenWith table c := by
  cases h with
  | pinned => exact hargs c (by simp)
  | @wrapper _ w d hw =>
    have hopens : (w.cpp ++ "<").toList.all isTypeChar = true := by cases w <;> decide
    exact (hargs d (by simp)).between hopens rfl
  | @builtin _ b hb => exact .fixed (by cases b <;> decide)
  | user => exact writtenWith_cppName hname

/-- Every rule puts characters of types around what its parts are written with. -/
theorem Derives.writtenWith {ts : List Token} (h : Derives table ts c)
    (hts : ∀ t ∈ ts, ∀ x ∈ t.word, isIdentRest x = true) : WrittenWith table c := by
  induction h with
  | unit => exact .fixed rfl
  | str l => exact .fixed rfl
  | slice l _ ih => exact (ih fun t ht => hts t (by simp [ht])).between rfl rfl
  | sliceMut l _ ih => exact (ih fun t ht => hts t (by simp [ht])).between rfl rfl
  | reference l _ _ _ ih => exact (ih fun t ht => hts t (by simp [ht])).append (.fixed rfl)
  | referenceMut l _ _ ih => exact (ih fun t ht => hts t (by simp [ht])).append (.fixed rfl)
  | pointer _ ih => exact (ih fun t ht => hts t (by simp [ht])).append (.fixed rfl)
  | pointerMut _ ih => exact (ih fun t ht => hts t (by simp [ht])).append (.fixed rfl)
  | @array ts c _ digits ih =>
    have helem := (ih fun t ht => hts t (by simp [ht])).between (l := "::std::array<")
      (r := ", ") rfl rfl
    have hlength : WrittenWith table digits := .word (hts (.number digits) (by simp))
    exact (helem.append hlength).append (.fixed rfl)
  | path root outer last hname _ hlast ih =>
    have hsub : last.tokens ⊆ Segment.joined outer ++ last.tokens :=
      Segment.tokens_subset (by simp)
    have hlasts : ∀ t ∈ last.tokens, ∀ x ∈ t.word, isIdentRest x = true := fun t ht => hts t (by
      rw [List.append_assoc]
      exact List.mem_append_right _ (hsub ht))
    refine hlast.writtenWith (hlasts (.ident last.name) List.mem_cons_self) fun a ha => ?_
    obtain ⟨arg, harg, rfl⟩ := List.mem_map.1 ha
    exact ih last (by simp) arg harg fun t ht => hlasts t (Segment.args_subset harg ht)

/-- No character of a Rust type but those of its words gets into its C++ type. -/
theorem writtenWith_spell (h : spell table s = .ok c) : WrittenWith table c := by
  obtain ⟨ts, hts, hd⟩ := spell_eq_ok_iff.1 h
  exact hd.writtenWith (isIdentRest_of_tokens hts)

end TypeExpr

end SignalBinding
