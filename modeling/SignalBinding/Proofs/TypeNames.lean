import SignalBinding.Proofs.TypeCompleteness

/-!
# The names in a type

A type has at most one name that a name table may change: types have one part each, and a path means
what its last segment means. The C++ text of a type depends on a table through that name alone.

## Main definitions

- `Wrapper.ident`, `Builtin.ident`: the names of what has a meaning of its own
- `userName?`: the name in a type that a table may change
- `IsUserName`: the names that a table is asked about at all
-/

namespace SignalBinding

def Wrapper.ident : Wrapper → String
  | box => "Box"
  | cxxVector => "CxxVector"
  | sharedPtr => "SharedPtr"
  | uniquePtr => "UniquePtr"
  | vec => "Vec"
  | weakPtr => "WeakPtr"

@[simp] theorem Wrapper.ofIdent?_ident (w : Wrapper) : Wrapper.ofIdent? w.ident = some w := by
  cases w <;> rfl

theorem Wrapper.ident_eq_of_ofIdent? {name : String} {w : Wrapper}
    (h : Wrapper.ofIdent? name = some w) : w.ident = name := by
  unfold Wrapper.ofIdent? at h
  split at h <;> cases h <;> rfl

def Builtin.ident : Builtin → String
  | bool => "bool"
  | cChar => "c_char"
  | char => "char"
  | f32 => "f32"
  | f64 => "f64"
  | i8 => "i8"
  | i16 => "i16"
  | i32 => "i32"
  | i64 => "i64"
  | isize => "isize"
  | u8 => "u8"
  | u16 => "u16"
  | u32 => "u32"
  | u64 => "u64"
  | usize => "usize"
  | string => "String"
  | cxxString => "CxxString"

theorem Builtin.ident_eq_of_ofIdent? {name : String} {b : Builtin}
    (h : Builtin.ofIdent? name = some b) : b.ident = name := by
  unfold Builtin.ofIdent? at h
  split at h <;> cases h <;> rfl

namespace TypeExpr

variable {table table' : NameTable} {ts : List Token} {c name : String}

/-- The user's type inside the type, if there is one. -/
def userName? : TypeExpr → Option String
  | unit => none
  | str => none
  | builtin _ => none
  | named ident => some ident
  | wrapped _ arg => arg.userName?
  | slice _ elem => elem.userName?
  | reference _ target => target.userName?
  | pointer _ target => target.userName?
  | array elem _ => elem.userName?

/-- Two tables spell a type alike if and only if they name the user's type in it alike. -/
theorem cpp_eq_iff {t : TypeExpr} :
    t.cpp table = t.cpp table' ↔
      ∀ i, t.userName? = some i → table.cppName i = table'.cppName i := by
  induction t with
  | unit => simp [userName?]
  | str => simp [userName?]
  | builtin b => simp [userName?]
  | named ident => simp [userName?]
  | wrapped w arg ih => simp [userName?, ← ih, String.append_left_inj, String.append_right_inj]
  | slice m elem ih =>
    cases m <;> simp [userName?, ← ih, String.append_left_inj, String.append_right_inj]
  | reference m target ih => cases m <;> simp [userName?, ← ih, String.append_left_inj]
  | pointer m target ih => cases m <;> simp [userName?, ← ih, String.append_left_inj]
  | array elem length ih =>
    simp [userName?, ← ih, String.append_left_inj, String.append_right_inj]

/-- A name without a meaning of its own. -/
structure IsUserName (name : String) : Prop where
  pin : name ≠ "Pin"
  str : name ≠ "str"
  wrapper : Wrapper.ofIdent? name = none
  builtin : Builtin.ofIdent? name = none

/-! ### Tables that agree on what is written -/

/-- The tables agree on the user's names among the tokens. -/
def Agree (table table' : NameTable) (ts : List Token) : Prop :=
  ∀ i, IsUserName i → .ident i ∈ ts → table.cppName i = table'.cppName i

theorem Agree.mono {us : List Token} (h : Agree table table' ts) (hus : us ⊆ ts) :
    Agree table table' us :=
  fun i hi hmem => h i hi (hus hmem)

theorem Names.transport {args : List String} (h : Names table name args c)
    (hagree : Agree table table' [.ident name]) : Names table' name args c := by
  cases h with
  | pinned => exact .pinned c
  | wrapper c hw => exact .wrapper c hw
  | builtin hb => exact .builtin hb
  | user hpin hstr hw hb =>
    rw [hagree name ⟨hpin, hstr, hw, hb⟩ (by simp)]
    exact .user hpin hstr hw hb

namespace Segment

theorem args_subset {s : Segment} {a : List Token × String} (ha : a ∈ s.args) :
    a.1 ⊆ s.tokens := by
  obtain ⟨name, args⟩ := s
  cases args with
  | nil => simp at ha
  | cons b bs =>
    intro t ht
    rcases List.mem_cons.1 ha with rfl | ha
    · simp [tokens, argTokens, ht]
    · simp only [tokens, argTokens, List.mem_cons, List.mem_append, List.mem_flatMap]
      exact .inr (.inl (.inr (.inr ⟨a, ha, by simp [ht]⟩)))

theorem tokens_subset {outer : List Segment} {last s : Segment} (hs : s ∈ outer ++ [last]) :
    s.tokens ⊆ joined outer ++ last.tokens := by
  intro t ht
  rcases List.mem_append.1 hs with hs | hs
  · refine List.mem_append_left _ (List.mem_flatMap.2 ⟨s, hs, ?_⟩)
    exact List.mem_append_left _ ht
  · obtain rfl := List.mem_singleton.1 hs
    exact List.mem_append_right _ ht

end Segment

/-- A derivation uses nothing of a table but the user's names that are written. -/
theorem Derives.transport (h : Derives table ts c) (hagree : Agree table table' ts) :
    Derives table' ts c := by
  induction h with
  | unit => exact .unit
  | str l => exact .str l
  | slice l _ ih => exact .slice l (ih (hagree.mono fun t ht => by simp [ht]))
  | sliceMut l _ ih => exact .sliceMut l (ih (hagree.mono fun t ht => by simp [ht]))
  | reference l _ hslice hstr ih =>
    exact .reference l (ih (hagree.mono fun t ht => by simp [ht])) hslice hstr
  | referenceMut l _ hslice ih =>
    exact .referenceMut l (ih (hagree.mono fun t ht => by simp [ht])) hslice
  | pointer _ ih => exact .pointer (ih (hagree.mono fun t ht => by simp [ht]))
  | pointerMut _ ih => exact .pointerMut (ih (hagree.mono fun t ht => by simp [ht]))
  | array _ digits ih => exact .array (ih (hagree.mono fun t ht => by simp [ht])) digits
  | path root outer last hname _ hlast ih =>
    have hpath : Agree table table' (Segment.joined outer ++ last.tokens) :=
      hagree.mono (by simp [List.append_assoc])
    refine .path root outer last hname (fun s hs a ha => ?_) (hlast.transport (hpath.mono ?_))
    · exact ih s hs a ha
        (hpath.mono (List.Subset.trans (Segment.args_subset ha) (Segment.tokens_subset hs)))
    · simp [Segment.tokens]

/-- A type that can be read names no more than one of the user's types, which is written in it. -/
theorem isUserName_of_ofText {s : String} {t : TypeExpr} {i : String} (h : ofText s = .ok t)
    (hi : t.userName? = some i) :
    IsUserName i ∧ ∃ ts, tokens s.toList = .ok ts ∧ .ident i ∈ ts := by
  have hspell (table : NameTable) : spell table s = .ok (t.cpp table) := by rw [spell, h]
  obtain ⟨ts, hts, hd⟩ := spell_eq_ok_iff.1 (hspell {})
  suffices hmem : IsUserName i ∧ .ident i ∈ ts from ⟨hmem.1, ts, hts, hmem.2⟩
  -- Otherwise a table with another name for `i` alone would spell the type as no table does.
  refine Classical.byContradiction fun hnot => ?_
  let marked : NameTable := { renames := Glossary.empty.insert i (i ++ "_") }
  have hmarked (j : String) : marked.cppName j = if j = i then i ++ "_" else j := by
    change ((Glossary.empty.insert i (i ++ "_")).get? j).getD j = _
    rw [Glossary.get?_insert]
    split <;> rfl
  have hagree : Agree {} marked ts := by
    intro j hj hmem
    have hne : j ≠ i := fun hji => hnot ⟨hji ▸ hj, hji ▸ hmem⟩
    rw [hmarked, if_neg hne]
    rfl
  have hsame : t.cpp {} = t.cpp marked := by
    have hok := spell_eq_ok_iff.2 ⟨ts, hts, hd.transport hagree⟩
    rw [hspell marked] at hok
    exact (Except.ok.inj hok).symm
  have hlength := congrArg String.length (cpp_eq_iff.1 hsame i hi)
  rw [hmarked, if_pos rfl, String.length_append] at hlength
  change i.length = i.length + 1 at hlength
  omega

end TypeExpr

end SignalBinding
