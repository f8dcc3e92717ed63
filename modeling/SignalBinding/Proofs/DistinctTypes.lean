import Mathlib
import SignalBinding.Proofs.GenericArguments
import SignalBinding.Proofs.NormalTypes
import SignalBinding.Proofs.TextEnds
import SignalBinding.Proofs.TypeCharacters

/-!
# Different types are different in C++

What a C++ type ends with, and what stands before its first angle bracket, tell how it was made. No
C++ type ends with `const`, so it is also seen what may be changed, and the type is found again part
by part. Only the user's types may be mistaken for others, if they have the name of one in C++.

## Main definitions

- `Legible`: types that are found again in their C++ text
- `shapeOf`: how a C++ type was made

## Main statements

- `cpp_injective`: no two types have the same C++ text
- `spell_eq_iff_normal_eq`: texts have the same C++ type if and only if their normal forms are equal
-/

namespace SignalBinding.TypeExpr

variable {table : NameTable} {c d head i : String} {m m' : Bool} {t u : TypeExpr}

/-- Names of types in C++ that are no names of types in Rust. -/
def cppOnlyNames : List String :=
  ["void", "float", "double", "char32_t"]

/-- The words in the type are words indeed, and no name in it is that of another type in C++. -/
structure Legible (t : TypeExpr) : Prop where
  word : ∀ u ∈ t.words, ∀ x ∈ u.word, isIdentRest x = true
  isUserName : ∀ i, .ident i ∈ t.words → IsUserName i
  notCppOnly : ∀ i, .ident i ∈ t.words → i ∉ cppOnlyNames

theorem Legible.mono (h : t.Legible) (hu : u.words ⊆ t.words) : u.Legible :=
  ⟨fun w hw => h.word w (hu hw), fun i hi => h.isUserName i (hu hi),
    fun i hi => h.notCppOnly i (hu hi)⟩

theorem Legible.blank_notMem_length {elem : TypeExpr} {length : String}
    (h : (array elem length).Legible) : ' ' ∉ length.toList := by
  intro hblank
  exact absurd (h.word (.number length) List.mem_cons_self ' ' hblank) (by decide)

/-! ### The parts of a C++ text -/

/-- What is not mutable is `const`. -/
def qualified (mutable : Bool) (c : String) : String :=
  if mutable then c else c ++ " const"

def bracketed (head c : String) : String :=
  head ++ "<" ++ c ++ ">"

theorem cpp_wrapped_eq (w : Wrapper) :
    (wrapped w t).cpp table = bracketed w.cpp (t.cpp table) := rfl

theorem cpp_slice_eq :
    (slice m t).cpp table = bracketed "::rust::Slice" (qualified m (t.cpp table)) := by
  cases m <;> simp [bracketed, qualified, ← String.toList_inj]

theorem cpp_reference_eq : (reference m t).cpp table = qualified m (t.cpp table) ++ "&" := by
  cases m <;> simp [qualified, ← String.toList_inj]

theorem cpp_pointer_eq : (pointer m t).cpp table = qualified m (t.cpp table) ++ "*" := by
  cases m <;> simp [qualified, ← String.toList_inj]

theorem cpp_array_eq (length : String) :
    (array t length).cpp table = bracketed "::std::array" (t.cpp table ++ ", " ++ length) := by
  simp [bracketed, ← String.toList_inj]

/-! ### How a type was made -/

/-- The last step in making a type: none, or what is put behind a type or around it. -/
inductive Shape
  | leaf
  | reference
  | pointer
  | slice
  | array
  | wrapped (w : Wrapper)
  deriving DecidableEq, Repr

def shape : TypeExpr → Shape
  | wrapped w _ => .wrapped w
  | slice _ _ => .slice
  | array _ _ => .array
  | reference _ _ => .reference
  | pointer _ _ => .pointer
  | _ => .leaf

/-- What is put around a type, as seen from the text before the first angle bracket. -/
def shapeOfHead (head : String) : Shape :=
  match head with
  | "::rust::Slice" => .slice
  | "::std::array" => .array
  | "::rust::Box" => .wrapped .box
  | "::std::vector" => .wrapped .cxxVector
  | "::std::shared_ptr" => .wrapped .sharedPtr
  | "::std::unique_ptr" => .wrapped .uniquePtr
  | "::rust::Vec" => .wrapped .vec
  | "::std::weak_ptr" => .wrapped .weakPtr
  | _ => .leaf

/-- The shape of a type as its C++ text shows it. -/
def shapeOf (c : String) : Shape :=
  match c.toList.getLast? with
  | some '&' => .reference
  | some '*' => .pointer
  | some '>' => shapeOfHead (String.ofList (c.toList.takeWhile (· != '<')))
  | _ => .leaf

theorem getLast?_append {x : Char} (c : String) (h : d.toList.getLast? = some x) :
    (c ++ d).toList.getLast? = some x := by
  rw [String.toList_append, List.getLast?_append, h]
  rfl

theorem shapeOf_bracketed (hhead : '<' ∉ head.toList) :
    shapeOf (bracketed head c) = shapeOfHead head := by
  have hlast : (bracketed head c).toList.getLast? = some '>' := getLast?_append _ rfl
  have htake : (bracketed head c).toList.takeWhile (· != '<') = head.toList := by
    have hne : ∀ x ∈ head.toList, (x != '<') = true := by
      intro x hx
      have hlt : x ≠ '<' := fun hlt => hhead (hlt ▸ hx)
      simpa using hlt
    simp [bracketed, List.takeWhile_append_of_pos hne]
  simp [shapeOf, hlast, htake]

/-! ### Leaves -/

/-- The type without parts that has the C++ text. -/
def leafOf (c : String) : TypeExpr :=
  match c with
  | "void" => .unit
  | "::rust::Str" => .str
  | "bool" => .builtin .bool
  | "char" => .builtin .cChar
  | "char32_t" => .builtin .char
  | "float" => .builtin .f32
  | "double" => .builtin .f64
  | "::std::int8_t" => .builtin .i8
  | "::std::int16_t" => .builtin .i16
  | "::std::int32_t" => .builtin .i32
  | "::std::int64_t" => .builtin .i64
  | "::rust::isize" => .builtin .isize
  | "::std::uint8_t" => .builtin .u8
  | "::std::uint16_t" => .builtin .u16
  | "::std::uint32_t" => .builtin .u32
  | "::std::uint64_t" => .builtin .u64
  | "::std::size_t" => .builtin .usize
  | "::rust::String" => .builtin .string
  | "::std::string" => .builtin .cxxString
  | _ => .named c

/-- The text is that of a type which is not the user's, as all texts are that `leafOf` knows. -/
def IsTaken (c : String) : Prop :=
  ':' ∈ c.toList ∨ c ∈ cppOnlyNames ∨ Builtin.ofIdent? c ≠ none

instance (c : String) : Decidable (IsTaken c) := by
  unfold IsTaken
  infer_instance

theorem Legible.not_isTaken (h : (named i).Legible) : ¬ IsTaken i := by
  have hmem : .ident i ∈ (named i).words := List.mem_singleton_self _
  rintro (hcolon | honly | hbuiltin)
  · exact absurd (h.word _ hmem ':' hcolon) (by decide)
  · exact h.notCppOnly i hmem honly
  · exact hbuiltin (h.isUserName i hmem).builtin

theorem leafOf_eq_named (h : (named i).Legible) : leafOf i = .named i := by
  have hfree := h.not_isTaken
  unfold leafOf
  split
  case h_20 => rfl
  all_goals exact absurd (by decide) hfree

theorem leafOf_cpp (h : t.Legible) (ht : t.shape = .leaf) : leafOf (t.cpp {}) = t := by
  cases t with
  | unit => rfl
  | str => rfl
  | builtin b => cases b <;> rfl
  | named ident => exact leafOf_eq_named h
  | _ => cases ht

theorem shapeOf_cpp (h : t.Legible) : shapeOf (t.cpp {}) = t.shape := by
  cases t with
  | unit => rfl
  | str => rfl
  | builtin b => cases b <;> rfl
  | named ident =>
    have hlast (x : Char) (hx : (cpp {} (named ident)).toList.getLast? = some x) :
        isIdentRest x = true :=
      h.word _ (List.mem_singleton_self _) x (List.mem_of_getLast? hx)
    unfold shapeOf
    split
    case h_4 => rfl
    all_goals next hx => cases hlast _ hx
  | wrapped w arg =>
    rw [cpp_wrapped_eq, shapeOf_bracketed (by cases w <;> decide)]
    cases w <;> rfl
  | slice m elem =>
    rw [cpp_slice_eq, shapeOf_bracketed (by decide)]
    rfl
  | reference m target =>
    rw [cpp_reference_eq, shapeOf, getLast?_append _ rfl]
    rfl
  | pointer m target =>
    rw [cpp_pointer_eq, shapeOf, getLast?_append _ rfl]
    rfl
  | array elem length =>
    rw [cpp_array_eq, shapeOf_bracketed (by decide)]
    rfl

/-! ### What may be changed -/

theorem blank_notMem_leaf (h : t.Legible) (ht : t.shape = .leaf) : ' ' ∉ (t.cpp {}).toList := by
  cases t with
  | unit => decide
  | str => decide
  | builtin b => cases b <;> decide
  | named ident =>
    intro hblank
    exact absurd (h.word _ (List.mem_singleton_self _) ' ' hblank) (by decide)
  | _ => cases ht

/-- Leaves have no blank in them, and all other types end with a sign. -/
theorem not_const_suffix (h : t.Legible) : ¬ " const".toList <:+ (t.cpp {}).toList := by
  rintro ⟨cs, hcs⟩
  have hlast : (t.cpp {}).toList.getLast? = some 't' := by
    rw [← hcs, List.getLast?_append]
    rfl
  have hleaf : t.shape = .leaf := by
    rw [← shapeOf_cpp h, shapeOf, hlast]
    rfl
  refine blank_notMem_leaf h hleaf ?_
  rw [← hcs]
  exact List.mem_append_right _ (by decide)

theorem qualified_inj (ht : t.Legible) (hu : u.Legible)
    (h : qualified m (t.cpp {}) = qualified m' (u.cpp {})) : m = m' ∧ t.cpp {} = u.cpp {} := by
  have hsuffix (c : String) : " const".toList <:+ (c ++ " const").toList := by
    rw [String.toList_append]
    exact List.suffix_append _ _
  cases m <;> cases m'
  · exact ⟨rfl, (String.append_left_inj _).1 h⟩
  · have h : t.cpp {} ++ " const" = u.cpp {} := h
    exact absurd (h ▸ hsuffix (t.cpp {})) (not_const_suffix hu)
  · have h : t.cpp {} = u.cpp {} ++ " const" := h
    exact absurd (h ▸ hsuffix (u.cpp {})) (not_const_suffix ht)
  · exact ⟨rfl, h⟩

/-! ### Types -/

theorem bracketed_inj (h : bracketed head c = bracketed head d) : c = d := by
  simpa [bracketed, String.append_left_inj, String.append_right_inj] using h

theorem length_inj {length length' : String} (hlength : ' ' ∉ length.toList)
    (hlength' : ' ' ∉ length'.toList) (h : c ++ ", " ++ length = d ++ ", " ++ length') :
    c = d ∧ length = length' := by
  have hlist : (c ++ ",").toList ++ ' ' :: length.toList =
      (d ++ ",").toList ++ ' ' :: length'.toList := by
    simpa [← String.toList_inj] using h
  obtain ⟨hleft, hright⟩ := Text.append_cons_inj hlength hlength' hlist
  exact ⟨(String.append_left_inj _).1 (String.toList_inj.1 hleft), String.toList_inj.1 hright⟩

theorem leaf_inj (ht : t.Legible) (hu : u.Legible) (hleaf : t.shape = .leaf)
    (hleaf' : u.shape = .leaf) (h : t.cpp {} = u.cpp {}) : t = u := by
  rw [← leafOf_cpp ht hleaf, h, leafOf_cpp hu hleaf']

theorem shape_eq (ht : t.Legible) (hu : u.Legible) (h : t.cpp {} = u.cpp {}) :
    u.shape = t.shape := by
  rw [← shapeOf_cpp hu, ← h, shapeOf_cpp ht]

/-- No two types have the same C++ text. -/
theorem cpp_injective (ht : t.Legible) (hu : u.Legible) (h : t.cpp {} = u.cpp {}) : t = u := by
  -- The texts show that both types were made in the same way, so only their parts may differ.
  induction t generalizing u with
  | wrapped w arg ih =>
    have hshape : u.shape = .wrapped w := shape_eq ht hu h
    cases u with
    | wrapped w' arg' =>
      obtain rfl := Shape.wrapped.inj hshape
      have harg : arg.Legible := ht.mono (List.Subset.refl _)
      have harg' : arg'.Legible := hu.mono (List.Subset.refl _)
      rw [cpp_wrapped_eq, cpp_wrapped_eq] at h
      rw [ih harg harg' (bracketed_inj h)]
    | _ => cases hshape
  | slice m elem ih =>
    have hshape : u.shape = .slice := shape_eq ht hu h
    cases u with
    | slice m' elem' =>
      have helem : elem.Legible := ht.mono (List.Subset.refl _)
      have helem' : elem'.Legible := hu.mono (List.Subset.refl _)
      rw [cpp_slice_eq, cpp_slice_eq] at h
      obtain ⟨rfl, hcpp⟩ := qualified_inj helem helem' (bracketed_inj h)
      rw [ih helem helem' hcpp]
    | _ => cases hshape
  | reference m target ih =>
    have hshape : u.shape = .reference := shape_eq ht hu h
    cases u with
    | reference m' target' =>
      have htarget : target.Legible := ht.mono (List.Subset.refl _)
      have htarget' : target'.Legible := hu.mono (List.Subset.refl _)
      rw [cpp_reference_eq, cpp_reference_eq, String.append_left_inj] at h
      obtain ⟨rfl, hcpp⟩ := qualified_inj htarget htarget' h
      rw [ih htarget htarget' hcpp]
    | _ => cases hshape
  | pointer m target ih =>
    have hshape : u.shape = .pointer := shape_eq ht hu h
    cases u with
    | pointer m' target' =>
      have htarget : target.Legible := ht.mono (List.Subset.refl _)
      have htarget' : target'.Legible := hu.mono (List.Subset.refl _)
      rw [cpp_pointer_eq, cpp_pointer_eq, String.append_left_inj] at h
      obtain ⟨rfl, hcpp⟩ := qualified_inj htarget htarget' h
      rw [ih htarget htarget' hcpp]
    | _ => cases hshape
  | array elem length ih =>
    have hshape : u.shape = .array := shape_eq ht hu h
    cases u with
    | array elem' length' =>
      have helem : elem.Legible := ht.mono (List.subset_cons_self _ _)
      have helem' : elem'.Legible := hu.mono (List.subset_cons_self _ _)
      rw [cpp_array_eq, cpp_array_eq] at h
      obtain ⟨hcpp, rfl⟩ := length_inj ht.blank_notMem_length hu.blank_notMem_length
        (bracketed_inj h)
      rw [ih helem helem' hcpp]
    | _ => cases hshape
  | _ => exact leaf_inj ht hu rfl (shape_eq ht hu h) h

/-! ### Texts -/

theorem exists_use_of_mem_words (h : .ident i ∈ t.words) : ∃ u ∈ t.written.uses, u.name = i := by
  induction t with
  | named ident =>
    obtain rfl := Token.ident.inj (List.mem_singleton.1 h)
    simp [written, Written.uses, Segments.uses, allUses]
  | wrapped w arg ih =>
    obtain ⟨u, hu, hname⟩ := ih h
    exact ⟨u, by simp [written, Written.uses, Segments.uses, allUses, hu], hname⟩
  | slice _ _ ih | reference _ _ ih | pointer _ _ ih => exact ih h
  | array elem length ih => exact ih (by simpa [words] using h)
  | _ => cases h

/-- In what the tree says but for `Pin` and paths, no name is that of another type in C++. -/
def Written.Unmistakable (w : Written) : Prop :=
  ∀ u ∈ w.normal.uses, u.name ∉ cppOnlyNames

instance (w : Written) : Decidable w.Unmistakable := by
  unfold Written.Unmistakable
  infer_instance

theorem Written.Writes.legible {w : Written} {s : String} (hw : w.Writes s)
    (hnames : w.Unmistakable) (ht : w.meaning? = some t) : t.Legible where
  word u hu := isIdentRest_of_tokens hw.tokens u (compositional_words.of_meaning? ht hu)
  isUserName := compositional_isUserName.of_meaning? ht
  notCppOnly i hi := by
    obtain ⟨u, hu, rfl⟩ := exists_use_of_mem_words hi
    exact hnames u (by rwa [normal_eq_written ht])

variable {s s' c' : String}

/--
Texts with a C++ type have the same one if and only if they have the same normal form, when no table
gives other names and no name is that of another type in C++.
-/
theorem spell_eq_iff_normal_eq (h : spell {} s = .ok c) (h' : spell {} s' = .ok c') :
    ∃ w w' : Written, w.Writes s ∧ w'.Writes s' ∧
      (w.Unmistakable → w'.Unmistakable → (c = c' ↔ w.normal = w'.normal)) := by
  obtain ⟨w, t, hw, ht, rfl⟩ := spell_eq_ok_iff_writes.1 h
  obtain ⟨w', t', hw', ht', rfl⟩ := spell_eq_ok_iff_writes.1 h'
  refine ⟨w, w', hw, hw', fun hnames hnames' => ?_⟩
  rw [Written.normal_eq_iff ht ht']
  constructor
  · exact cpp_injective (hw.legible hnames ht) (hw'.legible hnames' ht')
  · rintro rfl
    rfl

theorem spell_eq_iff_normal_eq_pinned :
    ∃ w w' : Written, w.Writes "&'a mut std::vec::Vec<Pin<[u8; 04]>>" ∧
      w'.Writes "&mut ::Vec<[u8;04]>" ∧ w.Unmistakable ∧ w'.Unmistakable ∧
      w.normal = w'.normal := by
  have hspell : spell {} "&'a mut std::vec::Vec<Pin<[u8; 04]>>" =
      .ok "::rust::Vec<::std::array<::std::uint8_t, 04>>&" := by cbv
  have hspell' : spell {} "&mut ::Vec<[u8;04]>" =
      .ok "::rust::Vec<::std::array<::std::uint8_t, 04>>&" := by cbv
  let array : Written := .array (.path false (.last "u8" [])) "04"
  let v : Written := .reference (some "a") true (.path false
    (.next "std" [] (.next "vec" [] (.last "Vec" [.path false (.last "Pin" [array])]))))
  let v' : Written := .reference none true (.path true (.last "Vec" [array]))
  have hv : v.Writes "&'a mut std::vec::Vec<Pin<[u8; 04]>>" := by
    refine ⟨?_, by cbv⟩
    simp only [v, array, Written.Proper, Segments.Proper, AllProper]
    decide
  have hv' : v'.Writes "&mut ::Vec<[u8;04]>" := by
    refine ⟨?_, by cbv⟩
    simp only [v', array, Written.Proper, Segments.Proper, AllProper]
    decide
  have hnames : v.Unmistakable := by decide
  have hnames' : v'.Unmistakable := by decide
  obtain ⟨w, w', hw, hw', hiff⟩ := spell_eq_iff_normal_eq hspell hspell'
  obtain rfl := Written.eq_of_writes hv hw
  obtain rfl := Written.eq_of_writes hv' hw'
  exact ⟨v, v', hw, hw', hnames, hnames', (hiff hnames hnames').1 rfl⟩

end SignalBinding.TypeExpr
