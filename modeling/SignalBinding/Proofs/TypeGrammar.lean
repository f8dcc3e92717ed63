import SignalBinding.TypeExpr.Reading

/-!
# The grammar of type expressions

Which token lists are parameter types, and how each is spelled in C++, by rules that know nothing
of how a text is read. What a rule calls `c` is always the C++ type of a part.

## Main definitions

- `Segment`: a segment of a path, each generic argument with its C++ type
- `Names`: what a name with generic arguments stands for
- `Derives`: the C++ type of a whole token list under a name table
- `Token.opensType`: the tokens that a type may start with
-/

namespace SignalBinding.TypeExpr

/-- An ampersand, and the lifetime after it if there is one. -/
def ampersand (lifetime? : Option String) : List Token :=
  .amp :: (lifetime?.map Token.lifetime).toList

/-- A segment of a path. Each generic argument is kept as it is written and as it is in C++. -/
structure Segment where
  name : String
  args : List (List Token × String) := []

namespace Segment

/-- Generic arguments between angle brackets; nothing at all if there are none. -/
def argTokens : List (List Token × String) → List Token
  | [] => []
  | a :: as => .less :: (a.1 ++ as.flatMap (fun b => .comma :: b.1)) ++ [.greater]

/-- The segment as it is written. -/
def tokens (s : Segment) : List Token :=
  .ident s.name :: argTokens s.args

/-- Segments as they stand before further ones. -/
def joined (outer : List Segment) : List Token :=
  outer.flatMap fun s => s.tokens ++ [.pathSep]

/-- A path starts with the name of its first segment. -/
theorem exists_ident_cons (outer : List Segment) (last : Segment) :
    ∃ s ∈ outer ++ [last], ∃ ts, joined outer ++ last.tokens = .ident s.name :: ts := by
  cases outer with
  | nil => exact ⟨last, by simp, _, rfl⟩
  | cons s outer => exact ⟨s, by simp, _, rfl⟩

end Segment

/-- What a name stands for, given the C++ types of its generic arguments. -/
inductive Names (table : NameTable) : String → List String → String → Prop
  | pinned (c : String) : Names table "Pin" [c] c
  | wrapper {name : String} {w : Wrapper} (c : String) (h : Wrapper.ofIdent? name = some w) :
      Names table name [c] (w.cpp ++ "<" ++ c ++ ">")
  | builtin {name : String} {b : Builtin} (h : Builtin.ofIdent? name = some b) :
      Names table name [] b.cpp
  | user {name : String} (hpin : name ≠ "Pin") (hstr : name ≠ "str")
      (hw : Wrapper.ofIdent? name = none) (hb : Builtin.ofIdent? name = none) :
      Names table name [] (table.cppName name)

/--
The C++ type of a token list. Behind an ampersand a bracket always opens a slice, and `str` that is
not mutable is a type of its own, so the rules for plain references leave these out.
-/
inductive Derives (table : NameTable) : List Token → String → Prop
  | unit : Derives table [.lparen, .rparen] "void"
  | str (l : Option String) : Derives table (ampersand l ++ [.ident "str"]) "::rust::Str"
  | slice (l : Option String) {ts : List Token} {c : String} (elem : Derives table ts c) :
      Derives table (ampersand l ++ .lbracket :: (ts ++ [.rbracket]))
        ("::rust::Slice<" ++ c ++ " const>")
  | sliceMut (l : Option String) {ts : List Token} {c : String} (elem : Derives table ts c) :
      Derives table (ampersand l ++ .ident "mut" :: .lbracket :: (ts ++ [.rbracket]))
        ("::rust::Slice<" ++ c ++ ">")
  | reference (l : Option String) {ts : List Token} {c : String} (target : Derives table ts c)
      (hslice : ts.head? ≠ some .lbracket) (hstr : ts.head? ≠ some (.ident "str")) :
      Derives table (ampersand l ++ ts) (c ++ " const&")
  | referenceMut (l : Option String) {ts : List Token} {c : String} (target : Derives table ts c)
      (hslice : ts.head? ≠ some .lbracket) :
      Derives table (ampersand l ++ .ident "mut" :: ts) (c ++ "&")
  | pointer {ts : List Token} {c : String} (target : Derives table ts c) :
      Derives table (.star :: .ident "const" :: ts) (c ++ " const*")
  | pointerMut {ts : List Token} {c : String} (target : Derives table ts c) :
      Derives table (.star :: .ident "mut" :: ts) (c ++ "*")
  | array {ts : List Token} {c : String} (elem : Derives table ts c) (digits : String) :
      Derives table (.lbracket :: (ts ++ [.semicolon, .number digits, .rbracket]))
        ("::std::array<" ++ c ++ ", " ++ digits ++ ">")
  /-- A path, from the root or not, is what its last segment stands for. -/
  | path (root : Bool) (outer : List Segment) (last : Segment) {c : String}
      (hname : ∀ s ∈ outer ++ [last], isReserved s.name = false)
      (hargs : ∀ s ∈ outer ++ [last], ∀ a ∈ s.args, Derives table a.1 a.2)
      (hlast : Names table last.name (last.args.map Prod.snd) c) :
      Derives table
        ((if root then [.pathSep] else []) ++ Segment.joined outer ++ last.tokens) c

theorem Derives.of_name {table : NameTable} {name c : String} (hname : isReserved name = false)
    (h : Names table name [] c) : Derives table [.ident name] c :=
  .path false [] { name } (by simpa using hname) (by simp) h

theorem Derives.of_applied {table : NameTable} {name c d : String} {ts : List Token}
    (hname : isReserved name = false) (harg : Derives table ts c) (h : Names table name [c] d) :
    Derives table (.ident name :: .less :: (ts ++ [.greater])) d := by
  have hpath := Derives.path false [] ⟨name, [(ts, c)]⟩ (by simpa using hname)
    (by simpa using harg) h
  simpa [Segment.joined, Segment.tokens, Segment.argTokens] using hpath

/-- The tokens that a type may start with. -/
def Token.opensType : Token → Bool
  | .amp | .star | .lbracket | .lparen | .pathSep => true
  | .ident name => !isReserved name
  | _ => false

variable {table : NameTable} {ts : List Token} {c : String}

theorem Derives.exists_cons (h : Derives table ts c) :
    ∃ t us, ts = t :: us ∧ t.opensType = true := by
  cases h with
  | path root outer last hname _ _ =>
    cases root with
    | true => exact ⟨_, _, rfl, rfl⟩
    | false =>
      obtain ⟨s, hs, us, hus⟩ := Segment.exists_ident_cons outer last
      exact ⟨.ident s.name, us, hus, by simp [Token.opensType, hname s hs]⟩
  | _ => exact ⟨_, _, rfl, rfl⟩

end SignalBinding.TypeExpr
