import Mathlib
import SignalBinding.Proofs.NestedTypes
import SignalBinding.Proofs.OuterCommas
import SignalBinding.Proofs.ParameterLists
import SignalBinding.Proofs.TypeMeanings

/-!
# Parameter lists and their texts

A parameter list has its three lists in C++, or the first of its types that is refused is to blame.
The lists are found again in their texts: names have no commas of their own, and the only comma in
the spelling of types is that of arrays, which stands between brackets. So the closure, the lambda
and the call take the same number of arguments wherever one reads it off.

## Main definitions

- `NameTable.IsUnbroken`: a table without brackets and commas
- `Parameters.arity`: the number of arguments in a text

## Main statement

- `Parameters.lists_read_back`
-/

namespace SignalBinding

open TypeExpr (Unresolved spell isIdentRest)
open Text (IsItem IsUnbroken IsUnbrokenChar splitOuterCommas)

/-- No name and no namespace in the table has a bracket or a comma. -/
structure NameTable.IsUnbroken (table : NameTable) : Prop where
  renames : ∀ e ∈ table.renames.entries, Text.IsUnbroken e.2
  namespaces : ∀ e ∈ table.namespaces.entries, Text.IsUnbroken e.2

variable {table : NameTable} {self : SelfValue} {ps : List Parameter}

/-! ### Types -/

theorem NameTable.isUnbroken_cppName (htable : table.IsUnbroken) {name : String}
    (hname : Text.IsUnbroken name) : Text.IsUnbroken (table.cppName name) := by
  intro x hx
  rcases mem_cppName hx with rfl | hx | ⟨e, he, hx⟩
  · decide
  · exact hname x hx
  · rcases List.mem_append.1 he with he | he
    · exact htable.renames e he x hx
    · exact htable.namespaces e he x hx

namespace TypeExpr

theorem isUnbrokenChar_of_isIdentRest {c : Char} (h : isIdentRest c) : IsUnbrokenChar c := by
  refine ⟨isPlain_of_isIdentRest h, ?_⟩
  rintro rfl
  exact absurd h (by decide)

/-- The only comma in the spelling of types is that of arrays, and all their brackets close. -/
theorem isItem_cpp (htable : table.IsUnbroken) {t : TypeExpr}
    (ht : ∀ u ∈ t.words, ∀ x ∈ u.word, isIdentRest x = true) : IsItem (t.cpp table) := by
  induction t with
  | unit => exact (by decide : IsItem "void")
  | str => exact (by decide : IsItem "::rust::Str")
  | builtin b =>
    have hbuiltin : IsItem b.cpp := by cases b <;> decide
    exact hbuiltin
  | named ident =>
    have hident : Text.IsUnbroken ident := fun x hx =>
      isUnbrokenChar_of_isIdentRest (ht (.ident ident) (by simp [words]) x hx)
    exact (NameTable.isUnbroken_cppName htable hident).isItem
  | wrapped w arg ih =>
    have hopens : Text.depth 0 (w.cpp ++ "<").toList = some 1 := by cases w <;> rfl
    exact (ih ht).between hopens rfl
  | slice m elem ih =>
    cases m with
    | false => exact (ih ht).between (l := "::rust::Slice<") (r := " const>") rfl rfl
    | true => exact (ih ht).between (l := "::rust::Slice<") (r := ">") rfl rfl
  | reference m target ih => cases m <;> exact (ih ht).append (by decide)
  | pointer m target ih => cases m <;> exact (ih ht).append (by decide)
  | array elem length ih =>
    have helem : IsItem (elem.cpp table) := ih fun u hu => ht u (by simp [words, hu])
    have hlength : Text.IsUnbroken length := fun x hx =>
      isUnbrokenChar_of_isIdentRest (ht (.number length) (by simp [words]) x hx)
    rw [cpp_array, IsItem]
    -- The comma stands one bracket deep.
    simp only [String.toList_append, Text.depth_append]
    change ((((some 1).bind (Text.depth · (elem.cpp table).toList)).bind _).bind
      (Text.depth · length.toList)).bind _ = _
    simp only [Option.bind_some, helem.depth_eq, hlength.isItem.depth_eq]
    rfl

theorem isItem_spell (htable : table.IsUnbroken) {s c : String} (h : spell table s = .ok c) :
    IsItem c := by
  obtain ⟨w, t, hw, ht, rfl⟩ := spell_eq_ok_iff_writes.1 h
  exact isItem_cpp htable fun u hu =>
    isIdentRest_of_tokens hw.tokens u (compositional_words.of_meaning? ht hu)

end TypeExpr

theorem Parameter.isItem_cppType (htable : table.IsUnbroken) (p : Parameter) :
    IsItem (p.cppType table) := by
  unfold cppType
  cases h : spell table p.type with
  | error e => exact (by decide : IsItem "")
  | ok c => exact TypeExpr.isItem_spell htable h

/-! ### Lists -/

namespace Parameters

theorem ofParameters_eq_error_iff {e : Unresolved} :
    ofParameters table self ps = .error e ↔ Parameter.firstRefusal? table ps = some e := by
  rw [ofParameters_eq]
  cases Parameter.firstRefusal? table ps <;> simp

/-- Types that are not refused are spelled as they are in the lists. -/
theorem forall₂_spell_iff {cs : List String} :
    List.Forall₂ (fun p c => spell table p.type = .ok c) ps cs ↔
      Parameter.firstRefusal? table ps = none ∧ cs = ps.map (Parameter.cppType table) := by
  rw [Parameter.firstRefusal?_eq_none_iff]
  induction ps generalizing cs with
  | nil => simp
  | cons p ps ih =>
    simp only [List.forall₂_cons_left_iff, ih, List.forall_mem_cons, List.map_cons]
    cases hp : spell table p.type with
    | error e => simp
    | ok c =>
      have hc : p.cppType table = c := by rw [Parameter.cppType, hp]; rfl
      simp only [hc, Except.ok.injEq, exists_eq', true_and]
      grind

/-- The lists of some parameters with the C++ types `cs`. -/
def withTypes (self : SelfValue) (ps : List Parameter) (cs : List String) : Parameters :=
  let formals := List.zipWith (fun p c => c ++ " " ++ p.ident) ps cs
  { signalTypes := formals
    closureTypes := (self.type ++ "&") :: formals
    forwardedValues := self.ident :: ps.map fun p => "::std::move(" ++ p.ident ++ ")" }

theorem spelled_eq_withTypes (table : NameTable) (self : SelfValue) (ps : List Parameter) :
    spelled table self ps = withTypes self ps (ps.map (Parameter.cppType table)) := by
  rw [withTypes, List.zipWith_map_right, List.zipWith_self]
  rfl

theorem ofParameters_eq_ok_iff {lists : Parameters} :
    ofParameters table self ps = .ok lists ↔
      ∃ cs, List.Forall₂ (fun p c => spell table p.type = .ok c) ps cs ∧
        lists = withTypes self ps cs := by
  simp only [forall₂_spell_iff, ofParameters_eq]
  cases Parameter.firstRefusal? table ps with
  | none => simp [spelled_eq_withTypes, eq_comm]
  | some e => simp

/-! ### Texts -/

/-- How many arguments there are in a text with commas between them. -/
def arity (s : String) : Nat :=
  if s = "" then 0 else (splitOuterCommas s).length

/-- What is not empty is not the text of no items. -/
theorem commaSeparated_ne_empty {s : String} (hs : s ≠ "") (items : List String) :
    commaSeparated (s :: items) ≠ "" := by
  cases items with
  | nil => simpa [commaSeparated] using hs
  | cons t ts =>
    rw [commaSeparated, String.intercalate_cons_cons]
    simp [hs]

theorem split_commaSeparated {items : List String} (hne : items ≠ []) (h : ∀ s ∈ items, IsItem s) :
    splitOuterCommas (commaSeparated items) = items :=
  Text.splitOuterCommas_intercalate hne h

/-- Items that are not empty are counted. -/
theorem arity_commaSeparated {items : List String} (h : ∀ s ∈ items, IsItem s)
    (hne : ∀ s ∈ items, s ≠ "") : arity (commaSeparated items) = items.length := by
  unfold arity
  cases items with
  | nil => rfl
  | cons s items =>
    rw [if_neg (commaSeparated_ne_empty (hne s (by simp)) items),
      split_commaSeparated (by simp) h]

/-- The items of the three lists. -/
structure AreItems (lists : Parameters) : Prop where
  signalTypes : ∀ s ∈ lists.signalTypes, IsItem s ∧ s ≠ ""
  closureTypes : ∀ s ∈ lists.closureTypes, IsItem s ∧ s ≠ ""
  forwardedValues : ∀ s ∈ lists.forwardedValues, IsItem s ∧ s ≠ ""

theorem areItems_spelled (htable : table.IsUnbroken) (hself : IsUnbroken self.type)
    (hps : ∀ p ∈ ps, IsUnbroken p.ident) : AreItems (spelled table self ps) := by
  have hformals : ∀ s ∈ ps.map (fun p => p.cppType table ++ " " ++ p.ident),
      IsItem s ∧ s ≠ "" := by
    intro s hs
    obtain ⟨p, hp, rfl⟩ := List.mem_map.1 hs
    have htype : IsItem (p.cppType table ++ " ") := (p.isItem_cppType htable).append (by decide)
    exact ⟨htype.append (hps p hp).isItem, by simp⟩
  have hvalues : ∀ s ∈ ps.map forwarded, IsItem s ∧ s ≠ "" := by
    intro s hs
    obtain ⟨p, hp, rfl⟩ := List.mem_map.1 hs
    exact ⟨(hps p hp).isItem.between (l := "::std::move(") (r := ")") rfl rfl, by simp [forwarded]⟩
  have hobject : IsItem (self.type ++ "&") := hself.isItem.append (by decide)
  have hident : IsItem self.ident ∧ self.ident ≠ "" := by
    cases self with
    | member => exact (by decide : IsItem "*this" ∧ "*this" ≠ "")
    | foreign => exact (by decide : IsItem "self" ∧ "self" ≠ "")
  exact ⟨hformals, List.forall_mem_cons.2 ⟨⟨hobject, by simp⟩, hformals⟩,
    List.forall_mem_cons.2 ⟨hident, hvalues⟩⟩

/--
A parameter list fails with the first of its types that is refused, and only then. Else each of its
three lists has an entry for each parameter, the second and third one more for the object; and as
long as no name has a bracket or a comma, the lists are found again in their texts, at the commas
outside of all brackets.
-/
theorem lists_read_back (table : NameTable) (self : SelfValue) (ps : List Parameter) :
    ((∃ e, ofParameters table self ps = .error e) ↔
      ∃ p ∈ ps, ∃ e, spell table p.type = .error e) ∧
    (∀ e, ofParameters table self ps = .error e ↔
      ∃ before p after, ps = before ++ p :: after ∧
        (∀ q ∈ before, ∃ c, spell table q.type = .ok c) ∧ spell table p.type = .error e) ∧
    (∀ lists, ofParameters table self ps = .ok lists ↔
      ∃ cs, List.Forall₂ (fun p c => spell table p.type = .ok c) ps cs ∧
        lists = withTypes self ps cs) ∧
    (table.IsUnbroken → IsUnbroken self.type → (∀ p ∈ ps, IsUnbroken p.ident) →
      ∀ lists, ofParameters table self ps = .ok lists →
        (ps ≠ [] → splitOuterCommas lists.signalText = lists.signalTypes) ∧
        splitOuterCommas lists.closureText = lists.closureTypes ∧
        splitOuterCommas lists.valuesText = lists.forwardedValues ∧
        (lists.signalTypes.length = ps.length ∧ arity lists.signalText = ps.length) ∧
        (lists.closureTypes.length = ps.length + 1 ∧ arity lists.closureText = ps.length + 1) ∧
        lists.forwardedValues.length = ps.length + 1 ∧
          arity lists.valuesText = ps.length + 1) := by
  refine ⟨?_, fun e => ?_, fun lists => ofParameters_eq_ok_iff, ?_⟩
  · simp only [ofParameters_eq_error_iff, ← Option.isSome_iff_exists, Parameter.firstRefusal?,
      List.findSome?_isSome_iff]
    simp only [Option.isSome_iff_exists, Parameter.refusal?_eq_some_iff]
  · rw [ofParameters_eq_error_iff, Parameter.firstRefusal?, List.findSome?_eq_some_iff]
    simp only [Parameter.refusal?_eq_some_iff, Parameter.refusal?_eq_none_iff]
    grind
  · intro htable hself hps lists hlists
    have heq : lists = spelled table self ps := by
      obtain ⟨cs, hcs, rfl⟩ := ofParameters_eq_ok_iff.1 hlists
      obtain ⟨-, rfl⟩ := forall₂_spell_iff.1 hcs
      exact (spelled_eq_withTypes table self ps).symm
    subst heq
    have hitems := areItems_spelled htable hself hps
    have hsignal : (spelled table self ps).signalTypes.length = ps.length := List.length_map _
    have hclosure : (spelled table self ps).closureTypes.length = ps.length + 1 :=
      congrArg (· + 1) hsignal
    have hvalues : (spelled table self ps).forwardedValues.length = ps.length + 1 :=
      congrArg (· + 1) (List.length_map _)
    have hread {items : List String} (h : ∀ s ∈ items, IsItem s ∧ s ≠ "") :
        arity (commaSeparated items) = items.length :=
      arity_commaSeparated (fun s hs => (h s hs).1) fun s hs => (h s hs).2
    refine ⟨fun hne => ?_, ?_, ?_, ⟨hsignal, ?_⟩, ⟨hclosure, ?_⟩, hvalues, ?_⟩
    · have hsome : (spelled table self ps).signalTypes ≠ [] := by simpa [spelled] using hne
      exact split_commaSeparated hsome fun s hs => (hitems.signalTypes s hs).1
    · exact split_commaSeparated (by simp [spelled]) fun s hs => (hitems.closureTypes s hs).1
    · exact split_commaSeparated (by simp [spelled]) fun s hs => (hitems.forwardedValues s hs).1
    · rw [← hsignal]
      exact hread hitems.signalTypes
    · rw [← hclosure]
      exact hread hitems.closureTypes
    · rw [← hvalues]
      exact hread hitems.forwardedValues

/-- A table in which `T` has a namespace. -/
def tableOfApp : NameTable where
  namespaces := Glossary.empty.insert "T" "app"

/-- An array of a type with a namespace, and a slice of vectors. -/
theorem lists_read_back_cells :
    let ps : List Parameter := [⟨"cells", "[T; 2]"⟩, ⟨"names", "&[Vec<u8>]"⟩]
    ∃ lists, ofParameters tableOfApp (.foreign "::app::View") ps = .ok lists ∧
      lists.signalTypes = ["::std::array<::app::T, 2> cells",
        "::rust::Slice<::rust::Vec<::std::uint8_t> const> names"] ∧
      splitOuterCommas lists.signalText = lists.signalTypes ∧
      splitOuterCommas lists.closureText = lists.closureTypes ∧
      splitOuterCommas lists.valuesText = lists.forwardedValues ∧
      arity lists.signalText = 2 ∧ arity lists.closureText = 3 ∧ arity lists.valuesText = 3 := by
  intro ps
  have hcells : spell tableOfApp "[T; 2]" = .ok "::std::array<::app::T, 2>" := by cbv
  have hnames : spell tableOfApp "&[Vec<u8>]" =
      .ok "::rust::Slice<::rust::Vec<::std::uint8_t> const>" := by cbv
  obtain ⟨-, -, hok, hread⟩ := lists_read_back tableOfApp (.foreign "::app::View") ps
  have hlists := (hok _).2 ⟨_, .cons hcells (.cons hnames .nil), rfl⟩
  have htable : tableOfApp.IsUnbroken := ⟨by decide, by decide⟩
  obtain ⟨hsignal, hclosure, hvalues, ⟨-, hsignals⟩, ⟨-, hclosures⟩, -, hforwarded⟩ :=
    hread htable (by decide) (by decide) _ hlists
  exact ⟨_, hlists, rfl, hsignal (by decide), hclosure, hvalues, hsignals, hclosures, hforwarded⟩

end Parameters

end SignalBinding
