import SignalBinding.Proofs.CamelCase
import SignalBinding.Proofs.DeclaredAsDefined
import SignalBinding.Proofs.DescriptionReading
import SignalBinding.Proofs.FailureIsolation

/-!
# The names of free helpers

The helper of a free signal is called by the object, an underscore, and the name of the signal in
C++. A name that comes from the signal's Rust name has no underscore. So the last underscore of a
helper's name tells the object from the signal, even if the object's name has underscores itself.

## Main definitions

- `Signal.IsDerived`: signals whose C++ name comes from their Rust name

## Main statement

- `Signal.helpers_told_apart`: helpers of one name are on one object and one C++ signal
-/

namespace SignalBinding

open Generation
open Naming (IsNameChar)

namespace Signal

/-- The C++ name of the signal comes from its Rust name, which is one of letters, digits and
underscores, and not of underscores alone. -/
structure IsDerived (s : Signal) : Prop where
  name : s.name = .ofRust s.name.rust
  isNameChar : ∀ c ∈ s.name.rust.toList, IsNameChar c
  word : ∃ c ∈ s.name.rust.toList, c ≠ '_'

variable {s t : Signal} {table : NameTable}

theorem IsDerived.cpp_eq (h : s.IsDerived) : s.name.cpp = Naming.lowerCamel s.name.rust :=
  congrArg NamePair.cpp h.name

theorem IsDerived.underscore_notMem_connect (h : s.IsDerived) :
    '_' ∉ s.name.connect.cpp.toList := by
  have hname := Naming.underscore_notMem_lowerCamel h.isNameChar h.word
  rw [NamePair.connect, String.toList_append, h.cpp_eq]
  exact mt List.mem_append.1 (not_or.2 ⟨hname, by decide⟩)

theorem toList_freeLabel (s : Signal) :
    (freeLabel s).toList = s.owner.toList ++ '_' :: s.name.connect.cpp.toList := by
  rw [freeLabel, String.toList_append, String.toList_append, List.append_assoc]
  rfl

/-- The object and the signal are found again in the name of the helper. -/
theorem IsDerived.eq_of_freeLabel_eq (hs : s.IsDerived) (ht : t.IsDerived)
    (h : freeLabel s = freeLabel t) : s.owner = t.owner ∧ s.name.cpp = t.name.cpp := by
  have hlist := congrArg String.toList h
  rw [toList_freeLabel, toList_freeLabel] at hlist
  obtain ⟨howner, hname⟩ :=
    Text.append_cons_inj hs.underscore_notMem_connect ht.underscore_notMem_connect hlist
  exact ⟨String.toList_inj.1 howner, (String.append_left_inj _).1 (String.toList_inj.1 hname)⟩

/-- Declaration and definition of a free helper start with its return type and its name. -/
theorem exists_freeSignature_eq (table : NameTable) (s : Signal) :
    ∃ rest, (s.freeSubject table).freeSignature =
      "::QMetaObject::Connection\n" ++ freeLabel s ++ "(" ++ rest := by
  unfold TemplateSet.Subject.freeSignature freeLabel
  simp only [String.append_assoc]
  exact ⟨_, rfl⟩

/-- What is reported of a free signal is called by the name of its helper. -/
theorem named_freeSignal {r : Report} (h : (freeSignal .builtin table s).result = .ok r) :
    (∀ e ∈ r.skipped, e.label = freeLabel s) ∧
      ∀ o ∈ r.owners, o.name = freeLabel s ∧ ∃ parameters definition,
        o.block = [.pair ("::QMetaObject::Connection\n" ++ freeLabel s ++ "(" ++ parameters)
          ("::QMetaObject::Connection\n" ++ freeLabel s ++ "(" ++ definition)] := by
  rw [result_freeSignal (TemplateSet.builtin_gives _)] at h
  cases h
  rw [Report.ofGroups_singleton]
  refine ⟨fun e he => ?_, fun o ho => ?_⟩
  · obtain ⟨fate, hfate, hskipped⟩ := List.mem_filterMap.1 he
    rw [freeGroup, List.mem_singleton] at hfate
    subst hfate
    rw [freeFate, skipped?_fate] at hskipped
    obtain ⟨cause, -, rfl⟩ := Option.map_eq_some_iff.1 hskipped
    rfl
  · dsimp only at ho
    rw [owners_freeGroup] at ho
    split at ho
    · cases ho
    · obtain rfl := List.mem_singleton.1 ho
      obtain ⟨rest, hrest⟩ := exists_freeSignature_eq table s
      obtain ⟨body, hbody⟩ := TemplateSet.exists_builtinText_freeSource (s.freeSubject table)
      refine ⟨rfl, rest ++ ";\n", rest ++ ("\n\x7b\n" ++ body), ?_⟩
      rw [freePiece_builtinTexts, TemplateSet.builtinText_freeHeader, hbody, hrest]
      simp only [String.append_assoc]

open Description in
/-- Without a C++ name of its own, a free signal is read with the one that comes from its Rust
name. -/
theorem name_of_freeSignalOf {δ : Type} [Layered δ] {place : Description.Place}
    {entries : List (Atom × δ)} (h : freeSignalOf place (.map entries) = .ok s)
    (hgiven : textOf (Entries.field "cxx_name" entries) = "") :
    s.name = .ofRust s.name.rust := by
  obtain ⟨-, rfl⟩ := (reads_freeSignalOf place _ s).1 h
  change nameImage entries = .ofRust (nameImage entries).rust
  rw [nameImage, if_pos hgiven]
  rfl

open Description in
/--
Two free signals that were given no C++ names have helpers of one name only if they are on one
object and have one C++ name. That name is the one in the generated texts, and what is reported of
a signal is called by it.
-/
theorem helpers_told_apart :
    (∀ s t : Signal, s.IsDerived → t.IsDerived → freeLabel s = freeLabel t →
      s.owner = t.owner ∧ s.name.cpp = t.name.cpp) ∧
    (∀ (table : NameTable) (s : Signal) (r : Report),
      (freeSignal .builtin table s).result = .ok r →
      (∀ e ∈ r.skipped, e.label = freeLabel s) ∧
      ∀ o ∈ r.owners, o.name = freeLabel s ∧ ∃ parameters definition,
        o.block = [.pair ("::QMetaObject::Connection\n" ++ freeLabel s ++ "(" ++ parameters)
          ("::QMetaObject::Connection\n" ++ freeLabel s ++ "(" ++ definition)]) ∧
    ∀ (δ : Type) [Layered δ] (place : Description.Place) (entries : List (Atom × δ)) (s : Signal),
      freeSignalOf place (.map entries) = .ok s →
      textOf (Entries.field "cxx_name" entries) = "" → s.name = .ofRust s.name.rust :=
  ⟨fun _ _ hs ht => hs.eq_of_freeLabel_eq ht, fun _ _ _ => named_freeSignal,
    fun _ _ _ _ _ => name_of_freeSignalOf⟩

/-- Two Rust names with one C++ name have one helper, on an object whose name has an underscore. -/
theorem helpers_told_apart_rowAdded :
    let s : Signal := { owner := "Table_Model", name := .ofRust "row_added" }
    let t : Signal := { owner := "Table_Model", name := .ofRust "row__added" }
    freeLabel s = freeLabel t ∧ s.owner = t.owner ∧ s.name.cpp = t.name.cpp := by
  intro s t
  have hs : s.IsDerived :=
    ⟨rfl, List.all_iff_forall_prop.1 (by decide), 'r', by decide, by decide⟩
  have ht : t.IsDerived :=
    ⟨rfl, List.all_iff_forall_prop.1 (by decide), 'r', by decide, by decide⟩
  have hlabel : freeLabel s = freeLabel t := by decide
  exact ⟨hlabel, helpers_told_apart.1 s t hs ht hlabel⟩

/-- A C++ name that is given may have underscores, and then the helper may be mistaken. -/
example :
    freeLabel { owner := "A", name := .ofRust "c" (some "b_c") } =
      freeLabel { owner := "A_b", name := .ofRust "c" } := by
  decide

end Signal

end SignalBinding
