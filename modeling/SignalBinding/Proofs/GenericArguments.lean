import Mathlib
import SignalBinding.Proofs.TypeMeanings

/-!
# Generic arguments

Which names of a type have generic arguments, and how many. The last segment of a path decides what
the path means, so it has to have as many arguments as its name takes, however deep the path stands
in a type. The segments before it may have any number of them.

## Main definitions

- `Written.uses`: all names in a type, each with the number of its arguments
- `Use.Fits`: a name with as many arguments as it takes

## Main statement

- `spell_iff_fits`: the texts that have a C++ type are those in which last segments fit
-/

namespace SignalBinding.TypeExpr

/-- A segment of a path: its name, the number of its arguments, and whether the path ends there. -/
structure Use where
  name : String
  args : Nat
  last : Bool
  deriving DecidableEq, Repr

/-- `Pin` and the wrappers are applied to a type. -/
def takesArgument (name : String) : Bool :=
  name == "Pin" || (Wrapper.ofIdent? name).isSome

/-- As many arguments as the name takes; `str` does not name a type at all. -/
def Use.Fits (u : Use) : Prop :=
  if takesArgument u.name then u.args = 1 else u.args = 0 ∧ u.name ≠ "str"

instance (u : Use) : Decidable u.Fits := by
  unfold Use.Fits
  infer_instance

mutual

/-- The segments of all paths in a type, at whatever depth. -/
def Written.uses : Written → List Use
  | .unit => []
  | .str _ => []
  | .slice _ _ elem => elem.uses
  | .reference _ _ target => target.uses
  | .pointer _ target => target.uses
  | .array elem _ => elem.uses
  | .path _ segments => segments.uses

def Segments.uses : Segments → List Use
  | .last name args => { name, args := args.length, last := true } :: allUses args
  | .next name args rest =>
    { name, args := args.length, last := false } :: (allUses args ++ rest.uses)

def allUses : List Written → List Use
  | [] => []
  | a :: as => a.uses ++ allUses as

end

/-- Where a path ends, the name has as many arguments as it takes. -/
def LastFit (us : List Use) : Prop :=
  ∀ u ∈ us, u.last = true → u.Fits

theorem lastFit_append {us vs : List Use} : LastFit (us ++ vs) ↔ LastFit us ∧ LastFit vs := by
  simp [LastFit, or_imp, forall_and]

theorem lastFit_cons {u : Use} {us : List Use} :
    LastFit (u :: us) ↔ (u.last = true → u.Fits) ∧ LastFit us := by
  simp [LastFit]

/-- A name means something just if it has as many arguments as it takes. -/
theorem exists_resolve_iff {name : String} {args : List TypeExpr} {last : Bool} :
    (∃ t, resolve name args = .ok t) ↔ Use.Fits { name, args := args.length, last } := by
  unfold resolve Use.Fits takesArgument
  by_cases hpin : name = "Pin"
  · subst hpin
    rcases args with _ | ⟨arg, _ | ⟨arg', args⟩⟩ <;> simp
  · cases hw : Wrapper.ofIdent? name with
    | some w => rcases args with _ | ⟨arg, _ | ⟨arg', args⟩⟩ <;> simp [hpin]
    | none =>
      cases args with
      | nil => by_cases hstr : name = "str" <;> cases Builtin.ofIdent? name <;> simp [hpin, hstr]
      | cons arg args => simp [hpin]

theorem length_meanings? {as : List Written} {ts : List TypeExpr}
    (h : meanings? as = some ts) : as.length = ts.length := by
  induction as generalizing ts with
  | nil =>
    obtain rfl : [] = ts := by simpa [meanings?] using h
    rfl
  | cons a as ih =>
    obtain ⟨t, ts, -, hts, rfl⟩ := meanings?_cons.1 h
    simp [ih hts]

theorem exists_map_eq_some_iff {o : Option TypeExpr} {f : TypeExpr → TypeExpr} :
    (∃ t, o.map f = some t) ↔ ∃ t, o = some t := by
  cases o <;> simp

mutual

/-- A tree has a meaning just if its last segments fit. -/
theorem Written.exists_meaning?_iff (w : Written) :
    (∃ t, w.meaning? = some t) ↔ LastFit w.uses := by
  cases w with
  | unit => simp [Written.meaning?, Written.uses, LastFit]
  | str l => simp [Written.meaning?, Written.uses, LastFit]
  | slice l m elem =>
    have ih := elem.exists_meaning?_iff
    simpa only [Written.meaning?, Written.uses, exists_map_eq_some_iff] using ih
  | reference l m target =>
    have ih := target.exists_meaning?_iff
    simpa only [Written.meaning?, Written.uses, exists_map_eq_some_iff] using ih
  | pointer m target =>
    have ih := target.exists_meaning?_iff
    simpa only [Written.meaning?, Written.uses, exists_map_eq_some_iff] using ih
  | array elem length =>
    have ih := elem.exists_meaning?_iff
    simpa only [Written.meaning?, Written.uses, exists_map_eq_some_iff] using ih
  | path root p => exact p.exists_meaning?_iff

theorem Segments.exists_meaning?_iff (p : Segments) :
    (∃ t, p.meaning? = some t) ↔ LastFit p.uses := by
  cases p with
  | last name args =>
    have hargs := exists_meanings?_iff args
    simp only [Segments.meaning?, Segments.uses, lastFit_cons, forall_const, ← hargs,
      Option.bind_eq_some_iff, resolve_toOption]
    constructor
    · rintro ⟨t, ts, hts, ht⟩
      rw [length_meanings? hts]
      exact ⟨exists_resolve_iff.1 ⟨t, ht⟩, ts, hts⟩
    · rintro ⟨hfits, ts, hts⟩
      rw [length_meanings? hts] at hfits
      obtain ⟨t, ht⟩ := exists_resolve_iff.2 hfits
      exact ⟨t, ts, hts, ht⟩
  | next name args more =>
    have hargs := exists_meanings?_iff args
    have ih := more.exists_meaning?_iff
    simp only [Segments.meaning?, Segments.uses, lastFit_cons, lastFit_append, ← hargs, ← ih,
      Option.bind_eq_some_iff]
    simp

theorem exists_meanings?_iff (as : List Written) :
    (∃ ts, meanings? as = some ts) ↔ LastFit (allUses as) := by
  cases as with
  | nil => simp [meanings?, allUses, LastFit]
  | cons a as =>
    have ih := a.exists_meaning?_iff
    have ihs := exists_meanings?_iff as
    simp only [allUses, lastFit_append, ← ih, ← ihs, meanings?_cons]
    constructor
    · rintro ⟨us, t, ts, ht, hts, -⟩
      exact ⟨⟨t, ht⟩, ts, hts⟩
    · rintro ⟨⟨t, ht⟩, ts, hts⟩
      exact ⟨_, t, ts, ht, hts, rfl⟩

end

variable {table : NameTable} {s : String}

/--
A text with a C++ type is written as one tree. Of the texts that are, those have a C++ type in
which every segment that ends a path, at whatever depth, has as many arguments as its name takes:
one for `Pin` and the wrappers, and none for others.
-/
theorem spell_iff_fits (table : NameTable) (s : String) :
    ((∃ c, spell table s = .ok c) → ∃ w : Written, w.Writes s) ∧
      ∀ w : Written, w.Writes s →
        ((∃ c, spell table s = .ok c) ↔ ∀ u ∈ w.uses, u.last = true → u.Fits) := by
  constructor
  · rintro ⟨c, hc⟩
    obtain ⟨w, -, hw, -⟩ := spell_eq_ok_iff_writes.1 hc
    exact ⟨w, hw⟩
  · intro w hw
    have hmeaning : (∃ c, spell table s = .ok c) ↔ ∃ t, w.meaning? = some t := by
      simp only [hw.spell_eq_ok_iff]
      grind
    exact hmeaning.trans w.exists_meaning?_iff

/--
Arguments of a segment that does not end its path are read and forgotten, although there are two
where the name takes one.
-/
theorem spell_forgets_arguments :
    spell {} "Vec<i32, bool>::Foo" = .ok "Foo" ∧
      ∃ w : Written, w.Writes "Vec<i32, bool>::Foo" ∧
        { name := "Vec", args := 2, last := false } ∈ w.uses ∧
        ¬ Use.Fits { name := "Vec", args := 2, last := false } := by
  let w : Written := .path false (.next "Vec"
    [.path false (.last "i32" []), .path false (.last "bool" [])] (.last "Foo" []))
  have hw : w.Writes "Vec<i32, bool>::Foo" := by
    refine ⟨?_, by cbv⟩
    simp only [w, Written.Proper, Segments.Proper, AllProper]
    decide
  exact ⟨by cbv, w, hw, by decide, by decide⟩

end SignalBinding.TypeExpr
