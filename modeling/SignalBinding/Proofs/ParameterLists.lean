import SignalBinding.Parameters

/-!
# The parameter lists of a signal

A parameter list fails as a whole, with the first type in it that has no counterpart in C++; the
name table has no part in that.

## Main definitions

- `Signal.Failing`: some parameter type of the signal is refused
- `refusal?`: the first type that is refused
- `Parameters.spelled`: the lists of parameters of which none is refused
-/

namespace SignalBinding

open TypeExpr (Unresolved spell)

/-- Some parameter of the signal has a type without a counterpart in C++. -/
def Signal.Failing (table : NameTable) (s : Signal) : Prop :=
  ∃ p ∈ s.parameters, ∃ e, spell table p.type = .error e

namespace Parameter

/-- Why the type of the parameter is refused, if it is. -/
def refusal? (table : NameTable) (p : Parameter) : Option Unresolved :=
  match spell table p.type with
  | .error e => some e
  | .ok _ => none

/-- The C++ type of the parameter; of use only if it has one. -/
def cppType (table : NameTable) (p : Parameter) : String :=
  (spell table p.type).toOption.getD ""

/-- The first refusal among some parameters. -/
def firstRefusal? (table : NameTable) (ps : List Parameter) : Option Unresolved :=
  ps.findSome? (refusal? table)

theorem refusal?_eq_some_iff {table : NameTable} {p : Parameter} {e : Unresolved} :
    p.refusal? table = some e ↔ spell table p.type = .error e := by
  unfold refusal?
  cases spell table p.type <;> simp

theorem refusal?_eq_none_iff {table : NameTable} {p : Parameter} :
    p.refusal? table = none ↔ ∃ c, spell table p.type = .ok c := by
  unfold refusal?
  cases spell table p.type <;> simp

theorem firstRefusal?_eq_none_iff {table : NameTable} {ps : List Parameter} :
    firstRefusal? table ps = none ↔ ∀ p ∈ ps, ∃ c, spell table p.type = .ok c := by
  simp only [firstRefusal?, List.findSome?_eq_none_iff, refusal?_eq_none_iff]

/-- Whether a type is refused, and why, is not a matter of names. -/
theorem refusal?_eq (table table' : NameTable) (p : Parameter) :
    p.refusal? table = p.refusal? table' := by
  unfold refusal? spell
  cases TypeExpr.ofText p.type <;> rfl

theorem firstRefusal?_eq (table table' : NameTable) (ps : List Parameter) :
    firstRefusal? table ps = firstRefusal? table' ps := by
  unfold firstRefusal?
  congr 1
  funext p
  exact refusal?_eq table table' p

end Parameter

open Parameter

theorem Signal.failing_iff {table : NameTable} {s : Signal} :
    s.Failing table ↔ (firstRefusal? table s.parameters).isSome = true := by
  rw [firstRefusal?, List.findSome?_isSome_iff]
  simp only [Signal.Failing, Option.isSome_iff_exists, refusal?_eq_some_iff]

instance (table : NameTable) (s : Signal) : Decidable (s.Failing table) :=
  decidable_of_iff _ Signal.failing_iff.symm

namespace Parameters

/-- The parameter lists of `ps` for a closure on `self`, each type as it is spelled. -/
def spelled (table : NameTable) (self : SelfValue) (ps : List Parameter) : Parameters :=
  let fs := ps.map fun p => p.cppType table ++ " " ++ p.ident
  { signalTypes := fs
    closureTypes := (self.type ++ "&") :: fs
    forwardedValues := self.ident :: ps.map forwarded }

theorem formals_eq (table : NameTable) (ps : List Parameter) :
    formals table ps =
      match firstRefusal? table ps with
      | some e => .error e
      | none => .ok (ps.map fun p => p.cppType table ++ " " ++ p.ident) := by
  induction ps with
  | nil => rfl
  | cons p ps ih =>
    rw [formals, ih, formal]
    cases h : spell table p.type with
    | error e => simp [firstRefusal?, refusal?, h, bind, Except.bind]
    | ok c =>
      simp only [firstRefusal?, List.findSome?_cons, refusal?, h]
      cases ps.findSome? (refusal? table) <;>
        simp [cppType, h, bind, Except.bind, pure, Except.pure, Except.toOption]

/-- All lists at once, or the first refusal. -/
theorem ofParameters_eq (table : NameTable) (self : SelfValue) (ps : List Parameter) :
    ofParameters table self ps =
      match firstRefusal? table ps with
      | some e => .error e
      | none => .ok (spelled table self ps) := by
  rw [ofParameters, formals_eq]
  cases firstRefusal? table ps <;> rfl

end Parameters

end SignalBinding
