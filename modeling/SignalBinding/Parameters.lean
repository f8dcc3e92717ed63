import SignalBinding.Signal
import SignalBinding.TypeExpr.Reading

/-!
# Parameter lists

How the parameters of a signal appear in its connect helper: as formal parameters, as argument
types of the closure, and as the values that the closure is called with.

## Main definitions

- `SelfValue`: the object that the closure is called on
- `Parameters`: the three lists
- `Parameters.ofParameters`: the lists of some parameters, or the first type that has no counterpart
  in C++
-/

namespace SignalBinding

/-- The object that a closure is called on, of the C++ type `type`. -/
inductive SelfValue
  /-- The generated object itself. -/
  | member (type : String)
  /-- An object that exists already and is handed over by reference. -/
  | foreign (type : String)
  deriving DecidableEq, Repr, Inhabited

namespace SelfValue

def type : SelfValue → String
  | member type => type
  | foreign type => type

/-- The expression for the object. -/
def ident : SelfValue → String
  | member _ => "*this"
  | foreign _ => "self"

/-- The existing object `ident` under its C++ name. -/
def resolve (ident : String) (table : NameTable) : SelfValue :=
  foreign (table.cppName ident)

end SelfValue

/-- The parameter lists of a connect helper. -/
structure Parameters where
  /-- The formal parameters, without the object itself. -/
  signalTypes : List String
  /-- The argument types of the closure, the object first. -/
  closureTypes : List String
  /-- The values that the closure is called with, the object first. -/
  forwardedValues : List String
  deriving DecidableEq, Repr, Inhabited

namespace Parameters

/-- Items of a list as C++ separates them. -/
def commaSeparated (items : List String) : String :=
  ", ".intercalate items

def signalText (p : Parameters) : String := commaSeparated p.signalTypes
def closureText (p : Parameters) : String := commaSeparated p.closureTypes
def valuesText (p : Parameters) : String := commaSeparated p.forwardedValues

/-- A formal parameter in C++. -/
def formal (table : NameTable) (p : Parameter) : Except TypeExpr.Unresolved String := do
  return (← TypeExpr.spell table p.type) ++ " " ++ p.ident

/-- All formal parameters, or the first that has no type in C++. -/
def formals (table : NameTable) : List Parameter → Except TypeExpr.Unresolved (List String)
  | [] => return []
  | p :: ps => do
    let f ← formal table p
    let fs ← formals table ps
    return f :: fs

/-- A parameter handed on for good. -/
def forwarded (p : Parameter) : String :=
  "::std::move(" ++ p.ident ++ ")"

/-- The parameter lists of `ps` for a closure on `self`. -/
def ofParameters (table : NameTable) (self : SelfValue) (ps : List Parameter) :
    Except TypeExpr.Unresolved Parameters := do
  let fs ← formals table ps
  return {
    signalTypes := fs
    closureTypes := (self.type ++ "&") :: fs
    forwardedValues := self.ident :: ps.map forwarded }

end Parameters

end SignalBinding
