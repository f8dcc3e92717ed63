import SignalBinding.NameTable
import SignalBinding.Naming

/-!
# Declarations

What a bridge declares: objects with signals of their own, signals of objects that exist already
(free signals), and a name table for both.
-/

namespace SignalBinding

/-- A parameter of a signal; its type is kept as it is written. -/
structure Parameter where
  ident : String
  type : String
  deriving DecidableEq, Repr, Inhabited

/-- A signal on the object `owner`. An inherited signal is declared by a base class already. -/
structure Signal where
  owner : String
  name : NamePair
  parameters : List Parameter := []
  «mutable» : Bool := true
  safe : Bool := true
  inherit : Bool := false
  deriving DecidableEq, Repr, Inhabited

/-- An object whose class is generated, with its signals in declared order. -/
structure Object where
  ident : String
  cppName? : Option String := none
  signals : List Signal := []
  deriving DecidableEq, Repr, Inhabited

namespace Object

/-- The C++ class: the given name unless it is missing or empty, else the object's own. -/
def className (o : Object) : String :=
  match o.cppName? with
  | some name => if name = "" then o.ident else name
  | none => o.ident

/-- The names of the class on both sides. -/
def classNames (o : Object) : NamePair where
  cpp := o.className
  rust := o.ident

end Object

/-- Everything that one bridge description declares. -/
structure Bridge where
  table : NameTable := {}
  objects : List Object := []
  freeSignals : List Signal := []
  deriving Inhabited

/-- The table that counts for a bridge when the entries of `table?` go before its own. -/
def Bridge.effectiveTable (b : Bridge) (table? : Option NameTable) : NameTable :=
  (table?.map b.table.merge).getD b.table

end SignalBinding
