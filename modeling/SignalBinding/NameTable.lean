import SignalBinding.Glossary
import SignalBinding.Text.Blank

/-!
# Name tables

A name table says how an item of the Rust side is called in C++: under which name, and in which
namespace. An item that the table does not mention keeps its name and has no namespace.
-/

namespace SignalBinding

/-- C++ names and namespaces of Rust items. -/
structure NameTable where
  renames : Glossary := {}
  namespaces : Glossary := {}
  deriving Inhabited

namespace NameTable

/-- The namespace of `ident` without colons around it; none if that leaves nothing. -/
def namespaceOf? (table : NameTable) (ident : String) : Option String :=
  match table.namespaces.get? ident with
  | none => none
  | some text =>
    match Text.trim (· == ':') text.toList with
    | [] => none
    | c :: cs => some (String.ofList (c :: cs))

/-- The C++ name of `ident` without its namespace. -/
def baseName (table : NameTable) (ident : String) : String :=
  (table.renames.get? ident).getD ident

/-- The C++ name of `ident`, counted from the global namespace if it has a namespace. -/
def cppName (table : NameTable) (ident : String) : String :=
  match table.namespaceOf? ident with
  | some ns => "::" ++ ns ++ "::" ++ table.baseName ident
  | none => table.baseName ident

/-- Lays `other` over `table`, renames and namespaces each on their own. -/
def merge (table other : NameTable) : NameTable where
  renames := table.renames.merge other.renames
  namespaces := table.namespaces.merge other.namespaces

end NameTable

end SignalBinding
