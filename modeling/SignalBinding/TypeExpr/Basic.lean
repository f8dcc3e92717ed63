import SignalBinding.NameTable

/-!
# Type expressions

The parameter types that signals may have, and how each is spelled in C++. A path of Rust means
what its last segment means, so only that is kept; a pinned type means the type itself.
-/

namespace SignalBinding

/-- Generic types with one argument that have a C++ counterpart. -/
inductive Wrapper
  | box
  | cxxVector
  | sharedPtr
  | uniquePtr
  | vec
  | weakPtr
  deriving DecidableEq, Repr

namespace Wrapper

def ofIdent? : String → Option Wrapper
  | "Box" => some box
  | "CxxVector" => some cxxVector
  | "SharedPtr" => some sharedPtr
  | "UniquePtr" => some uniquePtr
  | "Vec" => some vec
  | "WeakPtr" => some weakPtr
  | _ => none

def cpp : Wrapper → String
  | box => "::rust::Box"
  | cxxVector => "::std::vector"
  | sharedPtr => "::std::shared_ptr"
  | uniquePtr => "::std::unique_ptr"
  | vec => "::rust::Vec"
  | weakPtr => "::std::weak_ptr"

end Wrapper

/-- Types with a C++ counterpart of fixed name. -/
inductive Builtin
  | bool
  | cChar
  | char
  | f32
  | f64
  | i8
  | i16
  | i32
  | i64
  | isize
  | u8
  | u16
  | u32
  | u64
  | usize
  | string
  | cxxString
  deriving DecidableEq, Repr

namespace Builtin

def ofIdent? : String → Option Builtin
  | "bool" => some bool
  | "c_char" => some cChar
  | "char" => some char
  | "f32" => some f32
  | "f64" => some f64
  | "i8" => some i8
  | "i16" => some i16
  | "i32" => some i32
  | "i64" => some i64
  | "isize" => some isize
  | "u8" => some u8
  | "u16" => some u16
  | "u32" => some u32
  | "u64" => some u64
  | "usize" => some usize
  | "String" => some string
  | "CxxString" => some cxxString
  | _ => none

def cpp : Builtin → String
  | bool => "bool"
  | cChar => "char"
  | char => "char32_t"
  | f32 => "float"
  | f64 => "double"
  | i8 => "::std::int8_t"
  | i16 => "::std::int16_t"
  | i32 => "::std::int32_t"
  | i64 => "::std::int64_t"
  | isize => "::rust::isize"
  | u8 => "::std::uint8_t"
  | u16 => "::std::uint16_t"
  | u32 => "::std::uint32_t"
  | u64 => "::std::uint64_t"
  | usize => "::std::size_t"
  | string => "::rust::String"
  | cxxString => "::std::string"

end Builtin

/-- A parameter type. -/
inductive TypeExpr
  /-- The type `()`. -/
  | unit
  /-- The type `&str`. -/
  | str
  | builtin (b : Builtin)
  /-- A type of the user's, which a name table may rename. -/
  | named (ident : String)
  | wrapped (w : Wrapper) (arg : TypeExpr)
  /-- A slice behind a reference. -/
  | slice (mutable : Bool) (elem : TypeExpr)
  | reference (mutable : Bool) (target : TypeExpr)
  | pointer (mutable : Bool) (target : TypeExpr)
  /-- An array; its length stays as it is written. -/
  | array (elem : TypeExpr) (length : String)
  deriving DecidableEq, Repr, Inhabited

namespace TypeExpr

/-- The C++ type; what is not mutable is `const`. -/
def cpp (table : NameTable) : TypeExpr → String
  | unit => "void"
  | str => "::rust::Str"
  | builtin b => b.cpp
  | named ident => table.cppName ident
  | wrapped w arg => w.cpp ++ "<" ++ arg.cpp table ++ ">"
  | slice true elem => "::rust::Slice<" ++ elem.cpp table ++ ">"
  | slice false elem => "::rust::Slice<" ++ elem.cpp table ++ " const>"
  | reference true target => target.cpp table ++ "&"
  | reference false target => target.cpp table ++ " const&"
  | pointer true target => target.cpp table ++ "*"
  | pointer false target => target.cpp table ++ " const*"
  | array elem length => "::std::array<" ++ elem.cpp table ++ ", " ++ length ++ ">"

section

variable (table : NameTable) (t : TypeExpr)

@[simp] theorem cpp_unit : unit.cpp table = "void" := rfl
@[simp] theorem cpp_str : str.cpp table = "::rust::Str" := rfl
@[simp] theorem cpp_builtin (b : Builtin) : (builtin b).cpp table = b.cpp := rfl
@[simp] theorem cpp_named (ident : String) : (named ident).cpp table = table.cppName ident := rfl
@[simp] theorem cpp_wrapped (w : Wrapper) :
    (wrapped w t).cpp table = w.cpp ++ "<" ++ t.cpp table ++ ">" := rfl
@[simp] theorem cpp_slice :
    (slice false t).cpp table = "::rust::Slice<" ++ t.cpp table ++ " const>" := rfl
@[simp] theorem cpp_sliceMut :
    (slice true t).cpp table = "::rust::Slice<" ++ t.cpp table ++ ">" := rfl
@[simp] theorem cpp_reference : (reference false t).cpp table = t.cpp table ++ " const&" := rfl
@[simp] theorem cpp_referenceMut : (reference true t).cpp table = t.cpp table ++ "&" := rfl
@[simp] theorem cpp_pointer : (pointer false t).cpp table = t.cpp table ++ " const*" := rfl
@[simp] theorem cpp_pointerMut : (pointer true t).cpp table = t.cpp table ++ "*" := rfl
@[simp] theorem cpp_array (length : String) :
    (array t length).cpp table = "::std::array<" ++ t.cpp table ++ ", " ++ length ++ ">" := rfl

end

end TypeExpr

end SignalBinding
