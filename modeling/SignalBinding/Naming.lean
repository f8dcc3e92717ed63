import SignalBinding.Text.Blank
import SignalBinding.Text.Lower

/-!
# Naming

How the C++ names of signals and of their connect helpers come from Rust names.

## Main definitions

- `NamePair`: the two names of one item
- `lowerCamel`: the C++ form of a Rust name
- `NamePair.ofRust`, `NamePair.connect`: the names of a signal and of its connect helper
-/

namespace SignalBinding

/-- The names of one item on the two sides. -/
structure NamePair where
  cpp : String
  rust : String
  deriving DecidableEq, Repr, Inhabited

namespace Naming

/-- An ASCII letter or digit, which starts a new word after an underscore. -/
def startsWord (c : Char) : Bool :=
  c.isAlphanum

/--
Writes the words of a snake-case name one after the other, each but the first with a capital.
`gap` counts the underscores read just before; they stay where no word follows.
-/
def joinWords (gap : Nat) : List Char → List Char
  | [] => List.replicate gap '_'
  | c :: cs =>
    if c = '_' then joinWords (gap + 1) cs
    else if gap ≠ 0 ∧ startsWord c then c.toUpper :: joinWords 0 cs
    else List.replicate gap '_' ++ c :: joinWords 0 cs

/-- The characters with the first one in lower case. -/
def lowerFirst : List Char → List Char
  | [] => []
  | c :: cs => Text.lower c ++ cs

/--
The lower camel case of a snake-case name, without the underscores at its ends. A name of
underscores alone has no words and stays as it is.
-/
def lowerCamel (ident : String) : String :=
  match Text.trim (· == '_') ident.toList with
  | [] => ident
  | cs => String.ofList (lowerFirst (joinWords 0 cs))

end Naming

namespace NamePair

/-- The names of a signal: a C++ name that is given and not empty counts before the derived one. -/
def ofRust (rust : String) (given : Option String := none) : NamePair where
  rust
  cpp :=
    match given with
    | some name => if name = "" then Naming.lowerCamel rust else name
    | none => Naming.lowerCamel rust

/-- The names of a signal's connect helper. -/
def connect (name : NamePair) : NamePair where
  cpp := name.cpp ++ "Connect"
  rust := "connect_" ++ name.rust

end NamePair

end SignalBinding
