import SignalBinding.Text.Blank

/-!
# Fragments

The pieces of generated C++ and the two files that they make up.

## Main definitions

- `Fragment`: a declaration, alone or with its definition
- `headerText`: the header file of some fragments, one declaration after the other
- `sourceText`: the source file of some fragments, with blank lines between definitions
-/

namespace SignalBinding

/-- A piece of generated C++. -/
inductive Fragment
  /-- A declaration that needs no definition. -/
  | declaration (header : String)
  /-- A declaration with its definition. -/
  | pair (header source : String)
  deriving DecidableEq, Repr, Inhabited

namespace Fragment

def header : Fragment → String
  | declaration header => header
  | pair header _ => header

def source? : Fragment → Option String
  | declaration _ => none
  | pair _ source => some source

/-- The text without the line ends at its end. -/
def trimLineEnds (s : String) : String :=
  String.ofList (Text.trimRight (· == '\n') s.toList)

/-- The lines of all declarations, each closed by one line end. -/
def headerText : List Fragment → String
  | [] => ""
  | f :: rest => trimLineEnds f.header ++ "\n" ++ headerText rest

/-- The definitions among some fragments, without the line ends at their ends. -/
def definitions (fs : List Fragment) : List String :=
  (fs.filterMap source?).map trimLineEnds

/-- All definitions with a blank line between neighbours, and a line end after the last. -/
def sourceText (fs : List Fragment) : String :=
  match definitions fs with
  | [] => ""
  | ds => "\n\n".intercalate ds ++ "\n"

end Fragment

/-- Fragments that belong together, in the order in which they are written. -/
abbrev Block : Type := List Fragment

namespace Block

/-- The header file of several blocks. -/
def headerText (blocks : List Block) : String :=
  Fragment.headerText blocks.flatten

/-- The source file of several blocks. -/
def sourceText (blocks : List Block) : String :=
  Fragment.sourceText blocks.flatten

end Block

end SignalBinding
