import SignalBinding.TypeExpr.Basic
import SignalBinding.TypeExpr.Token

/-!
# Reading type expressions

From the text of a type to the type, or to the first fault in the text. Every reader below takes
tokens from the front of a list and answers with fewer tokens than it was given, which is why
reading ends.

## Main definitions

- `Fault`: why a text is no parameter type, and `Fault.message`
- `parse`: the type at the front of a token list
- `ofText`: the type that a whole text denotes
- `spell`: the C++ type of a text under a name table
-/

namespace SignalBinding.TypeExpr

/-- Why a text is no parameter type. -/
inductive Fault
  | empty
  | strayCharacter (c : Char)
  | unexpectedEnd
  | leftover (token : Token)
  | mismatch (wanted found : Token)
  | tuple
  | bareRawPointer
  | arrayLength
  | notAName (found : Token)
  | reserved (word : String)
  | arity (ident : String) (found : Nat)
  | genericArguments (ident : String)
  | bareStr
  deriving DecidableEq, Repr, Inhabited

def Fault.message : Fault → String
  | empty => "empty type"
  | strayCharacter c => "unexpected character `" ++ c.toString ++ "`"
  | unexpectedEnd => "unexpected end of type"
  | leftover token => "unexpected `" ++ token.text ++ "`"
  | mismatch wanted found => "expected `" ++ wanted.text ++ "` but found `" ++ found.text ++ "`"
  | tuple => "tuples are not supported"
  | bareRawPointer => "raw pointers must be `*const` or `*mut`"
  | arrayLength => "array length must be an integer literal"
  | notAName found => "expected a type name but found `" ++ found.text ++ "`"
  | reserved word => "`" ++ word ++ "` is not supported in a parameter type"
  | arity ident found =>
    "`" ++ ident ++ "` expects 1 generic argument(s), found " ++ toString found
  | genericArguments ident => "generic arguments are not supported on `" ++ ident ++ "`"
  | bareStr => "`str` is only supported behind a shared reference (`&str`)"

/-- Words that cannot name a type. -/
def isReserved (word : String) : Bool :=
  word ∈ ["const", "dyn", "fn", "impl", "mut", "Self"]

/--
The type that a name with generic arguments denotes. `Pin` and the wrappers take one argument, all
other names none.
-/
def resolve (ident : String) (args : List TypeExpr) : Except Fault TypeExpr :=
  if ident = "Pin" then
    match args with
    | [arg] => .ok arg
    | _ => .error (.arity ident args.length)
  else
    match Wrapper.ofIdent? ident with
    | some w =>
      match args with
      | [arg] => .ok (.wrapped w arg)
      | _ => .error (.arity ident args.length)
    | none =>
      match args with
      | _ :: _ => .error (.genericArguments ident)
      | [] =>
        if ident = "str" then .error .bareStr
        else
          match Builtin.ofIdent? ident with
          | some b => .ok (.builtin b)
          | none => .ok (.named ident)

/-- The tokens left when some tokens at the front of `ts` are read. -/
abbrev Rest (ts : List Token) : Type := { rest : List Token // rest.length < ts.length }

/-- Reads the token `wanted`. -/
def expect (wanted : Token) : (ts : List Token) → Except Fault (Rest ts)
  | [] => .error .unexpectedEnd
  | t :: rest => if t = wanted then .ok ⟨rest, Nat.lt_succ_self _⟩ else .error (.mismatch wanted t)

/-- Reads the token `wanted` if it is there. -/
def accept? (wanted : Token) : (ts : List Token) → Option (Rest ts)
  | [] => none
  | t :: rest => if t = wanted then some ⟨rest, Nat.lt_succ_self _⟩ else none

/-- Reads the length of an array. -/
def parseLength : (ts : List Token) → Except Fault (String × Rest ts)
  | [] => .error .unexpectedEnd
  | .number digits :: rest => .ok (digits, ⟨rest, Nat.lt_succ_self _⟩)
  | _ :: _ => .error .arrayLength

/-- Reads what may follow an ampersand: a lifetime, which means nothing, and `mut`. -/
def afterAmp : List Token → Bool × List Token
  | .lifetime _ :: .ident "mut" :: rest => (true, rest)
  | .lifetime _ :: rest => (false, rest)
  | .ident "mut" :: rest => (true, rest)
  | ts => (false, ts)

theorem length_afterAmp_le (ts : List Token) : (afterAmp ts).2.length ≤ ts.length := by
  fun_cases afterAmp ts <;> grind

mutual

/-- Reads a type. -/
def parse (ts : List Token) : Except Fault (TypeExpr × Rest ts) :=
  match ts with
  | .amp :: us =>
    have hus := length_afterAmp_le us
    match h : afterAmp us with
    | (mutable, .lbracket :: vs) => do
      have hvs : vs.length < us.length := by simp only [h, List.length_cons] at hus; omega
      let (elem, ⟨ws, _⟩) ← parse vs
      let ⟨rest, _⟩ ← expect .rbracket ws
      return (.slice mutable elem, ⟨rest, by simp only [List.length_cons]; omega⟩)
    | (false, .ident "str" :: vs) =>
      return (.str, ⟨vs, by simp only [h, List.length_cons] at hus ⊢; omega⟩)
    | (mutable, vs) => do
      have hvs : vs.length ≤ us.length := by simpa [h] using hus
      let (target, ⟨rest, _⟩) ← parse vs
      return (.reference mutable target, ⟨rest, by simp only [List.length_cons]; omega⟩)
  | .star :: .ident "const" :: us => do
    let (target, ⟨rest, _⟩) ← parse us
    return (.pointer false target, ⟨rest, by simp only [List.length_cons]; omega⟩)
  | .star :: .ident "mut" :: us => do
    let (target, ⟨rest, _⟩) ← parse us
    return (.pointer true target, ⟨rest, by simp only [List.length_cons]; omega⟩)
  | .star :: _ => .error .bareRawPointer
  | .lbracket :: us => do
    let (elem, ⟨vs, _⟩) ← parse us
    let ⟨ws, _⟩ ← expect .semicolon vs
    let (length, ⟨xs, _⟩) ← parseLength ws
    let ⟨rest, _⟩ ← expect .rbracket xs
    return (.array elem length, ⟨rest, by simp only [List.length_cons]; omega⟩)
  | .lparen :: .rparen :: rest => return (.unit, ⟨rest, by simp only [List.length_cons]; omega⟩)
  | .lparen :: _ => .error .tuple
  | .pathSep :: us => do
    let (t, ⟨rest, _⟩) ← parsePath us
    return (t, ⟨rest, by simp only [List.length_cons]; omega⟩)
  | ts => parsePath ts
  termination_by (ts.length, 2)

/-- Reads the segments of a path; the last one says what the path denotes. -/
def parsePath (ts : List Token) : Except Fault (TypeExpr × Rest ts) := do
  let ((ident, args), ⟨us, hu⟩) ← parseSegment ts
  match accept? .pathSep us with
  | some ⟨vs, _⟩ => do
    let (t, ⟨rest, _⟩) ← parsePath vs
    return (t, ⟨rest, by omega⟩)
  | none => do
    let t ← resolve ident args
    return (t, ⟨us, hu⟩)
  termination_by (ts.length, 1)

/-- Reads a name and its generic arguments, if there are any. -/
def parseSegment (ts : List Token) : Except Fault ((String × List TypeExpr) × Rest ts) :=
  match ts with
  | [] => .error .unexpectedEnd
  | .ident name :: us =>
    if isReserved name then .error (.reserved name)
    else
      match accept? .less us with
      | some ⟨vs, _⟩ => do
        let (args, ⟨ws, _⟩) ← parseArguments vs
        let ⟨rest, _⟩ ← expect .greater ws
        return ((name, args), ⟨rest, by simp only [List.length_cons]; omega⟩)
      | none => return ((name, []), ⟨us, Nat.lt_succ_self _⟩)
  | t :: _ => .error (.notAName t)
  termination_by (ts.length, 0)

/-- Reads one or more types with commas between them. -/
def parseArguments (ts : List Token) : Except Fault (List TypeExpr × Rest ts) := do
  let (arg, ⟨us, hu⟩) ← parse ts
  match accept? .comma us with
  | some ⟨vs, _⟩ => do
    let (args, ⟨rest, _⟩) ← parseArguments vs
    return (arg :: args, ⟨rest, by omega⟩)
  | none => return ([arg], ⟨us, hu⟩)
  termination_by (ts.length, 3)

end

/-- The type that a token list denotes as a whole. -/
def ofTokens : List Token → Except Fault TypeExpr
  | [] => .error .empty
  | ts => do
    match ← parse ts with
    | (t, ⟨[], _⟩) => return t
    | (_, ⟨token :: _, _⟩) => .error (.leftover token)

/-- The type that a text denotes. -/
def ofText (s : String) : Except Fault TypeExpr :=
  match tokens s.toList with
  | .error c => .error (.strayCharacter c)
  | .ok ts => ofTokens ts

/-- A text that is no parameter type, and why it is none. -/
structure Unresolved where
  source : String
  fault : Fault
  deriving DecidableEq, Repr, Inhabited

def Unresolved.message (e : Unresolved) : String :=
  "Unable to resolve type `" ++ e.source ++ "`: " ++ e.fault.message

/-- The C++ type of a text. The table gives names to the user's types and decides nothing else. -/
def spell (table : NameTable) (source : String) : Except Unresolved String :=
  match ofText source with
  | .ok t => .ok (t.cpp table)
  | .error fault => .error { source, fault }

end SignalBinding.TypeExpr
