import SignalBinding.Decimal.Numeral

/-!
# Literals in templates

Texts between quotes. A backslash and what follows it may stand for a character: by a letter of its
own, by a number to the base eight or sixteen, or by a name. Which characters have names is for
`named?` to say. Other backslashes stand for themselves, and one at the end of a line takes the line
end away.

Characters outside ASCII count as their own escapes, so that a backslash in front of one is a
backslash in front of a backslash.

## Main definitions

- `Literal.split?`: a literal up to its closing quote
- `Literal.unescape?`: what a literal stands for
-/

namespace SignalBinding.Template.Literal

/-- The characters up to the closing quote, and what follows it. A backslash takes the character
behind it along. -/
def split? (quote : Char) : List Char → Option (List Char × List Char)
  | [] => none
  | '\\' :: c :: rest => do
    let (s, rest) ← split? quote rest
    return ('\\' :: c :: s, rest)
  | c :: rest =>
    if c = quote then some ([], rest)
    else do
      let (s, rest) ← split? quote rest
      return (c :: s, rest)

/-- A number in lower-case digits to the base sixteen, with zeros in front to make `width`. -/
def hexText (width n : Nat) : List Char :=
  let ds := Nat.toDigits 16 n
  List.replicate (width - ds.length) '0' ++ ds

/-- A character as ASCII characters. -/
def asciiForm (c : Char) : List Char :=
  let n := c.toNat
  if n < 0x80 then [c]
  else if n < 0x100 then '\\' :: 'x' :: hexText 2 n
  else if n < 0x10000 then '\\' :: 'u' :: hexText 4 n
  else '\\' :: 'U' :: hexText 8 n

/-- The value of the character behind a backslash, if it has one of its own. -/
def simple? : Char → Option Char
  | 'a' => some '\x07'
  | 'b' => some '\x08'
  | 't' => some '\t'
  | 'n' => some '\n'
  | 'v' => some '\x0b'
  | 'f' => some '\x0c'
  | 'r' => some '\r'
  | '\\' => some '\\'
  | '\'' => some '\''
  | '"' => some '"'
  | _ => none

def isOctal (c : Char) : Bool :=
  '0' ≤ c && c ≤ '7'

/-- The character whose number is written in the first `width` characters. -/
def numbered? (width : Nat) (cs : List Char) : Option Char := do
  let n ← Numeral.natural? 16 (cs.take width)
  if h : (cs.take width).length = width ∧ n.isValidChar then some (Char.ofNatAux n h.2) else none

/-- The length of the name that is written between braces. -/
def nameLength? : List Char → Option Nat
  | '\x7b' :: rest => if '\x7d' ∈ rest then some (rest.takeWhile (· != '\x7d')).length else none
  | _ => none

/--
What a backslash and the character `c` stand for, and how many of the characters behind, which are
`rest`, belong to them.
-/
def escape? (named? : String → Option Char) (c : Char) (rest : List Char) :
    Option (List Char × Nat) :=
  match simple? c with
  | some d => some ([d], 0)
  | none =>
    if isOctal c then
      let digits := c :: (rest.take 2).takeWhile isOctal
      (Numeral.natural? 8 digits).map fun n => ([Char.ofNat n], digits.length - 1)
    else
      match c with
      | '\n' => some ([], 0)
      | 'x' => (numbered? 2 rest).map fun d => ([d], 2)
      | 'u' => (numbered? 4 rest).map fun d => ([d], 4)
      | 'U' => (numbered? 8 rest).map fun d => ([d], 8)
      | 'N' => do
        let length ← nameLength? rest
        let d ← named? (String.ofList ((rest.drop 1).take length))
        return ([d], length + 2)
      | _ => some (['\\', c], 0)

/-- What ASCII characters with escapes stand for. -/
def decode? (named? : String → Option Char) : List Char → Option (List Char)
  | [] => some []
  | '\\' :: c :: rest => do
    let (text, length) ← escape? named? c rest
    return text ++ (← decode? named? (rest.drop length))
  | c :: rest => do return c :: (← decode? named? rest)
termination_by cs => cs.length
decreasing_by all_goals simp only [List.length_cons, List.length_drop]; omega

/-- What the characters between two quotes stand for; none if some escape stands for nothing. -/
def unescape? (named? : String → Option Char) (cs : List Char) : Option (List Char) :=
  decode? named? (cs.flatMap asciiForm)

variable {named? : String → Option Char}

example : (unescape? named? "\\x41\\101\\18é\\q\\\n".toList).map String.ofList =
    some "AA\x018é\\q" := by
  cbv

example : unescape? named? "\\u12".toList = none := by cbv

example : (unescape? named? "\\é".toList).map String.ofList = some "\\xe9" := by cbv

end SignalBinding.Template.Literal
