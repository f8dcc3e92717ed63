import SignalBinding.Text.Printable

/-!
# Quoted texts

A text between quotes, on one line and with visible characters only.

## Main definitions

- `escape`: how a character is written between quotes
- `quote`: a text with its quotes
- `quoteBytes`: bytes with their quotes
-/

namespace SignalBinding.Text

/-- The last `width` hexadecimal digits of `n`. -/
def hexDigits : Nat → Nat → List Char
  | 0, _ => []
  | width + 1, n => hexDigits width (n / 16) ++ [Nat.digitChar (n % 16)]

/--
A character between two `delimiter`s: delimiter, backslash, tabulator and line ends behind a
backslash, what is not printable by its number with two, four or eight hexadecimal digits.
-/
def escape (delimiter c : Char) : List Char :=
  if c = delimiter ∨ c = '\\' then ['\\', c]
  else if c = '\t' then ['\\', 't']
  else if c = '\n' then ['\\', 'n']
  else if c = '\r' then ['\\', 'r']
  else if isPrintable c then [c]
  else if c.toNat < 0x100 then '\\' :: 'x' :: hexDigits 2 c.toNat
  else if c.toNat < 0x10000 then '\\' :: 'u' :: hexDigits 4 c.toNat
  else '\\' :: 'U' :: hexDigits 8 c.toNat

/-- Single quotes, or double ones for a text that has single quotes and no double ones. -/
def delimiter (cs : List Char) : Char :=
  if '\'' ∈ cs ∧ '"' ∉ cs then '"' else '\''

def quote (s : String) : String :=
  let d := delimiter s.toList
  String.ofList (d :: s.toList.flatMap (escape d) ++ [d])

/-- A byte between two `delimiter`s: one that is no ASCII character by its number. -/
def escapeByte (delimiter : Char) (b : UInt8) : List Char :=
  if b < 0x80 then escape delimiter (Char.ofNat b.toNat) else '\\' :: 'x' :: hexDigits 2 b.toNat

def quoteBytes (bytes : List UInt8) : String :=
  let d := delimiter (bytes.map fun b => Char.ofNat b.toNat)
  String.ofList ('b' :: d :: bytes.flatMap (escapeByte d) ++ [d])

example : quoteBytes [0x61, 0x27, 0x0a, 0xff] = "b\"a'\\n\\xff\"" := by decide +kernel

end SignalBinding.Text
