import SignalBinding.Decimal.Binary64
import SignalBinding.Text.Blank

/-!
# Numerals

Numbers as people write them: integers in some base, and decimals with a point and an exponent.
Digits may come from any script, and blanks around a numeral do not count.

## Main definitions

- `Numeral.digit?`: the value of a digit
- `Numeral.integer?`: the integer of a numeral
- `Numeral.binary64?`: the double-precision number nearest to a numeral
-/

namespace SignalBinding.Numeral

/-- The zeros of the scripts of Unicode that have decimal digits; the other digits follow each. -/
def zeros : List Nat := [
  48, 1632, 1776, 1984, 2406, 2534, 2662, 2790, 2918, 3046, 3174, 3302, 3430, 3558, 3664, 3792,
  3872, 4160, 4240, 6112, 6160, 6470, 6608, 6784, 6800, 6992, 7088, 7232, 7248, 42528, 43216, 43264,
  43472, 43504, 43600, 44016, 65296, 66720, 68912, 69734, 69872, 69942, 70096, 70384, 70736, 70864,
  71248, 71360, 71472, 71904, 72016, 72784, 73040, 73120, 92768, 92864, 93008, 120782, 120792,
  120802, 120812, 120822, 123200, 123632, 125264, 130032]

/-- The value of a decimal digit. -/
def decimalDigit? (c : Char) : Option Nat :=
  let n := c.toNat
  (zeros.find? fun z => z ≤ n && n < z + 10).map (n - ·)

/-- The value of a digit below `base`; ASCII letters go on after nine. -/
def digit? (base : Nat) (c : Char) : Option Nat :=
  let value? :=
    if c.isAlpha then some (c.toLower.toNat - 'a'.toNat + 10) else decimalDigit? c
  value?.filter (· < base)

/-- The number of a run of digits, behind the number `n`. -/
def continue? (base n : Nat) : List Char → Option Nat
  | [] => some n
  | c :: cs => do continue? base (n * base + (← digit? base c)) cs

/-- The number of a run of digits that is not empty. -/
def natural? (base : Nat) : List Char → Option Nat
  | [] => none
  | cs => continue? base 0 cs

/-- The sign at the front, and what follows it. -/
def sign : List Char → Bool × List Char
  | '-' :: rest => (true, rest)
  | '+' :: rest => (false, rest)
  | cs => (false, cs)

/-- What follows the mark of a base other than ten, if it is there. -/
def withoutMark (base : Nat) (cs : List Char) : List Char :=
  match cs with
  | '0' :: c :: rest =>
    if (base, c.toLower) ∈ [(2, 'b'), (8, 'o'), (16, 'x')] then rest else cs
  | _ => cs

/-- The integer of a numeral in some base: digits behind a sign and a mark, which may be missing. -/
def integer? (base : Nat) (cs : List Char) : Option Int := do
  let (negative, rest) := sign (Text.trim Text.isBlank cs)
  let n ← natural? base (withoutMark base rest)
  return if negative then -n else n

/-- Digits without a sign, and what follows them. -/
def digits (cs : List Char) : List Nat × List Char :=
  let isDigit (c : Char) := (decimalDigit? c).isSome
  ((cs.takeWhile isDigit).filterMap decimalDigit?, cs.dropWhile isDigit)

/-- The exponent behind `e`; none if the text is not an exponent. -/
def exponent? : List Char → Option Int
  | [] => some 0
  | c :: rest =>
    if c = 'e' ∨ c = 'E' then do
      let (negative, rest) := sign rest
      let n ← natural? 10 rest
      return if negative then -n else n
    else none

/-- A decimal with digits before or behind a point, and perhaps an exponent. -/
def positional? (cs : List Char) : Option Binary64 := do
  let (whole, rest) := digits cs
  let (fraction, rest) :=
    match rest with
    | '.' :: rest => digits rest
    | _ => ([], rest)
  let e ← exponent? rest
  if whole.isEmpty && fraction.isEmpty then none
  else
    let m := (whole ++ fraction).foldl (fun n d => n * 10 + d) 0
    return .ofDecimal m (e - fraction.length)

/-- The number of a numeral, which may also be the word for infinity or for no number. -/
def binary64? (cs : List Char) : Option Binary64 := do
  let (negative, rest) := sign (Text.trim Text.isBlank cs)
  let x ←
    match String.ofList (rest.map Char.toLower) with
    | "inf" | "infinity" => some .infinity
    | "nan" => some .nan
    | _ => positional? rest
  return if negative then x.neg else x

example : integer? 16 "-0x1F".toList = some (-31) := by decide

example : (binary64? " 1.5e3 ".toList) = some (.ofFloat 1500) := by decide +kernel

end SignalBinding.Numeral
