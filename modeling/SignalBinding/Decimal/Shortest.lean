import SignalBinding.Decimal.Binary64

/-!
# Shortest decimals

The decimal with the fewest digits that reads back as a given double-precision number, and how it
is laid out as a numeral.

## Main definitions

- `Decimal`: digits and an exponent
- `Decimal.shortest`: the shortest decimal of a number
- `Layout`, `Decimal.print`: decimals as numerals
-/

namespace SignalBinding

/-- The number `digits * 10 ^ exponent`. -/
structure Decimal where
  digits : Nat
  exponent : Int
  deriving DecidableEq, Repr, Inhabited

namespace Decimal

/-- A fraction of natural numbers. -/
structure Fraction where
  num : Nat
  den : Nat
  deriving Repr

/-- The number `m * 2 ^ q`. -/
def Fraction.ofBinary (m : Nat) (q : Int) : Fraction :=
  if 0 ≤ q then ⟨m * Nat.pow 2 q.toNat, 1⟩ else ⟨m, Nat.pow 2 (-q).toNat⟩

/-- The number `m * 10 ^ k`. -/
def Fraction.ofDecimal (m : Nat) (k : Int) : Fraction :=
  if 0 ≤ k then ⟨m * Nat.pow 10 k.toNat, 1⟩ else ⟨m, Nat.pow 10 (-k).toNat⟩

def Fraction.lt (x y : Fraction) : Bool := x.num * y.den < y.num * x.den
def Fraction.le (x y : Fraction) : Bool := x.num * y.den ≤ y.num * x.den

/-- The absolute difference. -/
def Fraction.distance (x y : Fraction) : Fraction :=
  let a := x.num * y.den
  let b := y.num * x.den
  ⟨if a ≤ b then b - a else a - b, x.den * y.den⟩

/-- The decimal exponent of the leading digit of a number other than zero. -/
def Fraction.magnitude (x : Fraction) : Int :=
  let shift := (Nat.toDigits 10 x.den).length
  ((Nat.toDigits 10 (x.num * Nat.pow 10 shift / x.den)).length : Int) - 1 - shift

/-- The numbers that read back as one number: from `low` to `high`, with the ends if `closed`. -/
structure Interval where
  low : Fraction
  high : Fraction
  closed : Bool

def Interval.contains (i : Interval) (x : Fraction) : Bool :=
  if i.closed then i.low.le x && x.le i.high else i.low.lt x && x.lt i.high

/--
The interval of `m * 2 ^ q`: half way to its neighbours. The one below is twice as near where the
spacing changes.
-/
def interval (m : Nat) (q : Int) : Interval where
  low :=
    if m = Binary64.hiddenBit ∧ q ≠ -1074 then .ofBinary (4 * m - 1) (q - 2)
    else .ofBinary (4 * m - 2) (q - 2)
  high := .ofBinary (4 * m + 2) (q - 2)
  closed := m % 2 == 0

/--
The better of the two neighbours of `x` among the multiples of `10 ^ k`, if one of them lies in the
interval. Of two, the nearer one counts, and the even one if both are equally near.
-/
def onGrid? (i : Interval) (x : Fraction) (k : Int) : Option Nat :=
  let unit := Fraction.ofDecimal 1 k
  let lo := x.num * unit.den / (x.den * unit.num)
  let hi := lo + 1
  let loAt := Fraction.ofDecimal lo k
  let hiAt := Fraction.ofDecimal hi k
  match i.contains loAt, i.contains hiAt with
  | true, false => some lo
  | false, true => some hi
  | false, false => none
  | true, true =>
    let dlo := loAt.distance x
    let dhi := hiAt.distance x
    if dlo.lt dhi then some lo
    else if dhi.lt dlo then some hi
    else if lo % 2 = 0 then some lo else some hi

/-- Takes the zeros off the end of the digits; `fuel` bounds their number. -/
def normalize : Nat → Decimal → Decimal
  | 0, d => d
  | fuel + 1, d =>
    if d.digits ≠ 0 ∧ d.digits % 10 = 0 then normalize fuel ⟨d.digits / 10, d.exponent + 1⟩ else d

/-- Tries grids with more and more digits, at most `rounds` of them. -/
def search (i : Interval) (x : Fraction) : Nat → Int → Decimal
  | 0, k => ⟨x.num * (Fraction.ofDecimal 1 k).den / (x.den * (Fraction.ofDecimal 1 k).num), k⟩
  | rounds + 1, k =>
    match onGrid? i x k with
    | some d => normalize 20 ⟨d, k⟩
    | none => search i x rounds (k - 1)

/-- The shortest decimal that reads back as `m * 2 ^ q`. Seventeen digits are always enough. -/
def shortest (m : Nat) (q : Int) : Decimal :=
  if m = 0 then ⟨0, 0⟩
  else
    let x := Fraction.ofBinary m q
    search (interval m q) x 17 x.magnitude

/-- How decimals are laid out. -/
structure Layout where
  /-- Numbers from this power of ten on are positional. -/
  least : Int
  /-- Numbers below this power of ten are positional. -/
  bound : Int
  /-- What follows a positional numeral without a point. -/
  whole : String
  /-- The least number of digits of an exponent. -/
  exponentDigits : Nat

/-- The digits of an exponent behind its sign. -/
def exponentText (layout : Layout) (e : Int) : String :=
  let ds := toString e.natAbs
  (if e < 0 then "e-" else "e+") ++
    String.ofList (List.replicate (layout.exponentDigits - ds.length) '0') ++ ds

/-- The numeral of a decimal. -/
def print (layout : Layout) (d : Decimal) : String :=
  let ds := Nat.toDigits 10 d.digits
  /- The power of ten of the leading digit. -/
  let top := (ds.length : Int) - 1 + d.exponent
  if d.digits = 0 then "0" ++ layout.whole
  else if layout.least ≤ top ∧ top < layout.bound then
    if 0 ≤ d.exponent then
      String.ofList (ds ++ List.replicate d.exponent.toNat '0') ++ layout.whole
    else if 0 ≤ top then
      String.ofList (ds.take (top.toNat + 1)) ++ "." ++ String.ofList (ds.drop (top.toNat + 1))
    else
      "0." ++ String.ofList (List.replicate (-top - 1).toNat '0' ++ ds)
  else
    match ds with
    | [] => ""
    | [c] => c.toString ++ exponentText layout top
    | c :: cs => c.toString ++ "." ++ String.ofList cs ++ exponentText layout top

/-- A numeral has at least one digit. -/
theorem print_ne_empty (layout : Layout) (d : Decimal) : d.print layout ≠ "" := by
  have hdigits : Nat.toDigits 10 d.digits ≠ [] := Nat.toDigits_ne_nil
  unfold print
  dsimp only
  split
  · simp
  · split
    · split
      · simp [hdigits]
      · split <;> simp
    · split
      next h => exact absurd h hdigits
      next => simp
      next => simp

end Decimal

end SignalBinding
