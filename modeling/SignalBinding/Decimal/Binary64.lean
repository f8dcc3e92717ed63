/-!
# Double-precision numbers

The numbers of 64 bits as exact values: a sign, and a natural number times a power of two.

## Main definitions

- `Binary64`: a number by its bits, so that equality is decidable
- `Binary64.Value`: what the bits stand for
- `Binary64.ofDecimal`: the number nearest to a decimal
-/

namespace SignalBinding

/-- A double-precision number, told apart by its bits. -/
structure Binary64 where
  bits : UInt64
  deriving DecidableEq, Repr, Inhabited

namespace Binary64

def ofFloat (x : Float) : Binary64 := ⟨x.toBits⟩

def toFloat (x : Binary64) : Float := Float.ofBits x.bits

/-- Whether the sign bit is set. -/
def negative (x : Binary64) : Bool :=
  x.bits.toNat / 0x8000000000000000 == 1

/-- What the bits but for the sign stand for. -/
inductive Value
  /-- The number `m * 2 ^ q`. -/
  | finite (m : Nat) (q : Int)
  | infinite
  | nan
  deriving DecidableEq, Repr

/-- The number 2^52: the leading bit, which is not stored, has this value. -/
def hiddenBit : Nat := 0x10000000000000

/-- The bits of the exponent. -/
def exponentField (x : Binary64) : Nat :=
  x.bits.toNat / hiddenBit % 2048

/-- The bits of the fraction. -/
def fractionField (x : Binary64) : Nat :=
  x.bits.toNat % hiddenBit

/-- The absolute value. -/
def value (x : Binary64) : Value :=
  let e := x.exponentField
  let f := x.fractionField
  if e = 2047 then (if f = 0 then .infinite else .nan)
  else if e = 0 then .finite f (-1074)
  else .finite (hiddenBit + f) (e - 1075)

def isZero (x : Binary64) : Bool :=
  x.exponentField == 0 && x.fractionField == 0

/-- Whether the number is the integer `n`. -/
def isInt (x : Binary64) (n : Int) : Bool :=
  match x.value with
  | .finite m q =>
    let m : Int := if x.negative then -m else m
    if 0 ≤ q then m * (Nat.pow 2 q.toNat : Nat) == n else m == n * (Nat.pow 2 (-q).toNat : Nat)
  | .infinite | .nan => false

/-- Equality of numbers: both zeros are the same, and a NaN differs from itself. -/
def sameNumber (x y : Binary64) : Bool :=
  match x.value with
  | .nan => false
  | _ => x == y || (x.isZero && y.isZero)

def infinity : Binary64 := ⟨0x7ff0000000000000⟩
def nan : Binary64 := ⟨0x7ff8000000000000⟩

def neg (x : Binary64) : Binary64 := ⟨x.bits ^^^ 0x8000000000000000⟩

/-- The sum, rounded to the nearest number. -/
def add (x y : Binary64) : Binary64 := ofFloat (x.toFloat + y.toFloat)

/-- The product, rounded to the nearest number. -/
def mul (x y : Binary64) : Binary64 := ofFloat (x.toFloat * y.toFloat)

/--
The number nearest to `m * 10 ^ e`. Exponents that leave the range on either side for sure are
decided first.
-/
def ofDecimal (m : Nat) (e : Int) : Binary64 :=
  let digits := (Nat.toDigits 10 m).length
  if m = 0 then ofFloat 0
  else if 400 < e + digits then infinity
  else if e + digits < -400 then ofFloat 0
  else if 0 ≤ e then ofFloat (Float.ofScientific m false e.toNat)
  else ofFloat (Float.ofScientific m true (-e).toNat)

example : (ofFloat 0.1).value = .finite 0x1999999999999a (-56) := by decide +kernel

end Binary64

end SignalBinding
