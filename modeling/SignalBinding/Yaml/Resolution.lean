import SignalBinding.Decimal.Numeral
import SignalBinding.Document.Basic
import SignalBinding.Yaml.Binary
import SignalBinding.Yaml.Cursor

/-!
# What scalars denote

A plain scalar denotes a truth value, a number, null, a date or a moment if it has the form of one,
and itself otherwise. A tag may say what a scalar denotes instead.

## Main definitions

- `Tag`: what a node is
- `Tag.ofPlain`: what a plain scalar is by its form
- `Tag.convert`: the value of a scalar
-/

namespace SignalBinding.Yaml

/-- What a node is. -/
inductive Tag
  | null
  | bool
  | int
  | float
  | timestamp
  | text
  | binary
  | list
  /-- A list of pairs, which are written as mappings with one entry. -/
  | pairs
  | map
  | set
  /-- A key whose value's entries belong to the map around it. -/
  | merge
  /-- A key for the value that a map stands for. -/
  | value
  | unknown
  deriving DecidableEq, Repr, Inhabited

/-- The beginning of the tags that have a meaning. -/
def tagStart : String := "tag:yaml.org,2002:"

def Tag.ofText (s : String) : Tag :=
  match [("null", null), ("bool", bool), ("int", int), ("float", float), ("timestamp", timestamp),
      ("str", text), ("binary", binary), ("seq", list), ("omap", pairs), ("pairs", pairs),
      ("map", map), ("set", set), ("merge", merge), ("value", value)].find?
      fun (name, _) => tagStart ++ name == s with
  | some (_, tag) => tag
  | none => unknown

/-! ### Forms of plain scalars -/

/-- The texts of truth values. -/
def truthValue? (s : String) : Option Bool :=
  if s ∈ ["yes", "true", "on"] then some true
  else if s ∈ ["no", "false", "off"] then some false
  else none

/-- Whether the characters are in lower or upper case throughout, or capitalized. -/
def evenCase (cs : List Char) : Bool :=
  match cs with
  | [] => true
  | c :: rest =>
    cs.all Char.isLower || cs.all Char.isUpper || (c.isUpper && rest.all Char.isLower)

def lowerAscii (cs : List Char) : String :=
  String.ofList (cs.map Char.toLower)

def isTruthText (cs : List Char) : Bool :=
  evenCase cs && (truthValue? (lowerAscii cs)).isSome

def isNullText (cs : List Char) : Bool :=
  String.ofList cs ∈ ["", "~", "null", "Null", "NULL"]

def dropSign : List Char → List Char
  | '+' :: rest => rest
  | '-' :: rest => rest
  | cs => cs

def isDigitOrLine (c : Char) : Bool :=
  c.isDigit || c == '_'

/-- The parts of a text between colons. -/
def colonParts (cs : List Char) : List (List Char) :=
  cs.splitOn ':'

/-- A part of a number to the base sixty: a digit, or two of which the first is less than six. -/
def isSixtieth : List Char → Bool
  | [c] => c.isDigit
  | [c, d] => '0' ≤ c && c ≤ '5' && d.isDigit
  | _ => false

/-- Digits to the base sixty behind a first part that starts with a digit of `first`. -/
def isSexagesimal (first : Char → Bool) (cs : List Char) : Bool :=
  match colonParts cs with
  | (c :: part) :: p :: parts =>
    first c && part.all isDigitOrLine && (p :: parts).all isSixtieth
  | _ => false

def isIntText (cs : List Char) : Bool :=
  let nonzero (c : Char) : Bool := c.isDigit && c != '0'
  match dropSign cs with
  | '0' :: 'b' :: rest => !rest.isEmpty && rest.all fun c => c == '0' || c == '1' || c == '_'
  | '0' :: 'x' :: rest =>
    !rest.isEmpty && rest.all fun c => isDigitOrLine c || ('a' ≤ c.toLower && c.toLower ≤ 'f')
  | ['0'] => true
  | '0' :: rest => rest.all fun c => ('0' ≤ c && c ≤ '7') || c == '_'
  | c :: rest => (nonzero c && rest.all isDigitOrLine) || isSexagesimal nonzero (c :: rest)
  | [] => false

/-- An exponent, which must have a sign, or nothing. -/
def isExponent : List Char → Bool
  | [] => true
  | e :: sign :: rest =>
    (e == 'e' || e == 'E') && (sign == '+' || sign == '-') && !rest.isEmpty && rest.all Char.isDigit
  | _ => false

def isFloatText (cs : List Char) : Bool :=
  let unsigned := dropSign cs
  let whole := unsigned.takeWhile (· != '.')
  let behind := (unsigned.dropWhile (· != '.')).drop 1
  let tail := behind.dropWhile isDigitOrLine
  let hasPoint := '.' ∈ unsigned
  match cs with
  | '.' :: c :: _ =>
    (c.isDigit && isExponent tail) ||
      String.ofList cs ∈ [".inf", ".Inf", ".INF", ".nan", ".NaN", ".NAN"]
  | _ =>
    (hasPoint && (whole.headD ' ').isDigit && whole.all isDigitOrLine && isExponent tail) ||
      (hasPoint && isSexagesimal Char.isDigit whole && tail.isEmpty) ||
      String.ofList unsigned ∈ [".inf", ".Inf", ".INF"]

/-! ### Dates and moments -/

/-- The number of a run of ASCII digits. -/
def digitsNumber (cs : List Char) : Nat :=
  cs.foldl (fun n c => n * 10 + (c.toNat - '0'.toNat)) 0

/-- Reads at least `least` and at most `most` digits. -/
def readDigits? (least most : Nat) (cs : List Char) : Option (Nat × List Char) :=
  let ds := (cs.take most).takeWhile Char.isDigit
  if ds.length < least then none else some (digitsNumber ds, cs.drop ds.length)

def readChar? (c : Char) : List Char → Option (List Char)
  | d :: rest => if c = d then some rest else none
  | [] => none

def isSpaceOrTab (c : Char) : Bool := c == ' ' || c == '\t'

/-- The numbers of a date or moment, before it is known whether there is such a day. -/
structure Timestamp where
  year : Nat
  month : Nat
  day : Nat
  time? : Option (Nat × Nat × Nat × Nat) := none
  offset? : Option Int := none
  /-- Whether a time is given, or month and day have two digits. -/
  strict : Bool

/-- Microseconds from the digits behind a point; more than six are cut off. -/
def microseconds (cs : List Char) : Nat :=
  digitsNumber ((cs ++ List.replicate 6 '0').take 6)

/-- Reads an offset from universal time in minutes, if there is one. -/
def readOffset? (cs : List Char) : Option (Option Int) :=
  match cs with
  | [] => some none
  | _ =>
    match cs.dropWhile isSpaceOrTab with
    | ['Z'] => some (some 0)
    | sign :: rest =>
      if sign = '+' ∨ sign = '-' then do
        let (hours, rest) ← readDigits? 1 2 rest
        let minutes ←
          match rest with
          | [] => some 0
          | ':' :: rest => do
            let (minutes, rest) ← readDigits? 2 2 rest
            if rest.isEmpty then some minutes else none
          | _ => none
        let total : Int := hours * 60 + minutes
        return some (if sign = '-' then -total else total)
      else none
    | [] => none

/-- Reads the time of a moment. -/
def readTime? (cs : List Char) : Option ((Nat × Nat × Nat × Nat) × Option Int) := do
  let (hour, rest) ← readDigits? 1 2 cs
  let (minute, rest) ← readDigits? 2 2 (← readChar? ':' rest)
  let (second, rest) ← readDigits? 2 2 (← readChar? ':' rest)
  let (fraction, rest) :=
    match rest with
    | '.' :: rest => (microseconds (rest.takeWhile Char.isDigit), rest.dropWhile Char.isDigit)
    | _ => (0, rest)
  return ((hour, minute, second, fraction), ← readOffset? rest)

/-- The numbers of a text with the form of a date or a moment. -/
def timestamp? (cs : List Char) : Option Timestamp := do
  let (year, rest) ← readDigits? 4 4 cs
  let (month, afterMonth) ← readDigits? 1 2 (← readChar? '-' rest)
  let (day, rest) ← readDigits? 1 2 (← readChar? '-' afterMonth)
  match rest with
  | [] => return { year, month, day, strict := cs.length == 10 }
  | c :: _ =>
    let rest ←
      if c = 'T' ∨ c = 't' then some (rest.drop 1)
      else if isSpaceOrTab c then some (rest.dropWhile isSpaceOrTab)
      else none
    let (time, offset?) ← readTime? rest
    return { year, month, day, time? := some time, offset?, strict := true }

/-- The text without a line end behind it, unless it is nothing else. -/
def withoutLineEnd (cs : List Char) : List Char :=
  if cs.getLast? = some '\n' ∧ cs ≠ ['\n'] then cs.dropLast else cs

/-- What a plain scalar is by its form. A line end behind the form does not matter. -/
def Tag.ofPlain (s : String) : Tag :=
  let cs := withoutLineEnd s.toList
  if isTruthText cs then bool
  else if isFloatText cs then float
  else if isIntText cs then int
  else if cs = ['<', '<'] then merge
  else if isNullText cs then null
  else if (timestamp? cs).any Timestamp.strict then timestamp
  else if cs = ['='] then value
  else text

/-! ### Values -/

/-- The text without underscores and its sign, which may be missing. -/
def signed? (cs : List Char) : Option (Bool × List Char) :=
  match cs.filter (· != '_') with
  | '-' :: rest => some (true, rest)
  | '+' :: rest => some (false, rest)
  | [] => none
  | rest => some (false, rest)

/-- The integer of digits to the base sixty. -/
def sexagesimalInt? (parts : List (List Char)) : Option Int := do
  let digits ← parts.mapM (Numeral.integer? 10)
  return digits.foldl (fun n d => n * 60 + d) 0

def intValue? (cs : List Char) : Option Int := do
  let (negative, rest) ← signed? cs
  let n ←
    match rest with
    | [] => none
    | ['0'] => some 0
    | '0' :: 'b' :: digits => Numeral.integer? 2 digits
    | '0' :: 'x' :: digits => Numeral.integer? 16 digits
    | '0' :: _ => Numeral.integer? 8 rest
    | _ =>
      if ':' ∈ rest then sexagesimalInt? (colonParts rest) else Numeral.integer? 10 rest
  return if negative then -n else n

/-- The number of digits to the base sixty, the last of which come first. -/
def sexagesimalFloat (digits : List Binary64) : Binary64 :=
  (digits.foldl
    (fun (sum, base) d => (sum.add (d.mul (.ofDecimal base 0)), base * 60))
    (Binary64.ofDecimal 0 0, 1)).1

/-- The number of a text without sign and underscores. -/
def unsignedFloat? (cs : List Char) : Option Binary64 :=
  match String.ofList cs with
  | ".inf" => some .infinity
  | ".nan" => some .nan
  | _ =>
    if ':' ∈ cs then ((colonParts cs).mapM Numeral.binary64?).map (sexagesimalFloat ·.reverse)
    else Numeral.binary64? cs

def floatValue? (cs : List Char) : Option Binary64 := do
  let (negative, rest) ← signed? (cs.map Char.toLower)
  let x ← unsignedFloat? rest
  return if negative then x.neg else x

/-- Whether a text with the tag for numbers is written `.nan`, with a sign or without. -/
def isNanText (s : String) : Bool :=
  (signed? (s.toList.map Char.toLower)).any fun (_, rest) => rest == ".nan".toList

def timestampValue? (cs : List Char) : Option Atom := do
  let t ← timestamp? (withoutLineEnd cs)
  let date ← Date.ofNumbers? t.year t.month t.day
  match t.time? with
  | none => return .date date
  | some (hour, minute, second, microsecond) =>
    return .moment (← Moment.ofNumbers? date hour minute second microsecond t.offset?)

/-- The value of a scalar with a tag. -/
def Tag.convert (tag : Tag) (s : String) : Except Fault Atom :=
  let orFault (a? : Option Atom) : Except Fault Atom :=
    match a? with
    | some a => .ok a
    | none => .error .unconvertible
  match tag with
  | null => .ok .null
  | bool => orFault ((truthValue? (lowerAscii s.toList)).map .bool)
  | int => orFault ((intValue? s.toList).map .int)
  | float => orFault ((floatValue? s.toList).map .float)
  | timestamp => orFault (timestampValue? s.toList)
  | text => .ok (.text s)
  | binary =>
    match bytesOf? s.toList with
    | some b => .ok (.bytes b)
    | none => .error .malformed
  | list | pairs | map | set | merge | value | unknown => .error .malformed

end SignalBinding.Yaml
