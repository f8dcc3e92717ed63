import SignalBinding.Decimal.Shortest
import SignalBinding.Document.Basic
import SignalBinding.Text.Quoted

/-!
# Documents as texts

How a value is written where a text is wanted. A text stands for itself; inside lists and maps it
is quoted, and dates and moments are spelled out as calls.

## Main definitions

- `floatText`: the numeral of a double-precision number
- `Atom.inner`, `Document.inner`: a value inside a list or map
- `Atom.print`, `Document.print`: a value on its own
-/

namespace SignalBinding

namespace Document

/-- Numerals are positional from a ten-thousandth up to 10^16, and whole ones keep a zero. -/
def numerals : Decimal.Layout where
  least := -4
  bound := 16
  whole := ".0"
  exponentDigits := 2

def floatText (x : Binary64) : String :=
  match x.value with
  | .nan => "nan"
  | .infinite => if x.negative then "-inf" else "inf"
  | .finite m q => (if x.negative then "-" else "") ++ (Decimal.shortest m q).print numerals

example : [1e15, 1e16, 0.0001, 0.00001, 1.5, -0.0, 5e-324, 0.1].map (floatText ∘ .ofFloat) =
    ["1000000000000000.0", "1e+16", "0.0001", "1e-05", "1.5", "-0.0", "5e-324", "0.1"] := by
  decide +kernel

theorem floatText_ne_empty (x : Binary64) : floatText x ≠ "" := by
  unfold floatText
  split
  · simp
  · split <;> simp
  · simp [Decimal.print_ne_empty]

/-- A number with zeros in front to make `width` digits. -/
def padded (width n : Nat) : String :=
  let ds := Nat.toDigits 10 n
  String.ofList (List.replicate (width - ds.length) '0' ++ ds)

def dateText (d : Date) : String :=
  padded 4 d.year ++ "-" ++ padded 2 d.month ++ "-" ++ padded 2 d.day

/-- An offset from universal time, in hours and minutes. -/
def offsetText (offset : Int) : String :=
  (if offset < 0 then "-" else "+") ++ padded 2 (offset.natAbs / 60) ++ ":" ++
    padded 2 (offset.natAbs % 60)

def momentText (t : Moment) : String :=
  dateText t.date ++ " " ++ padded 2 t.hour ++ ":" ++ padded 2 t.minute ++ ":" ++
    padded 2 t.second ++ (if t.microsecond = 0 then "" else "." ++ padded 6 t.microsecond) ++
    (t.offset?.map offsetText).getD ""

def dateCall (d : Date) : String :=
  "datetime.date(" ++ ", ".intercalate ([d.year, d.month, d.day].map toString) ++ ")"

/-- An offset as a number of seconds, counted from the day before if it is negative. -/
def offsetCall (offset : Int) : String :=
  if offset = 0 then "datetime.timezone.utc"
  else if offset < 0 then
    "datetime.timezone(datetime.timedelta(days=-1, seconds=" ++
      toString (offset * 60 + 86400) ++ "))"
  else "datetime.timezone(datetime.timedelta(seconds=" ++ toString (offset * 60) ++ "))"

/-- The time of a moment; from the right, seconds and microseconds are left out while they are
zero. -/
def timeNumbers (t : Moment) : List Nat :=
  if t.microsecond ≠ 0 then [t.hour, t.minute, t.second, t.microsecond]
  else if t.second ≠ 0 then [t.hour, t.minute, t.second]
  else [t.hour, t.minute]

def momentCall (t : Moment) : String :=
  "datetime.datetime(" ++
    ", ".intercalate (([t.date.year, t.date.month, t.date.day] ++ timeNumbers t).map toString) ++
    (t.offset?.map fun offset => ", tzinfo=" ++ offsetCall offset).getD "" ++ ")"

def boolText (b : Bool) : String := if b then "True" else "False"

end Document

namespace Atom

open Document

/-- A value inside a list or a map. -/
def inner : Atom → String
  | null => "None"
  | bool b => boolText b
  | int n => toString n
  | float x => floatText x
  | text s => Text.quote s
  | bytes b => Text.quoteBytes b
  | date d => dateCall d
  | moment t => momentCall t

/-- A value on its own. -/
def print : Atom → String
  | text s => s
  | date d => dateText d
  | moment t => momentText t
  | a => a.inner

end Atom

namespace Document

/-- A list of which the items have the texts `items`. -/
def listText (items : List String) : String :=
  "[" ++ ", ".intercalate items ++ "]"

/-- A pair of which the two parts have these texts. -/
def pairText (first second : String) : String :=
  "(" ++ first ++ ", " ++ second ++ ")"

/-- A set of which the members have the texts `members`. -/
def setText (members : List String) : String :=
  if members.isEmpty then "set()" else "\x7b" ++ ", ".intercalate members ++ "\x7d"

/-- A map of which the keys and values have the texts `entries`. -/
def mapText (entries : List (String × String)) : String :=
  "\x7b" ++ ", ".intercalate (entries.map fun (k, v) => k ++ ": " ++ v) ++ "\x7d"

mutual

/-- A value inside a list or a map. -/
def inner : Document → String
  | atom a => a.inner
  | list items => listText (innerItems items)
  | map entries => mapText (innerEntries entries)
  | other text _ => text

def innerItems : List Document → List String
  | [] => []
  | d :: rest => inner d :: innerItems rest

def innerEntries : List (Atom × Document) → List (String × String)
  | [] => []
  | (k, v) :: rest => (k.inner, inner v) :: innerEntries rest

end

/-- A value on its own. -/
def print : Document → String
  | atom a => a.print
  | d => inner d

instance : Layered Document where
  layer := Document.layer
  print := Document.print

end Document

end SignalBinding
