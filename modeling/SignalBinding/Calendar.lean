/-!
# Days and moments

Dates of the Gregorian calendar and moments on them, with or without a distance from universal
time.

## Main definitions

- `Date`, `Date.ofNumbers?`: the days that exist
- `Moment`, `Moment.ofNumbers?`: the moments that exist
-/

namespace SignalBinding

/-- A day of the Gregorian calendar. -/
structure Date where
  year : Nat
  month : Nat
  day : Nat
  deriving DecidableEq, Repr, Inhabited

namespace Date

def isLeap (year : Nat) : Bool :=
  year % 4 == 0 && (year % 100 != 0 || year % 400 == 0)

def daysInMonth (year month : Nat) : Nat :=
  if month = 2 then (if isLeap year then 29 else 28)
  else if month ∈ [4, 6, 9, 11] then 30
  else 31

/-- The day with these numbers, if there is one in the years 1 to 9999. -/
def ofNumbers? (year month day : Nat) : Option Date :=
  if 1 ≤ year ∧ year ≤ 9999 ∧ 1 ≤ month ∧ month ≤ 12 ∧ 1 ≤ day ∧ day ≤ daysInMonth year month then
    some { year, month, day }
  else none

/-- The number of days from the first day of the year 1. -/
def ordinal (d : Date) : Nat :=
  let y := d.year - 1
  y * 365 + y / 4 - y / 100 + y / 400 +
    (List.range (d.month - 1)).foldl (fun n m => n + daysInMonth d.year (m + 1)) d.day

end Date

/-- A moment. -/
structure Moment where
  date : Date
  hour : Nat
  minute : Nat
  second : Nat
  microsecond : Nat
  /-- The minutes by which local time is ahead of universal time. -/
  offset? : Option Int
  deriving DecidableEq, Repr, Inhabited

namespace Moment

/-- The moment with these numbers, if there is one; its offset is less than a day. -/
def ofNumbers? (date : Date) (hour minute second microsecond : Nat) (offset? : Option Int) :
    Option Moment :=
  if hour < 24 ∧ minute < 60 ∧ second < 60 ∧ microsecond < 1000000 ∧
      (offset?.getD 0).natAbs < 24 * 60 then
    some { date, hour, minute, second, microsecond, offset? }
  else none

/-- Microseconds from the beginning of the year 1, in universal time if the offset is known. -/
def microseconds (t : Moment) : Int :=
  let minutes := ((t.date.ordinal * 24 + t.hour) * 60 + t.minute : Int) - t.offset?.getD 0
  (minutes * 60 + t.second) * 1000000 + t.microsecond

/-- Whether two moments are the same; a local one is never the same as one with an offset. -/
def same (t u : Moment) : Bool :=
  t.offset?.isSome == u.offset?.isSome && t.microseconds == u.microseconds

end Moment

end SignalBinding
