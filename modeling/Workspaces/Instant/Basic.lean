-- Moments of universal time, to the nanosecond, with leap seconds.
import Workspaces.Text.Numeral

namespace Workspaces

/-- A day of the proleptic Gregorian calendar. The year 0 comes before the year 1. -/
structure Date where
  year : Int
  month : Nat
  day : Nat
  deriving DecidableEq, Repr

namespace Date

def isLeapYear (year : Int) : Bool := year % 4 = 0 && (year % 100 ≠ 0 || year % 400 = 0)

def daysIn (year : Int) (month : Nat) : Nat :=
  match month with
  | 2 => if isLeapYear year then 29 else 28
  | 4 | 6 | 9 | 11 => 30
  | _ => 31

/-- The years that a date may have. -/
def yearInRange (year : Int) : Bool := -262143 ≤ year && year ≤ 262142

/-- The day of a year, month and day, if there is one. -/
def ofParts? (year : Int) (month day : Nat) : Option Date :=
  if yearInRange year ∧ 1 ≤ month ∧ month ≤ 12 ∧ 1 ≤ day ∧ day ≤ daysIn year month then
    some ⟨year, month, day⟩
  else none

/-- The day after, if it is in range. -/
def next? (d : Date) : Option Date :=
  if d.day < daysIn d.year d.month then ofParts? d.year d.month (d.day + 1)
  else if d.month < 12 then ofParts? d.year (d.month + 1) 1
  else ofParts? (d.year + 1) 1 1

/-- The day before, if it is in range. -/
def previous? (d : Date) : Option Date :=
  if 1 < d.day then ofParts? d.year d.month (d.day - 1)
  else if 1 < d.month then ofParts? d.year (d.month - 1) (daysIn d.year (d.month - 1))
  else ofParts? (d.year - 1) 12 31

end Date

/-- A moment: a day, the second of the day and the nanosecond of the second. Within a leap second
the nanoseconds run on from `10 ^ 9` while the second stays. -/
structure Instant where
  date : Date
  second : Nat
  nano : Nat
  deriving DecidableEq, Repr

namespace Instant

/-- Moments compare by year, then month, and so on down to the nanosecond. -/
instance : Ord Instant where
  compare := compareLex (compareOn (·.date.year)) <| compareLex (compareOn (·.date.month)) <|
    compareLex (compareOn (·.date.day)) <| compareLex (compareOn (·.second)) (compareOn (·.nano))

instance : LE Instant := leOfOrd

instance : LT Instant := ltOfOrd

/-- The moment at which a clock that is ahead of universal time by `offset` seconds, less than a
day, shows a day and second. -/
def ofLocal? (date : Date) (second nano : Nat) (offset : Int) : Option Instant :=
  let s := (second : Int) - offset
  if s < 0 then (date.previous?).map fun d => ⟨d, (s + 86400).toNat, nano⟩
  else if 86400 ≤ s then (date.next?).map fun d => ⟨d, (s - 86400).toNat, nano⟩
  else some ⟨date, s.toNat, nano⟩

end Instant

end Workspaces
