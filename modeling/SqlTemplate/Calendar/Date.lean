/-! # Dates

Days of the Gregorian calendar, continued to all years. A day is also counted from the first of January 1970.
-/

namespace SqlTemplate

structure Date where
  year : Int
  month : Nat
  day : Nat
  deriving DecidableEq

namespace Date

def isLeap (year : Int) : Bool := year % 4 == 0 && (year % 100 != 0 || year % 400 == 0)

def daysInMonth (year : Int) (month : Nat) : Nat :=
  if month = 2 then if isLeap year then 29 else 28
  else if month = 4 || month = 6 || month = 9 || month = 11 then 30
  else 31

/-- The years that a date can have. -/
def yearInRange (year : Int) : Bool := -262143 ≤ year && year ≤ 262142

def ofParts? (year : Int) (month day : Nat) : Option Date :=
  if yearInRange year && 1 ≤ month && month ≤ 12 && 1 ≤ day && day ≤ daysInMonth year month then
    some ⟨year, month, day⟩
  else none

/-- Years are counted from March here, so that the leap day comes last. -/
def marchYear (d : Date) : Int := if d.month ≤ 2 then d.year - 1 else d.year

/-- Days from the first of March of the year. The months from March on have 31, 30, 31, 30, 31 days in turn. -/
def marchDay (d : Date) : Int :=
  let m : Int := if d.month ≤ 2 then d.month + 9 else d.month - 3
  (153 * m + 2) / 5 + d.day - 1

/-- Days from the first of January 1970. -/
def number (d : Date) : Int :=
  let y := d.marchYear
  365 * y + y / 4 - y / 100 + y / 400 + d.marchDay - 719468

/-- The day of the number within four centuries from the first of March, and the year within them. -/
def ofCenturyDay (n : Int) : Int × Int :=
  let year := (n - n / 1460 + n / 36524 - n / 146096) / 365
  (year, n - (365 * year + year / 4 - year / 100))

/-- The day with the number, if its year is in range. -/
def ofNumber? (n : Int) : Option Date :=
  let days := n + 719468
  let (year, dayOfYear) := ofCenturyDay (days % 146097)
  let m := (5 * dayOfYear + 2) / 153
  let day := dayOfYear - (153 * m + 2) / 5 + 1
  let month := if m < 10 then m + 3 else m - 9
  let y := days / 146097 * 400 + year + (if m < 10 then 0 else 1)
  ofParts? y month.toNat day.toNat

end Date

end SqlTemplate
