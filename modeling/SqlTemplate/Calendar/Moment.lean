import SqlTemplate.Calendar.Date
import SqlTemplate.Number.Decimal

/-! # Moments

A day and a time on it, with no time zone. A leap second lasts from one to two thousand million nanoseconds of the second
before it.
-/

namespace SqlTemplate

structure TimeOfDay where
  hour : Nat
  minute : Nat
  second : Nat
  nanosecond : Nat
  deriving DecidableEq

namespace TimeOfDay

def midnight : TimeOfDay := ⟨0, 0, 0, 0⟩

/-- The sixtieth second is the leap second. -/
def ofParts? (hour minute second fraction : Nat) : Option TimeOfDay :=
  if hour < 24 && minute < 60 && second < 60 then some ⟨hour, minute, second, fraction⟩
  else if hour < 24 && minute < 60 && second = 60 then some ⟨hour, minute, 59, 1000000000 + fraction⟩
  else none

/-- Seconds from midnight. -/
def seconds (t : TimeOfDay) : Int := 3600 * t.hour + 60 * t.minute + t.second

def ofSeconds (s : Nat) (nanosecond : Nat) : TimeOfDay := ⟨s / 3600, s / 60 % 60, s % 60, nanosecond⟩

end TimeOfDay

structure Moment where
  date : Date
  time : TimeOfDay
  deriving DecidableEq

namespace Moment

/-- The moment so many seconds after the start of 1970. -/
def ofSeconds? (s : Int) (nanosecond : Nat) : Option Moment :=
  (Date.ofNumber? (s / 86400)).map (⟨·, .ofSeconds (s % 86400).toNat nanosecond⟩)

/-- The moment so many milliseconds after the start of 1970. -/
def ofMilliseconds? (ms : Int) : Option Moment := ofSeconds? (ms / 1000) ((ms % 1000).toNat * 1000000)

/-- The moment in universal time of one that is ahead of it by so many seconds. -/
def behind? (m : Moment) (offset : Int) : Option Moment :=
  ofSeconds? (86400 * m.date.number + m.time.seconds - offset) m.time.nanosecond

end Moment

/-! ## Text -/

/-- The digits of a number with zeros in front of them up to the width. -/
def padded (width n : Nat) : String :=
  let digits := Nat.toDigits 10 n
  .ofList (List.replicate (width - digits.length) '0' ++ digits)

namespace Date

/-- Years beyond four digits and before the year zero have a sign. -/
def yearText (year : Int) : String :=
  if 0 ≤ year ∧ year ≤ 9999 then padded 4 year.toNat
  else (if year < 0 then "-" else "+") ++ padded 4 year.natAbs

def text (d : Date) : String := yearText d.year ++ "-" ++ padded 2 d.month ++ "-" ++ padded 2 d.day

end Date

namespace TimeOfDay

/-- The fraction in three, six or nine digits. A whole second has none. -/
def fractionText (nanosecond : Nat) : String :=
  if nanosecond = 0 then ""
  else if nanosecond % 1000000 = 0 then "." ++ padded 3 (nanosecond / 1000000)
  else if nanosecond % 1000 = 0 then "." ++ padded 6 (nanosecond / 1000)
  else "." ++ padded 9 nanosecond

def text (t : TimeOfDay) : String :=
  padded 2 t.hour ++ ":" ++ padded 2 t.minute ++ ":" ++ padded 2 (t.second + t.nanosecond / 1000000000) ++
    fractionText (t.nanosecond % 1000000000)

end TimeOfDay

def Moment.text (m : Moment) : String := m.date.text ++ " " ++ m.time.text

end SqlTemplate
