import SqlTemplate.Calendar.Moment
import SqlTemplate.Text.Blank
import SqlTemplate.Text.Scanner

/-! # Reading dates and times

A text is tried as a timestamp with a time zone, as a date with a time, as a date, and where a time is wanted as a time.
-/

namespace SqlTemplate.Calendar

open Text (Scanner)
open Text.Scanner

/-- A number of so many digits. -/
def number (least most : Nat) : Scanner Nat := fun s =>
  let digits := (s.take most).takeWhile Char.isDigit
  if digits.length < least then none else some (Nat.ofDigitChars 10 digits 0, s.drop digits.length)

def blanks : Scanner Unit := fun s => some ((), Text.trimStart s)

/-- A fraction of a second in nanoseconds, if a point follows. Digits beyond the ninth do not count. -/
def fraction : Scanner Nat := fun s =>
  match s with
  | '.' :: rest =>
    let digits := (rest.take 9).takeWhile Char.isDigit
    if digits.isEmpty then none
    else some (Nat.ofDigitChars 10 digits 0 * Number.tens (9 - digits.length),
      (rest.drop digits.length).dropWhile Char.isDigit)
  | s => some (0, s)

/-! ## Timestamps with a time zone -/

/-- What may stand between the date and the time. -/
def dateEnd : Scanner Unit := fun s =>
  match s with
  | c :: rest => if c = 'T' || c = 't' || c = ' ' then some ((), rest) else none
  | [] => none

/-- The hours and minutes after the sign of an offset, in seconds. An offset is shorter than a day. -/
def offsetSize : Scanner Nat := do
  let hours ← number 2 2
  char ':'
  let minutes ← number 2 2
  if hours < 24 && minutes < 60 then pure (3600 * hours + 60 * minutes) else failure

/-- The seconds by which a time zone is ahead of universal time. -/
def offset : Scanner Int := fun s =>
  match s with
  | [] => none
  | c :: rest =>
    if c = 'Z' || c = 'z' then some (0, rest)
    else if c = '+' then (offsetSize rest).map fun (n, after) => ((n : Int), after)
    else if c = '-' || c = '−' then (offsetSize rest).map fun (n, after) => (-(n : Int), after)
    else none

/-- A timestamp such as `2024-03-01T10:15:00+05:30`, with two digits everywhere but in the year. -/
def zoned : Scanner Moment := do
  let year ← number 4 4
  char '-'
  let month ← number 2 2
  char '-'
  let day ← number 2 2
  dateEnd
  let hour ← number 2 2
  char ':'
  let minute ← number 2 2
  char ':'
  let second ← number 2 2
  let nanos ← fraction
  let ahead ← offset
  let date ← Date.ofParts? year month day
  let time ← TimeOfDay.ofParts? hour minute second nanos
  Moment.behind? ⟨date, time⟩ ahead

/-! ## Without a time zone -/

/-- A number of at most two digits, blanks in front of it. -/
def part : Scanner Nat := do
  blanks
  number 1 2

/-- A year of at most four digits, or of any number of digits after a sign. -/
def year : Scanner Int := do
  blanks
  let s ← get
  match s with
  | '-' :: rest =>
    set rest
    let n ← number 1 rest.length
    pure (-(n : Int))
  | '+' :: rest =>
    set rest
    let n ← number 1 rest.length
    pure (n : Int)
  | _ =>
    let n ← number 1 4
    pure (n : Int)

def date : Scanner Date := do
  let y ← year
  char '-'
  let month ← part
  char '-'
  let day ← part
  Date.ofParts? y month day

def time : Scanner TimeOfDay := do
  let hour ← part
  char ':'
  let minute ← part
  char ':'
  let second ← part
  let nanos ← fraction
  TimeOfDay.ofParts? hour minute second nanos

/-- A date and a time with something between them. -/
def dateTime (between : Scanner Unit) : Scanner Moment := do
  let d ← date
  between
  let t ← time
  pure ⟨d, t⟩

/-- The moment of a text. A date stands for its first instant. -/
def readMoment? (s : List Char) : Option Moment :=
  whole? zoned s <|> whole? (dateTime (char 'T')) s <|> whole? (dateTime blanks) s <|>
    (whole? date s).map (⟨·, .midnight⟩)

/-- The time of day of a text. -/
def readTime? (s : List Char) : Option TimeOfDay := (readMoment? s).map (·.time) <|> whole? time s

end SqlTemplate.Calendar
