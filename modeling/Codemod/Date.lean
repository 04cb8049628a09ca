/-!
# Calendar dates

A date is written `YYYY-MM-DD` with ASCII digits. Whether it names a day of the
Gregorian calendar is found out by counting. Its fields give a number of days from
the first of January 1970, where months and days that no calendar has run over into
those before or after them; the day of that number must have the fields that were
written. Counting takes the years 0 to 99 for years of the twentieth century, so
that no date of these years is accepted.
-/
namespace Codemod

/-- A year, month and day. -/
structure Date where
  year : Nat
  month : Nat
  day : Nat
  deriving DecidableEq, Repr

namespace Date

/-- Every fourth year is a leap year, except centuries that four does not divide. -/
def isLeap (year : Int) : Bool :=
  (year % 4 == 0 && year % 100 != 0) || year % 400 == 0

/-- The number of the first day of a year, that of 1970 being 0. -/
def yearStart (year : Int) : Int :=
  365 * (year - 1970) + (year - 1969) / 4 - (year - 1901) / 100 + (year - 1601) / 400

/-- The lengths of the months of a year. -/
def monthLengths (year : Int) : List Nat :=
  [31, if isLeap year then 29 else 28, 31, 30, 31, 30, 31, 31, 30, 31, 30, 31]

/-- The year that is meant by a year: one of two digits is of the twentieth century. -/
def fullYear (year : Int) : Int :=
  if 0 ≤ year ∧ year ≤ 99 then 1900 + year else year

/-- The number of days in the months before one. -/
def daysBefore (lengths : List Nat) (month : Nat) : Nat :=
  (lengths.take month).foldl (· + ·) 0

/-- The number of a day. Months count from 0, and whole years of them are taken over into the year;
days count from 1 and run on past the end of the month. -/
def number (year month day : Int) : Int :=
  let year := fullYear year + month / 12
  yearStart year + daysBefore (monthLengths year) (month % 12).toNat + (day - 1)

/-- The year of the day with a number. Years have 146097 days in four centuries, and their number
so reckoned is at most one year off. -/
def yearOf (number : Int) : Int :=
  let reckoned := 1970 + 400 * number / 146097
  if number < yearStart reckoned then reckoned - 1
  else if yearStart (reckoned + 1) ≤ number then reckoned + 1
  else reckoned

/-- The month and the day of the month, both counted from 0, of a day of a year counted from 0. -/
def monthAndDay : List Nat → Nat → Nat × Nat
  | [], day => (0, day)
  | length :: rest, day =>
    if day < length then (0, day)
    else
      let (month, day) := monthAndDay rest (day - length)
      (month + 1, day)

/-- The year, the month counted from 0 and the day counted from 1 of the day with a number. -/
def fields (number : Int) : Int × Int × Int :=
  let year := yearOf number
  let (month, day) := monthAndDay (monthLengths year) (number - yearStart year).toNat
  (year, month, day + 1)

/-- Whether the day of the date's number has the date's fields. -/
def isValid (date : Date) : Bool :=
  let (year, month, day) := fields (number date.year (date.month - 1) date.day)
  year == date.year && month == date.month - 1 && day == date.day

/-- The value of a decimal digit. -/
def digit? (c : Char) : Option Nat :=
  if '0' ≤ c ∧ c ≤ '9' then some (c.toNat - '0'.toNat) else none

/-- The value of a run of decimal digits. -/
def number? (digits : List Char) : Option Nat :=
  digits.foldlM (fun value c => (digit? c).map (10 * value + ·)) 0

/-- Four digits, two digits and two digits with hyphens between them. -/
def parse? (text : String) : Option Date :=
  match text.toList with
  | [y1, y2, y3, y4, '-', m1, m2, '-', d1, d2] => do
    let year ← number? [y1, y2, y3, y4]
    let month ← number? [m1, m2]
    let day ← number? [d1, d2]
    pure { year, month, day }
  | _ => none

/-- Whether a text is the spelling of an accepted calendar date. -/
def isCalendarDate (text : String) : Bool :=
  match parse? text with
  | some date => date.isValid
  | none => false

end Date

end Codemod
