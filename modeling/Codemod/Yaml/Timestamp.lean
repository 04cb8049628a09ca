/-!
# Points in time

A bare text such as `2012-01-01` or `2001-12-14t21:59:43.10-05:00` is a point in
time. It is known by the text of its day and time at the zero meridian, which is
what it turns into as a key.
-/
namespace Codemod.Yaml.Timestamp

/-- The leading digits of a text, at least `least` and at most `most`, and what follows. -/
def digits? (least most : Nat) (chars : List Char) : Option (Nat × List Char) :=
  let run := (chars.take most).takeWhile Char.isDigit
  if run.length < least then none
  else some (run.foldl (fun n c => 10 * n + (c.toNat - '0'.toNat)) 0, chars.drop run.length)

/-- A character at the start of a text. -/
def sign? (c : Char) : List Char → Option (List Char)
  | first :: rest => if first = c then some rest else none
  | [] => none

/-- A day and a time of day at some distance from the zero meridian. -/
structure Moment where
  year : Nat
  month : Nat
  day : Nat
  seconds : Nat := 0
  /-- How many minutes the clock is ahead of the zero meridian. -/
  ahead : Int := 0

/-- The distance from the zero meridian at the end of a text. -/
def zone? (chars : List Char) : Option Int :=
  match chars.dropWhile fun c => c = ' ' || c = '\t' with
  | [] => if chars.isEmpty then some 0 else none
  | ['Z'] => some 0
  | mark :: rest => do
    if mark ≠ '+' && mark ≠ '-' then none
    let (hours, rest) ← digits? 1 2 rest
    let minutes ← match rest with
      | [] => some 0
      | _ => do
        let (minutes, rest) ← digits? 2 2 (← sign? ':' rest)
        if rest.isEmpty then some minutes else none
    let ahead : Int := (60 * hours + minutes : Nat)
    return if mark = '-' then -ahead else ahead

/-- What follows the letter or the blanks between a day and a time. -/
def afterGap? : List Char → Option (List Char)
  | c :: rest =>
    if c = 'T' || c = 't' then some rest
    else if c = ' ' || c = '\t' then some (rest.dropWhile fun c => c = ' ' || c = '\t')
    else none
  | [] => none

/-- What follows a fraction of a second. -/
def afterFraction : List Char → List Char
  | '.' :: rest => rest.dropWhile Char.isDigit
  | chars => chars

/-- The time after a day. -/
def time? (year month day : Nat) (chars : List Char) : Option Moment := do
  let (hours, rest) ← digits? 1 2 (← afterGap? chars)
  let (minutes, rest) ← digits? 2 2 (← sign? ':' rest)
  let (seconds, rest) ← digits? 2 2 (← sign? ':' rest)
  return { year, month, day, seconds := 3600 * hours + 60 * minutes + seconds
           ahead := ← zone? (afterFraction rest) }

/-- The point in time that a text stands for: a day with two digits for month and day, or a day and
a time. -/
def parse? (text : String) : Option Moment := do
  let (year, rest) ← digits? 4 4 text.toList
  let afterYear ← sign? '-' rest
  let (month, rest) ← digits? 1 2 afterYear
  let afterMonth ← sign? '-' rest
  let (day, rest) ← digits? 1 2 afterMonth
  if rest.isEmpty then
    if text.length = 10 then some { year, month, day } else none
  else time? year month day rest

/-- The year that two digits or more stand for: fewer than a hundred years count from 1900. -/
def fullYear (year : Nat) : Nat :=
  if year < 100 then 1900 + year else year

/-- The number of days from the first of March of the year zero to a day, for any month. -/
def dayNumber (year month day : Nat) : Int :=
  let months : Int := 12 * year + month - 1
  let fromMarch := months - 2
  let year := fromMarch.fdiv 12
  let month := fromMarch.fmod 12
  365 * year + year.fdiv 4 - year.fdiv 100 + year.fdiv 400 + (153 * month + 2).fdiv 5 + day - 1

/-- The year, month and day of a number of days. -/
def dayOf (number : Int) : Int × Int × Int :=
  let era := number.fdiv 146097
  let within := number.fmod 146097
  let year := (within - within.fdiv 1460 + within.fdiv 36524 - within.fdiv 146096).fdiv 365
  let rest := within - (365 * year + year.fdiv 4 - year.fdiv 100)
  let month := (5 * rest + 2).fdiv 153
  let day := rest - (153 * month + 2).fdiv 5 + 1
  let month := if month < 10 then month + 3 else month - 9
  (400 * era + year + (if month ≤ 2 then 1 else 0), month, day)

/-- A number with zeros before it up to a size. -/
def padded (size : Nat) (n : Int) : String :=
  let digits := toString n.natAbs
  (if n < 0 then "-" else "") ++ String.ofList (List.replicate (size - digits.length) '0') ++ digits

/-- The text of a point in time at the zero meridian. -/
def Moment.text (moment : Moment) : String :=
  let total : Int := 86400 * dayNumber (fullYear moment.year) moment.month moment.day + moment.seconds
    - 60 * moment.ahead
  let number := total.fdiv 86400
  let seconds := total.fmod 86400
  let (year, month, day) := dayOf number
  let days := ["Wed", "Thu", "Fri", "Sat", "Sun", "Mon", "Tue"]
  let months := ["Jan", "Feb", "Mar", "Apr", "May", "Jun", "Jul", "Aug", "Sep", "Oct", "Nov", "Dec"]
  days.getD (number.fmod 7).toNat "" ++ " " ++ months.getD (month - 1).toNat "" ++ " " ++ padded 2 day
    ++ " " ++ padded 4 year ++ " " ++ padded 2 (seconds.fdiv 3600) ++ ":"
    ++ padded 2 ((seconds.fdiv 60).fmod 60) ++ ":" ++ padded 2 (seconds.fmod 60)
    ++ " GMT+0000 (Coordinated Universal Time)"

end Codemod.Yaml.Timestamp
