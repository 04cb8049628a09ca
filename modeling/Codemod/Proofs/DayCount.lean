import Codemod.Proofs.Numerals
import Codemod.Proofs.RunOrder
import Mathlib.Tactic.IntervalCases

/-!
# Days found by counting

Counting days from the first of January 1970 and reading the year, the month and the day back from
their number leads to the same day exactly where there is such a day. A month outside the calendar or
a day outside its month comes back as another one. So does every day of the years 0 to 99, which are
counted as years of the twentieth century: these years have days, and none of them is accepted.
-/
namespace Codemod

namespace Date

open Decimal (digit is_digit_iff worth_of_digit)

/-- The number of days of a month by the rules of the Gregorian calendar, none outside of it. -/
def daysIn (year month : Nat) : Nat :=
  match month with
  | 2 => if year % 4 = 0 ∧ (year % 100 ≠ 0 ∨ year % 400 = 0) then 29 else 28
  | 4 | 6 | 9 | 11 => 30
  | 1 | 3 | 5 | 7 | 8 | 10 | 12 => 31
  | _ => 0

/-- A date that names a day of the calendar. -/
structure Real (date : Date) : Prop where
  month : 1 ≤ date.month ∧ date.month ≤ 12
  day : 1 ≤ date.day ∧ date.day ≤ daysIn date.year date.month

/-- A text is four digits for the year, two for the month and two for the day, with hyphens between. -/
def Spells (text : String) (date : Date) : Prop :=
  ∃ y₁ y₂ y₃ y₄ m₁ m₂ d₁ d₂ : Fin 10,
    text.toList = [digit y₁, digit y₂, digit y₃, digit y₄, '-', digit m₁, digit m₂, '-', digit d₁, digit d₂] ∧
    date = { year := 1000 * y₁ + 100 * y₂ + 10 * y₃ + y₄, month := 10 * m₁ + m₂, day := 10 * d₁ + d₂ }

/-- The months of a year have as many days as the rules say. -/
theorem month_lengths_eq (year : Nat) {month : Nat} (inside : month < 12) :
    (monthLengths year)[month]? = some (daysIn year (month + 1)) := by
  have leap : (isLeap (year : Int) = true) ↔ year % 4 = 0 ∧ (year % 100 ≠ 0 ∨ year % 400 = 0) := by
    simp only [isLeap, Bool.or_eq_true, Bool.and_eq_true, beq_iff_eq, bne_iff_ne]
    omega
  interval_cases month <;> simp [monthLengths, daysIn, leap]

/-- A year is followed by another after the days of its months. -/
theorem year_start_succ (year : Int) :
    yearStart (year + 1) = yearStart year + (monthLengths year).sum := by
  have days : (monthLengths year).sum = if isLeap year then 366 else 365 := by
    cases leap : isLeap year <;> simp [monthLengths, leap]
  rw [days]
  simp only [yearStart, isLeap, Bool.or_eq_true, Bool.and_eq_true, beq_iff_eq, bne_iff_ne]
  split <;> omega

/-- A later year does not start before an earlier one. -/
theorem year_start_le (year other : Int) (before : year ≤ other) : yearStart year ≤ yearStart other := by
  unfold yearStart
  omega

/-- A day lies in the year that is found for it. The guess from the mean length of a year is off by one
at most, and it is put right in both directions. -/
theorem year_of_bounds (number : Int) :
    yearStart (yearOf number) ≤ number ∧ number < yearStart (yearOf number + 1) := by
  rw [yearOf]
  split
  · rename_i early
    rw [Int.sub_add_cancel]
    exact ⟨by unfold yearStart; omega, early⟩
  · rename_i late
    split
    · rename_i next
      exact ⟨next, by unfold yearStart; omega⟩
    · omega

/-- The year that is found for a day is the only one that it lies in. -/
theorem year_of_eq {number year : Int} (after : yearStart year ≤ number)
    (before : number < yearStart (year + 1)) : yearOf number = year := by
  have found := year_of_bounds number
  rcases Int.lt_trichotomy (yearOf number) year with less | same | greater
  · have := year_start_le (yearOf number + 1) year less
    omega
  · exact same
  · have := year_start_le (year + 1) (yearOf number) greater
    omega

/-- The days before a month are those of the months before it. -/
theorem days_before_eq (lengths : List Nat) (month : Nat) :
    daysBefore lengths month = (lengths.take month).sum :=
  List.sum_eq_foldl.symm

/-- The day found in a month is one of that month. -/
theorem month_and_day_lt {lengths : List Nat} {day : Nat} (inside : day < lengths.sum) :
    ∃ length, lengths[(monthAndDay lengths day).1]? = some length ∧ (monthAndDay lengths day).2 < length := by
  induction lengths generalizing day with
  | nil => simp at inside
  | cons length lengths inductionHypothesis =>
    rw [monthAndDay]
    split
    · exact ⟨length, rfl, ‹_›⟩
    · rw [List.sum_cons] at inside
      exact inductionHypothesis (by omega)

/-- A day of a month is found again from the number of days before it. The induction is on the months,
each of which takes its days off the number. -/
theorem month_and_day_add {lengths : List Nat} {month day length : Nat}
    (present : lengths[month]? = some length) (inside : day < length) :
    monthAndDay lengths ((lengths.take month).sum + day) = (month, day) := by
  induction lengths generalizing month with
  | nil => simp at present
  | cons first lengths inductionHypothesis =>
    cases month with
    | zero =>
      cases present
      simp [monthAndDay, inside]
    | succ month =>
      have later : ¬ first + (lengths.take month).sum + day < first := by omega
      have rest : first + (lengths.take month).sum + day - first = (lengths.take month).sum + day := by omega
      rw [List.take_succ_cons, List.sum_cons, monthAndDay, if_neg later, rest,
        inductionHypothesis present]

/-- The months up to one are part of the year. -/
theorem sum_take_add_le {lengths : List Nat} {month length : Nat} (present : lengths[month]? = some length) :
    (lengths.take month).sum + length ≤ lengths.sum := by
  obtain ⟨inside, rfl⟩ := List.getElem?_eq_some_iff.mp present
  have divided : (lengths.take month ++ lengths[month] :: lengths.drop (month + 1)).sum = lengths.sum := by
    rw [← List.drop_eq_getElem_cons inside, List.take_append_drop]
  rw [List.sum_append, List.sum_cons] at divided
  omega

/-- A day within a month of a year has the fields that it was counted from, unless it is of one of the
years that are taken for others. -/
theorem fields_number {year month day : Nat} (late : 100 ≤ year) (inside : month < 12)
    (dayInside : day < daysIn year (month + 1)) :
    fields (number year month (day + 1)) = ((year : Int), (month : Int), (day : Int) + 1) := by
  have present := month_lengths_eq year inside
  have counted : number year month (day + 1) =
      yearStart year + (((monthLengths year).take month).sum + day : Nat) := by
    have whole : (month : Int) / 12 = 0 := by omega
    have part : ((month : Int) % 12).toNat = month := by omega
    have meant : fullYear year = year := if_neg (by omega)
    rw [number, whole, part, meant, Int.add_zero, days_before_eq]
    omega
  have after := sum_take_add_le present
  have found : yearOf (number year month (day + 1)) = year := by
    apply year_of_eq
    · omega
    · rw [year_start_succ]
      omega
  have rest : (number year month (day + 1) - yearStart year).toNat =
      ((monthLengths year).take month).sum + day := by omega
  simp only [fields, found, rest, month_and_day_add present dayInside]

/-- Counting runs over neither the year nor the month of a date that it finds again. The day of the year
lies within the year, so that the month found is one of the twelve and the day found is one of that
month. -/
theorem real_of_fields {number : Int} {date : Date}
    (found : fields number = ((date.year : Int), (date.month : Int) - 1, (date.day : Int))) : date.Real := by
  simp only [fields, Prod.mk.injEq] at found
  obtain ⟨year, month, day⟩ := found
  have bounds := year_of_bounds number
  rw [year_start_succ] at bounds
  obtain ⟨length, present, less⟩ := month_and_day_lt
    (show (number - yearStart (yearOf number)).toNat < (monthLengths (yearOf number)).sum by omega)
  rw [year] at *
  have inside := (List.getElem?_eq_some_iff.mp present).1
  have twelve : (monthLengths date.year).length = 12 := rfl
  rw [twelve] at inside
  have rule := month_lengths_eq date.year inside
  rw [present] at rule
  cases rule
  have sameMonth :
      (monthAndDay (monthLengths date.year) (number - yearStart date.year).toNat).1 + 1 = date.month := by
    omega
  rw [sameMonth] at less
  exact ⟨by omega, by omega⟩

/-- The years 0 to 99 are not found again. Such a year is read as one from 1900 on, and that begins after
the year itself is over. -/
theorem late_of_fields {date : Date} (real : date.Real)
    (found : yearOf (number date.year (date.month - 1) date.day) = date.year) : 100 ≤ date.year := by
  by_contra early
  have within := (year_of_bounds (number date.year (date.month - 1) date.day)).2
  rw [found] at within
  have counted : yearStart (1900 + date.year) ≤ number date.year (date.month - 1) date.day := by
    have whole : ((date.month : Int) - 1) / 12 = 0 := by
      have := real.month
      omega
    have meant : fullYear date.year = 1900 + date.year := if_pos (by omega)
    have := real.day
    rw [number, whole, meant, Int.add_zero]
    omega
  have := year_start_le (date.year + 1) (1900 + date.year) (by omega)
  omega

/-- Counting finds the day that a date names again if there is one, and it is not of the years 0 to 99. A
date is tested by counting its days and reading the count back, so that this is the sum of the lemmas
about counting and reading. -/
theorem is_valid_iff (date : Date) : date.isValid = true ↔ date.Real ∧ 100 ≤ date.year := by
  have tested : date.isValid = true ↔ fields (number date.year (date.month - 1) date.day) =
      ((date.year : Int), (date.month : Int) - 1, (date.day : Int)) := by
    simp [isValid, and_assoc, Prod.ext_iff]
  rw [tested]
  constructor
  · intro found
    have real := real_of_fields found
    exact ⟨real, late_of_fields real (congrArg Prod.fst found)⟩
  · rintro ⟨⟨someMonth, someDay⟩, late⟩
    obtain ⟨year, month, day⟩ := date
    obtain ⟨month, rfl⟩ := Nat.exists_eq_add_of_le' someMonth.1
    obtain ⟨day, rfl⟩ := Nat.exists_eq_add_of_le' someDay.1
    simpa using fields_number late (Nat.lt_of_succ_le someMonth.2) (Nat.lt_of_succ_le someDay.2)

/-- The characters that have a value as digits are the ten digits. They stand in a row from the code of
zero, so that the distance from it is the value. -/
theorem digit_eq_some_iff {c : Char} {value : Nat} :
    digit? c = some value ↔ ∃ n : Fin 10, c = digit n ∧ value = n := by
  constructor
  · intro reads
    rw [digit?] at reads
    split at reads
    · rename_i bounds
      obtain ⟨n, rfl⟩ := is_digit_iff.mp bounds
      exact ⟨n, rfl, (Option.some.inj reads).symm.trans (worth_of_digit n)⟩
    · cases reads
  · rintro ⟨n, rfl, rfl⟩
    rw [digit?, if_pos (is_digit_iff.mpr ⟨n, rfl⟩), worth_of_digit]

/-- A number is read off its digits. The induction is on the characters, over what was read before them. -/
theorem digits_of_read {value result : Nat} {chars : List Char} (reads : read value chars = some result) :
    ∃ digits : List (Fin 10), chars = digits.map digit ∧
      result = digits.foldl (fun value n => 10 * value + n.val) value := by
  induction chars generalizing value with
  | nil =>
    cases reads
    exact ⟨[], rfl, rfl⟩
  | cons c chars inductionHypothesis =>
    obtain ⟨first, one, rest⟩ := read_cons reads
    obtain ⟨n, rfl, rfl⟩ := digit_eq_some_iff.mp one
    obtain ⟨digits, rfl, result⟩ := inductionHypothesis rest
    exact ⟨n :: digits, rfl, result⟩

/-- A text is read as a date exactly if it spells that date. The three numbers have four, two and two
digits, and reading digits is adding up what they are worth. -/
theorem parse_eq_some_iff {text : String} {date : Date} : parse? text = some date ↔ Spells text date := by
  constructor
  · intro reads
    obtain ⟨years, months, days, spelled, yearWidth, monthWidth, dayWidth, year, month, day⟩ :=
      parse_cases reads
    obtain ⟨yearDigits, rfl, yearIs⟩ := digits_of_read year
    obtain ⟨monthDigits, rfl, monthIs⟩ := digits_of_read month
    obtain ⟨dayDigits, rfl, dayIs⟩ := digits_of_read day
    rw [List.length_map] at yearWidth monthWidth dayWidth
    match yearDigits, monthDigits, dayDigits with
    | [y₁, y₂, y₃, y₄], [m₁, m₂], [d₁, d₂] =>
      refine ⟨y₁, y₂, y₃, y₄, m₁, m₂, d₁, d₂, spelled, ?_⟩
      obtain ⟨_, _, _⟩ := date
      simp only [List.foldl_cons, List.foldl_nil] at yearIs monthIs dayIs
      simp only [Date.mk.injEq]
      omega
  · rintro ⟨y₁, y₂, y₃, y₄, m₁, m₂, d₁, d₂, spelled, rfl⟩
    have value (n : Fin 10) : digit? (digit n) = some n.val := digit_eq_some_iff.mpr ⟨n, rfl, rfl⟩
    simp [parse?, spelled, number?, value]
    omega

/-- The texts that are accepted as dates. -/
theorem is_calendar_date_iff (text : String) :
    isCalendarDate text = true ↔ ∃ date, Spells text date ∧ date.Real ∧ 100 ≤ date.year := by
  simp only [← parse_eq_some_iff, ← is_valid_iff]
  unfold isCalendarDate
  cases reads : parse? text with
  | none => simp
  | some date => simp

end Date

namespace Registry

/-- A fix whose name is not taken is registered exactly if its date names a day of the calendar and is
not of the years 0 to 99. -/
theorem register_accepts_iff (registry : Registry) (fix : Fix) (unused : registry.has fix.name = false) :
    (∃ next, registry.register fix = .ok next) ↔
      ∃ date, Date.Spells fix.date date ∧ date.Real ∧ 100 ≤ date.year := by
  rw [← Date.is_calendar_date_iff]
  rcases registry.register_cases fix with ⟨taken, _⟩ | ⟨_, undated, failed⟩ | ⟨_, dated, registered⟩
  · cases unused.symm.trans taken
  · simp [failed, undated]
  · simp [registered, dated]

/-- A fix with a date. -/
def dated (date : String) : Fix :=
  { name := "f", date, description := "", precondition := pure true, transform := pure false }

/-- The last day of February is one in a century year that four hundred divides. The statement is applied
to the ten characters that spell the date. -/
theorem leap_day_accepted :
    ({} : Registry).has (dated "2000-02-29").name = false ∧
      ∃ next, ({} : Registry).register (dated "2000-02-29") = .ok next :=
  ⟨rfl, (register_accepts_iff {} (dated "2000-02-29") rfl).mpr
    ⟨⟨2000, 2, 29⟩, ⟨2, 0, 0, 0, 0, 2, 2, 9, rfl, rfl⟩, ⟨by decide, by decide⟩, by decide⟩⟩

/-- The first of January of the year 50 is a day of the calendar, and a fix of that date is refused.
Years below one hundred count as years of the twentieth century when days are counted, so that the day
found is one of 1950. -/
theorem early_day_refused :
    ({} : Registry).has (dated "0050-01-01").name = false ∧
    (∃ date, Date.Spells (dated "0050-01-01").date date ∧ date.Real) ∧
    ¬ ∃ next, ({} : Registry).register (dated "0050-01-01") = .ok next := by
  refine ⟨rfl, ⟨⟨50, 1, 1⟩, ⟨0, 0, 5, 0, 0, 1, 0, 1, rfl, rfl⟩, ⟨by decide, by decide⟩⟩, ?_⟩
  rintro ⟨next, accepted⟩
  have refused : ({} : Registry).register (dated "0050-01-01") = .error (dateError (dated "0050-01-01")) := by
    rfl
  cases refused.symm.trans accepted

end Registry

end Codemod
