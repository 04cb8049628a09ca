import Codemod.Date
import Codemod.Proofs.UnitOrder

/-!
# Dates in the order of their spelling

Dates are spelled with the greatest unit first and every number at its full width, so that texts of
dates stand in dictionary order exactly when the days that they name follow one another in the
calendar.
-/
namespace Codemod

open Text

/-- The order of days in the calendar: by year, then by month, then by day. -/
def Date.Before (first second : Date) : Prop :=
  first.year < second.year ∨ first.year = second.year ∧
    (first.month < second.month ∨ first.month = second.month ∧ first.day < second.day)

namespace Date

/-- What a decimal digit is worth, and that its code is its one unit. Digits stand in a row from the code
of zero. -/
theorem digit_cases {c : Char} {value : Nat} (reads : digit? c = some value) :
    unitsOfChar c = [48 + value] ∧ value < 10 := by
  rw [digit?] at reads
  split at reads
  · rename_i bounds
    have low : 48 ≤ c.toNat := bounds.1
    have high : c.toNat ≤ 57 := bounds.2
    have worth : c.toNat - 48 = value := Option.some.inj reads
    refine ⟨?_, by omega⟩
    have single : unitsOfChar c = [c.toNat] := by
      have small : c.toNat < 0x10000 := by omega
      simp [unitsOfChar, small]
    rw [single]
    congr 1
    omega
  · cases reads

/-- Reading digits after a value that stands before them. -/
def read (value : Nat) (digits : List Char) : Option Nat :=
  digits.foldlM (fun value c => (digit? c).map (10 * value + ·)) value

/-- A number that is read begins with a digit, which is added to what was read before. -/
theorem read_cons {value result : Nat} {c : Char} {digits : List Char}
    (reads : read value (c :: digits) = some result) :
    ∃ first, digit? c = some first ∧ read (10 * value + first) digits = some result := by
  rw [read, List.foldlM_cons] at reads
  obtain ⟨next, one, rest⟩ := Option.bind_eq_some_iff.mp reads
  obtain ⟨first, digit, rfl⟩ := Option.map_eq_some_iff.mp one
  exact ⟨first, digit, rest⟩

/-- What stands in front counts for more than equally many digits behind it. The induction is on the
digits, over what was read before: a digit less in front is ten behind. -/
theorem read_lt {value other result further : Nat} {digits others : List Char}
    (width : digits.length = others.length) (less : value < other)
    (reads : read value digits = some result) (also : read other others = some further) :
    result < further := by
  induction digits generalizing value other others with
  | nil =>
    cases List.length_eq_zero_iff.mp width.symm
    cases reads
    cases also
    exact less
  | cons c digits inductionHypothesis =>
    obtain ⟨d, others, rfl⟩ := List.exists_cons_of_length_eq_add_one width.symm
    obtain ⟨first, digit, rest⟩ := read_cons reads
    obtain ⟨second, digit', rest'⟩ := read_cons also
    have small := (digit_cases digit).2
    exact inductionHypothesis (Nat.succ.inj width) (by omega) rest rest'

/-- Equally many digits stand in dictionary order when their values are ordered, whatever stands
behind them. The induction is on the digits, behind the value of those that are the same. -/
theorem units_lt_iff {value result further : Nat} {digits others : List Char} (behind after : List Nat)
    (width : digits.length = others.length) (reads : read value digits = some result)
    (also : read value others = some further) :
    digits.flatMap unitsOfChar ++ behind < others.flatMap unitsOfChar ++ after ↔
      result < further ∨ result = further ∧ behind < after := by
  induction digits generalizing value others with
  | nil =>
    cases List.length_eq_zero_iff.mp width.symm
    cases reads
    cases also
    simp
  | cons c digits inductionHypothesis =>
    obtain ⟨d, others, rfl⟩ := List.exists_cons_of_length_eq_add_one width.symm
    obtain ⟨first, digit, rest⟩ := read_cons reads
    obtain ⟨second, digit', rest'⟩ := read_cons also
    have narrower : digits.length = others.length := Nat.succ.inj width
    rw [List.flatMap_cons, List.flatMap_cons, (digit_cases digit).1, (digit_cases digit').1,
      List.append_assoc, List.append_assoc, List.singleton_append, List.singleton_append,
      List.cons_lt_cons_iff]
    rcases Nat.lt_trichotomy first second with less | rfl | greater
    · have ordered := read_lt narrower (by omega) rest rest'
      exact iff_of_true (.inl (by omega)) (.inl ordered)
    · rw [inductionHypothesis narrower rest rest']
      simp
    · have ordered := read_lt narrower.symm (by omega) rest' rest
      exact iff_of_false (by omega) (by omega)

/-- The shape of the text of a date. Four digits, two and two, with hyphens between them. -/
theorem parse_cases {text : String} {date : Date} (reads : parse? text = some date) :
    ∃ years months days, text.toList = years ++ '-' :: (months ++ '-' :: days) ∧
      years.length = 4 ∧ months.length = 2 ∧ days.length = 2 ∧
      read 0 years = some date.year ∧ read 0 months = some date.month ∧
        read 0 days = some date.day := by
  unfold parse? at reads
  split at reads
  · rename_i y1 y2 y3 y4 m1 m2 d1 d2 spelled
    obtain ⟨year, yearReads, more⟩ := Option.bind_eq_some_iff.mp reads
    obtain ⟨month, monthReads, last⟩ := Option.bind_eq_some_iff.mp more
    obtain ⟨day, dayReads, result⟩ := Option.bind_eq_some_iff.mp last
    cases result
    exact ⟨[y1, y2, y3, y4], [m1, m2], [d1, d2], spelled, rfl, rfl, rfl, yearReads, monthReads, dayReads⟩
  · cases reads

/-- Texts of dates stand in unit order exactly when the days follow one another in the calendar. Years
are compared first, then months and then days, all of the same width, and the hyphens between them are
equal. -/
theorem units_lt_of_parse {text other : String} {first second : Date}
    (reads : parse? text = some first) (also : parse? other = some second) :
    units text < units other ↔ first.Before second := by
  obtain ⟨years, months, days, spelled, yearWidth, monthWidth, dayWidth, year, month, day⟩ :=
    parse_cases reads
  obtain ⟨years', months', days', spelled', yearWidth', monthWidth', dayWidth', year', month', day'⟩ :=
    parse_cases also
  have byDay : days.flatMap unitsOfChar < days'.flatMap unitsOfChar ↔ first.day < second.day := by
    simpa using units_lt_iff [] [] (dayWidth.trans dayWidth'.symm) day day'
  have hyphen (rest : List Char) :
      ('-' :: rest).flatMap unitsOfChar = 45 :: rest.flatMap unitsOfChar := rfl
  rw [units, units, spelled, spelled', List.flatMap_append, List.flatMap_append, hyphen, hyphen,
    units_lt_iff _ _ (yearWidth.trans yearWidth'.symm) year year', List.cons_lt_cons_iff,
    List.flatMap_append, List.flatMap_append, hyphen, hyphen,
    units_lt_iff _ _ (monthWidth.trans monthWidth'.symm) month month', List.cons_lt_cons_iff, byDay]
  simp [Before]

/-- A calendar date is read as a day. -/
theorem parse_of_calendar {text : String} (accepted : isCalendarDate text = true) :
    ∃ date, parse? text = some date := by
  unfold isCalendarDate at accepted
  split at accepted
  · rename_i date reads
    exact ⟨date, reads⟩
  · cases accepted

end Date

end Codemod
