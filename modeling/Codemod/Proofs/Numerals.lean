import Codemod.Config.Basic
import Codemod.Proofs.Rounding
import Codemod.Proofs.Trimming
import Mathlib.Data.Set.List

/-!
# Numbers in decimal

A run of decimal digits stands for a number, and a positive number is given as the value of an option by
such a run, with any blanks around it. The value is read as a double, and a long run is rounded then. What
is taken is exact all the same: a double that is told apart from all others is never the double of a
larger number, nor that of another one.
-/
namespace Codemod

namespace Decimal

/-- The digit of a value. -/
def digit (value : Fin 10) : Char :=
  Nat.digitChar value

/-- The number that digits stand for. -/
def number (digits : List (Fin 10)) : Nat :=
  digits.foldl (fun value n => 10 * value + n.val) 0

/-- The characters from zero to nine are the ten digits. Both are told by their codes, which stand in a
row. -/
theorem is_digit_iff {c : Char} : '0' ≤ c ∧ c ≤ '9' ↔ ∃ n : Fin 10, c = digit n := by
  constructor
  · intro bounds
    have low : 48 ≤ c.toNat := bounds.1
    have high : c.toNat ≤ 57 := bounds.2
    obtain ⟨n, code⟩ : ∃ n : Fin 10, c.toNat = 48 + n := ⟨⟨c.toNat - 48, by omega⟩, by dsimp only; omega⟩
    have every : ∀ n : Fin 10, Char.ofNat (48 + n) = digit n := by decide
    refine ⟨n, ?_⟩
    rw [← every, ← code, Char.ofNat_toNat]
  · rintro ⟨n, rfl⟩
    revert n
    decide

/-- A digit is worth the number that it was made of. -/
theorem worth_of_digit (n : Fin 10) : (digit n).toNat - '0'.toNat = n.val := by
  revert n
  decide

/-- The character of a digit is one. -/
theorem is_digit_digit (n : Fin 10) : (digit n).isDigit = true := by
  revert n
  decide

/-- The character of a digit is no blank. -/
theorem digit_solid (n : Fin 10) : Text.isBlank (digit n) = false := by
  revert n
  decide

/-- The characters of a list are digits exactly if it is a list of digits. -/
theorem all_digits_iff {chars : List Char} :
    (∀ c ∈ chars, '0' ≤ c ∧ c ≤ '9') ↔ ∃ digits : List (Fin 10), chars = digits.map digit := by
  have lists := Set.ext_iff.mp (Set.range_list_map digit) chars
  simp only [Set.mem_range, Set.mem_ofPred_eq] at lists
  simp only [is_digit_iff, eq_comm (b := digit _), eq_comm (a := chars), lists]

end Decimal

namespace Numeral

open Decimal (digit number)

/-- Digits alone are all before the point. -/
theorem take_while_digits (digits : List (Fin 10)) :
    (digits.map digit).takeWhile Char.isDigit = digits.map digit := by
  refine List.takeWhile_eq_self_iff.mpr ?_
  rw [List.forall_mem_map]
  exact fun n _ => Decimal.is_digit_digit n

/-- Digits alone stand for the double of the number that they are. -/
theorem decimal_of_digits {digits : List (Fin 10)} (nonempty : digits ≠ []) :
    decimal? false (digits.map digit) = some (Binary64.ofDecimal false (number digits) 0) := by
  have present : (digits.map digit).isEmpty = false := by simpa using nonempty
  have value : (digits.map digit).foldl (fun n c => 10 * n + (c.toNat - '0'.toNat)) 0 = number digits := by
    rw [List.foldl_map]
    simp only [Decimal.worth_of_digit, number]
  rw [decimal?, take_while_digits, List.drop_length]
  simp only [present, Bool.false_and, Bool.false_eq_true, if_false, List.append_nil, value]
  rfl

/-- No digit is a sign, begins the word for infinity or marks a base. -/
theorem plain_digit (n : Fin 10) :
    digit n ≠ '-' ∧ digit n ≠ '+' ∧ digit n ≠ 'I' ∧ base? (digit n) = none := by
  revert n
  decide

/-- Digits are a decimal without a sign. The first of them is neither a sign nor the start of a word. -/
theorem signed_of_digits {digits : List (Fin 10)} (nonempty : digits ≠ []) :
    signed? (digits.map digit) = some (Binary64.ofDecimal false (number digits) 0) := by
  obtain ⟨first, rest, rfl⟩ := List.exists_cons_of_ne_nil nonempty
  obtain ⟨notMinus, notPlus, notWord, _⟩ := plain_digit first
  have unsigned : unsigned ((first :: rest).map digit) = (false, (first :: rest).map digit) := by
    rw [List.map_cons, Numeral.unsigned]
    · exact fun _ same => notMinus (List.head_eq_of_cons_eq same)
    · exact fun _ same => notPlus (List.head_eq_of_cons_eq same)
  have word : (first :: rest).map digit ≠ "Infinity".toList :=
    fun same => notWord (List.head_eq_of_cons_eq same)
  rw [signed?, unsigned]
  simp only [word, if_false, decimal_of_digits nonempty]

/-- Digits hold no mark for a base. -/
theorem marked_of_digits (digits : List (Fin 10)) : marked? (digits.map digit) = none := by
  unfold marked?
  split
  · rename_i mark after start
    have isDigit : mark ∈ digits.map digit := by simp [start]
    obtain ⟨n, _, rfl⟩ := List.mem_map.mp isDigit
    rw [(plain_digit n).2.2.2]
    rfl
  · rfl

end Numeral

namespace Config

/-- A text is a positive whole number in decimal, with any blanks around it; the number can be told apart
from all others of its size. -/
structure SpellsPositive (text : String) (n : Nat) : Prop where
  digits : ∃ before digits after, text.toList = before ++ digits.map Decimal.digit ++ after ∧
    (∀ c ∈ before, Text.isBlank c = true) ∧ (∀ c ∈ after, Text.isBlank c = true) ∧
    digits ≠ [] ∧ Decimal.number digits = n
  bounds : 1 ≤ n ∧ n ≤ Nat.pow 2 53 - 1

/-- Digits are what is left of themselves with blanks around them, and of nothing else. No digit is a
blank, so that trimming stops at them. -/
theorem trim_list_digits_iff {chars : List Char} {digits : List (Fin 10)} :
    Text.trimList chars = digits.map Decimal.digit ↔
      ∃ before after, chars = before ++ digits.map Decimal.digit ++ after ∧
        (∀ c ∈ before, Text.isBlank c = true) ∧ ∀ c ∈ after, Text.isBlank c = true := by
  constructor
  · intro trimmed
    rw [← trimmed]
    exact Text.trim_list_cases chars
  · rintro ⟨before, after, rfl, blankBefore, blankAfter⟩
    rw [Text.trim_list_padded blankBefore blankAfter]
    apply Text.trim_list_of_trimmed
    apply Text.trimmed_of_solid
    rw [List.forall_mem_map]
    exact fun n _ => Decimal.digit_solid n

/-- Characters are digits, and there is one at least, exactly if they spell some digits. The test goes
over the characters one by one. -/
theorem is_digits_iff {chars : List Char} :
    isDigits chars = true ↔ ∃ digits : List (Fin 10), digits ≠ [] ∧ chars = digits.map Decimal.digit := by
  have all : (chars.all fun c => '0' ≤ c && c ≤ '9') = true ↔
      ∃ digits : List (Fin 10), chars = digits.map Decimal.digit := by
    rw [← Decimal.all_digits_iff]
    simp
  rw [isDigits, Bool.and_eq_true, all]
  constructor
  · rintro ⟨nonempty, digits, rfl⟩
    exact ⟨digits, by simpa using nonempty, rfl⟩
  · rintro ⟨digits, nonempty, rfl⟩
    exact ⟨by simpa using nonempty, digits, rfl⟩

/-- A value of digits stands for the double of the number that they are, however many they are; it is
taken if that number is positive and its double is told apart from all others. -/
theorem parse_of_digits {value source : String} {digits : List (Fin 10)} (nonempty : digits ≠ [])
    (trimmed : Text.trimList value.toList = digits.map Decimal.digit) :
    parsePositive value source =
      if 1 ≤ Decimal.number digits ∧ Decimal.number digits ≤ Binary64.maxSafe then
        .ok (Decimal.number digits)
      else .error (parsePositive.refused value source) := by
  have number : Binary64.ofText value = Binary64.ofDecimal false (Decimal.number digits) 0 := by
    rw [Binary64.ofText, trimmed]
    split
    · rename_i nothing
      exact absurd (List.map_eq_nil_iff.mp nothing) nonempty
    · rw [Numeral.marked_of_digits, Numeral.signed_of_digits nonempty]
      rfl
  have areDigits : isDigits (Text.trimList value.toList) = true :=
    is_digits_iff.mpr ⟨digits, nonempty, trimmed⟩
  rw [parsePositive, number, Binary64.safe_of_decimal]
  by_cases safe : Decimal.number digits ≤ Binary64.maxSafe
  · simp only [safe, if_true, areDigits, Bool.true_and, and_true, Int.toNat_natCast, decide_eq_true_eq]
    have positive : (1 : Int) ≤ (Decimal.number digits : Int) ↔ 1 ≤ Decimal.number digits := by omega
    simp only [positive]
  · simp only [safe, if_false, and_false]

/-- Everything else is refused. -/
theorem parse_of_other {value source : String} (other : isDigits (Text.trimList value.toList) = false) :
    parsePositive value source = .error (parsePositive.refused value source) := by
  rw [parsePositive, other]
  split <;> rfl

/-- The values of options that are taken are the positive whole numbers in decimal. The text is blank
around some digits; what these are worth is rounded to a double, which is a whole number, and safe where
the number itself is. -/
theorem parse_positive_iff {value source : String} {n : Nat} :
    parsePositive value source = .ok n ↔ SpellsPositive value n := by
  constructor
  · intro taken
    cases areDigits : isDigits (Text.trimList value.toList) with
    | false =>
      rw [parse_of_other areDigits] at taken
      cases taken
    | true =>
      obtain ⟨digits, nonempty, trimmed⟩ := is_digits_iff.mp areDigits
      rw [parse_of_digits nonempty trimmed] at taken
      split at taken
      · rename_i bounds
        cases taken
        obtain ⟨before, after, whole, blankBefore, blankAfter⟩ := trim_list_digits_iff.mp trimmed
        exact ⟨⟨before, digits, after, whole, blankBefore, blankAfter, nonempty, rfl⟩, bounds⟩
      · cases taken
  · rintro ⟨⟨before, digits, after, whole, blankBefore, blankAfter, nonempty, rfl⟩, bounds⟩
    have trimmed := trim_list_digits_iff.mpr ⟨before, after, whole, blankBefore, blankAfter⟩
    rw [parse_of_digits nonempty trimmed]
    exact if_pos bounds

/-- A text is refused with the one message that there is for it. -/
theorem error_of_parse {value source : String} {error : Error}
    (failed : parsePositive value source = .error error) :
    error = parsePositive.refused value source := by
  rw [parsePositive] at failed
  split at failed
  · split at failed
    · cases failed
    · exact (Except.error.inj failed).symm
  · exact (Except.error.inj failed).symm

/-- A value is taken for a number exactly if it spells that number in decimal, with any zeros before it
and any blanks around it, and the number is positive and below `2 ^ 53`. Rounding to a double neither
changes a number that is taken nor brings one below that bound. Every other value is refused with an
error that quotes it and says where it was given. -/
theorem positive_values_exact (value source : String) :
    (∀ n, parsePositive value source = .ok n ↔ SpellsPositive value n) ∧
      ∀ error, parsePositive value source = .error error ↔
        (∀ n, ¬ SpellsPositive value n) ∧
          error = .config ("expected a positive integer, got \"" ++ value ++ "\"") (some source) := by
  refine ⟨fun n => parse_positive_iff, fun error => ?_⟩
  constructor
  · intro failed
    refine ⟨fun n spells => ?_, error_of_parse failed⟩
    cases failed.symm.trans (parse_positive_iff.mpr spells)
  · rintro ⟨unspelled, rfl⟩
    cases result : parsePositive value source with
    | ok n => exact absurd (parse_positive_iff.mp result) (unspelled n)
    | error cause => rw [error_of_parse result, parsePositive.refused]

example : (parsePositive "\ufeff 009007199254740991\n" "").toOption = some 9007199254740991 := by
  decide +kernel

example : Binary64.ofText "9007199254740993" = Binary64.ofText "9007199254740992" ∧
    (parsePositive "9007199254740993" "").toOption = none := by
  decide +kernel

end Config

end Codemod
