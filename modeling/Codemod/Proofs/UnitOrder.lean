import Codemod.Text.Units
import Mathlib.Data.List.Lex

/-!
# The order of texts by their code units

Texts are compared by their code units as dictionaries order words. A text can be
read back from its units, so that this is an order of the texts themselves: any
two compare, and only equal ones compare both ways.
-/
namespace Codemod.Text

/-- A character is read back from the start of its code units and what follows. A character of the
basic plane is never half a pair, and the two halves of any other character give its code again. -/
theorem chars_of_units_cons (c : Char) (rest : List Nat) :
    charsOfUnits (unitsOfChar c ++ rest) = c :: charsOfUnits rest := by
  have valid := c.valid
  have bounds : c.toNat < 0xD800 ∨ 0xDFFF < c.toNat ∧ c.toNat < 0x110000 := valid
  by_cases small : c.toNat < 0x10000
  · have alone : charsOfUnits.charOfUnit c.toNat = c := by
      have whole : ¬ (0xD800 ≤ c.toNat ∧ c.toNat < 0xE000) := by omega
      simp [charsOfUnits.charOfUnit, whole]
    have single : unitsOfChar c = [c.toNat] := by simp [unitsOfChar, small]
    rw [single]
    cases rest with
    | nil => simp [charsOfUnits, alone]
    | cons low rest =>
      have unpaired : ¬ (0xD800 ≤ c.toNat ∧ c.toNat < 0xDC00) := by omega
      simp only [List.cons_append, List.nil_append, charsOfUnits, alone]
      rw [if_neg (by simp; omega)]
  · have pair : unitsOfChar c =
        [0xD800 + (c.toNat - 0x10000) / 0x400, 0xDC00 + (c.toNat - 0x10000) % 0x400] := by
      simp [unitsOfChar, small]
    rw [pair]
    simp only [List.cons_append, List.nil_append, charsOfUnits]
    have joined : 0x10000 + (0xD800 + (c.toNat - 0x10000) / 0x400 - 0xD800) * 0x400 +
        (0xDC00 + (c.toNat - 0x10000) % 0x400 - 0xDC00) = c.toNat := by omega
    rw [if_pos (by simp; omega), joined, Char.ofNat_toNat]

/-- A text is read back from its code units. -/
theorem of_units_units (text : String) : ofUnits (units text) = text := by
  have chars : ∀ list : List Char, charsOfUnits (list.flatMap unitsOfChar) = list := by
    intro list
    induction list with
    | nil => rfl
    | cons c rest inductionHypothesis =>
      rw [List.flatMap_cons, chars_of_units_cons, inductionHypothesis]
  rw [ofUnits, units, chars, String.ofList_toList]

/-- Different texts have different code units. -/
theorem units_injective {left right : String} (same : units left = units right) : left = right := by
  rw [← of_units_units left, same, of_units_units right]

/-- The comparison of units is the dictionary order of lists of numbers. The induction follows the
comparison, which stops at the first difference. -/
theorem compare_unit_lists_gt (left right : List Nat) :
    compareUnitLists left right = .gt ↔ right < left := by
  fun_induction compareUnitLists left right with
  | case1 => simp
  | case2 => simp
  | case3 => simp
  | case4 x xs y ys less =>
    have apart : ¬ (y < x ∨ y = x ∧ ys < xs) := by omega
    simp [List.cons_lt_cons_iff, apart]
  | case5 x xs y ys notLess greater => simp [List.cons_lt_cons_iff, greater]
  | case6 x xs y ys notLess notGreater inductionHypothesis =>
    have same : y = x := by omega
    simpa [List.cons_lt_cons_iff, same] using inductionHypothesis

/-- Comparing lists of units is the order of lists by their first difference. The cases are those of the
comparison from the other side. -/
theorem compare_unit_lists_lt (left right : List Nat) :
    compareUnitLists left right = .lt ↔ left < right := by
  fun_induction compareUnitLists left right with
  | case1 => simp
  | case2 => simp
  | case3 => simp
  | case4 x xs y ys less => simp [List.cons_lt_cons_iff, less]
  | case5 x xs y ys notLess greater =>
    have apart : ¬ (x < y ∨ x = y ∧ xs < ys) := by omega
    simp [List.cons_lt_cons_iff, apart]
  | case6 x xs y ys notLess notGreater inductionHypothesis =>
    have same : x = y := by omega
    simpa [List.cons_lt_cons_iff, same] using inductionHypothesis

/-- Only texts that are the same compare as equal. -/
theorem compare_units_eq (left right : String) : compareUnits left right = .eq ↔ left = right := by
  have neither : compareUnits left right = .eq ↔
      ¬ units left < units right ∧ ¬ units right < units left := by
    rw [← compare_unit_lists_lt, ← compare_unit_lists_gt, compareUnits]
    cases compareUnitLists (units left) (units right) <;> decide
  rw [neither, not_lt, not_lt]
  constructor
  · rintro ⟨after, before⟩
    exact units_injective (le_antisymm before after)
  · rintro rfl
    exact ⟨le_refl _, le_refl _⟩

/-- A text stands before or at another exactly when its units do. -/
theorem units_le_iff (left right : String) :
    unitsLe left right = true ↔ units left ≤ units right := by
  rw [← not_lt, ← compare_unit_lists_gt]
  simp [unitsLe, compareUnits]

/-- The order of texts by their units is transitive. -/
theorem units_le_trans (first second third : String) (before : unitsLe first second = true)
    (after : unitsLe second third = true) : unitsLe first third = true := by
  rw [units_le_iff] at *
  exact le_trans before after

/-- Of two texts one comes before the other by its units, or both do. -/
theorem units_le_total (left right : String) :
    (unitsLe left right || unitsLe right left) = true := by
  rw [Bool.or_eq_true, units_le_iff, units_le_iff]
  exact le_total (units left) (units right)

/-- Texts that come before each other by their units are the same: the units of a text determine it. -/
theorem units_le_antisymm {left right : String} (before : unitsLe left right = true)
    (after : unitsLe right left = true) : left = right := by
  rw [units_le_iff] at *
  exact units_injective (le_antisymm before after)

end Codemod.Text
