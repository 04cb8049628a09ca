import Codemod.Naming.Distance
import Mathlib.Algebra.GroupWithZero.Nat
import Mathlib.Data.List.Induction
import Mathlib.Order.Bounds.Basic
import Mathlib.Order.MinMax

/-!
# The edit distance as a least cost

An alignment goes through two lists from left to right and says of each unit what becomes of it. What
it costs is the number of its edits, and the distance between the lists is the least that an alignment
of them costs. The table holds the distances between all starts of the lists. No cell of it is read
before it is filled, whatever the lists are.
-/
namespace Codemod.Naming

/-- One step of an alignment of two lists. -/
inductive Step where
  | keep (unit : Nat)
  | substitute (old new : Nat)
  | insert (unit : Nat)
  | delete (unit : Nat)
  /-- Two neighbours change places. No other step edits them. -/
  | swap (left right : Nat)

namespace Step

/-- The units that a step takes from the first list. -/
def taken : Step → List Nat
  | keep unit => [unit]
  | substitute old _ => [old]
  | insert _ => []
  | delete unit => [unit]
  | swap left right => [left, right]

/-- The units that a step puts into the second list. -/
def given : Step → List Nat
  | keep unit => [unit]
  | substitute _ new => [new]
  | insert unit => [unit]
  | delete _ => []
  | swap left right => [right, left]

/-- Every step but keeping a unit costs one. -/
def cost : Step → Nat
  | keep _ => 0
  | _ => 1

end Step

/-- Steps that lead from the first list to the second. -/
structure Aligns (steps : List Step) (first second : List Nat) : Prop where
  taken : steps.flatMap Step.taken = first
  given : steps.flatMap Step.given = second

/-- What the alignments of two lists cost. -/
def costs (first second : List Nat) : Set Nat :=
  {n | ∃ steps, Aligns steps first second ∧ (steps.map Step.cost).sum = n}

variable {xs ys : List Nat} {x y n : Nat}

/-- Aligning nothing with nothing costs nothing. -/
theorem costs_nil : 0 ∈ costs [] [] :=
  ⟨[], ⟨rfl, rfl⟩, rfl⟩

/-- One more step at the end. -/
theorem costs_step (found : n ∈ costs xs ys) (step : Step) :
    n + step.cost ∈ costs (xs ++ step.taken) (ys ++ step.given) := by
  obtain ⟨steps, aligned, rfl⟩ := found
  refine ⟨steps ++ [step], ⟨?_, ?_⟩, by simp⟩
  · simp [aligned.taken]
  · simp [aligned.given]

/-- The last unit of both lists is kept when it is the same, and else substituted. -/
theorem costs_replaced (found : n ∈ costs xs ys) (x y : Nat) :
    (n + if x = y then 0 else 1) ∈ costs (xs ++ [x]) (ys ++ [y]) := by
  split
  · rename_i same
    subst same
    exact costs_step found (.keep x)
  · exact costs_step found (.substitute x y)

/-- An alignment has no steps or a last one. -/
theorem costs_cases (found : n ∈ costs xs ys) :
    (xs = [] ∧ ys = []) ∨
    ∃ step : Step, ∃ before behind, xs = before ++ step.taken ∧ ys = behind ++ step.given ∧
      ∃ m ∈ costs before behind, m + step.cost = n := by
  obtain ⟨steps, ⟨taken, given⟩, rfl⟩ := found
  induction steps using List.reverseRecOn with
  | nil => exact .inl ⟨taken.symm, given.symm⟩
  | append_singleton before step =>
    rw [List.flatMap_append, List.flatMap_singleton] at taken given
    exact .inr ⟨step, _, _, taken.symm, given.symm, _, ⟨before, ⟨rfl, rfl⟩, rfl⟩, by simp⟩

/-- What an alignment of lists with last units cost before its last step. The cases are those of the last
step: what it takes and gives ends in the last units, so the alignment before it is one of the lists
without them. -/
theorem costs_last (found : n ∈ costs (xs ++ [x]) (ys ++ [y])) :
    (∃ m ∈ costs xs (ys ++ [y]), m + 1 = n) ∨ (∃ m ∈ costs (xs ++ [x]) ys, m + 1 = n) ∨
    (∃ m ∈ costs xs ys, (m + if x = y then 0 else 1) ≤ n) ∨
    (∃ before behind, xs = before ++ [y] ∧ ys = behind ++ [x] ∧
      ∃ m ∈ costs before behind, m + 1 = n) := by
  rcases costs_cases found with ⟨none, _⟩ | ⟨step, before, behind, took, gave, m, cheaper, rfl⟩
  · exact absurd none (by simp)
  cases step with
  | keep unit =>
    obtain ⟨rfl, sameOld⟩ := List.append_inj' took rfl
    obtain ⟨rfl, sameNew⟩ := List.append_inj' gave rfl
    cases sameOld
    cases sameNew
    exact .inr (.inr (.inl ⟨m, cheaper, by simp⟩))
  | substitute old new =>
    obtain ⟨rfl, _⟩ := List.append_inj' took rfl
    obtain ⟨rfl, _⟩ := List.append_inj' gave rfl
    exact .inr (.inr (.inl ⟨m, cheaper, by simp only [Step.cost]; split <;> omega⟩))
  | insert unit =>
    obtain ⟨rfl, _⟩ := List.append_inj' gave rfl
    rw [Step.taken, List.append_nil] at took
    exact .inr (.inl ⟨m, took ▸ cheaper, rfl⟩)
  | delete unit =>
    obtain ⟨rfl, _⟩ := List.append_inj' took rfl
    rw [Step.given, List.append_nil] at gave
    exact .inl ⟨m, gave ▸ cheaper, rfl⟩
  | swap left right =>
    obtain ⟨rfl, sameOld⟩ := List.append_inj' (took.trans (List.append_cons before left [right])) rfl
    obtain ⟨rfl, sameNew⟩ := List.append_inj' (gave.trans (List.append_cons behind right [left])) rfl
    cases sameOld
    cases sameNew
    exact .inr (.inr (.inr ⟨before, behind, rfl, rfl, m, cheaper, rfl⟩))

/-- The lengths of two lists differ by no more than an alignment of them costs. -/
theorem length_le_of_costs (found : n ∈ costs xs ys) :
    xs.length ≤ ys.length + n ∧ ys.length ≤ xs.length + n := by
  obtain ⟨steps, ⟨rfl, rfl⟩, rfl⟩ := found
  induction steps with
  | nil => simp
  | cons step steps inductionHypothesis =>
    cases step <;> simp [Step.taken, Step.given, Step.cost] at * <;> omega

/-- From the empty list everything is inserted. -/
theorem least_nil_left (ys : List Nat) : IsLeast (costs [] ys) ys.length := by
  constructor
  · induction ys using List.reverseRecOn with
    | nil => exact costs_nil
    | append_singleton ys y inductionHypothesis =>
      simpa [Step.taken, Step.given, Step.cost] using costs_step inductionHypothesis (.insert y)
  · intro n found
    simpa using (length_le_of_costs found).2

/-- On the way to the empty list everything is deleted. -/
theorem least_nil_right (xs : List Nat) : IsLeast (costs xs []) xs.length := by
  constructor
  · induction xs using List.reverseRecOn with
    | nil => exact costs_nil
    | append_singleton xs x inductionHypothesis =>
      simpa [Step.taken, Step.given, Step.cost] using costs_step inductionHypothesis (.delete x)
  · intro n found
    simpa using (length_le_of_costs found).1

section

variable {deleted inserted replaced swapped : Nat}
  (leastDeleted : IsLeast (costs xs (ys ++ [y])) deleted)
  (leastInserted : IsLeast (costs (xs ++ [x]) ys) inserted)
  (leastReplaced : IsLeast (costs xs ys) replaced)

include leastDeleted leastInserted leastReplaced

/-- Lists with last units are aligned at the cost of the best last step that is no swap. -/
theorem costs_unswapped :
    min (min (deleted + 1) (inserted + 1)) (replaced + if x = y then 0 else 1) ∈
      costs (xs ++ [x]) (ys ++ [y]) := by
  refine min_rec' (· ∈ costs (xs ++ [x]) (ys ++ [y])) (min_rec' _ ?_ ?_) ?_
  · simpa [Step.taken, Step.given, Step.cost] using costs_step leastDeleted.1 (.delete x)
  · simpa [Step.taken, Step.given, Step.cost] using costs_step leastInserted.1 (.insert y)
  · exact costs_replaced leastReplaced.1 x y

/-- An alignment of lists with last units that costs less than that swaps the last two units of both. -/
theorem le_of_unswapped (found : n ∈ costs (xs ++ [x]) (ys ++ [y])) :
    min (min (deleted + 1) (inserted + 1)) (replaced + if x = y then 0 else 1) ≤ n ∨
    ∃ before behind, xs = before ++ [y] ∧ ys = behind ++ [x] ∧ ∃ m ∈ costs before behind, m + 1 = n := by
  rcases costs_last found with ⟨m, less, rfl⟩ | ⟨m, less, rfl⟩ | ⟨m, less, bound⟩ | crossed
  · have := leastDeleted.2 less
    exact .inl (by omega)
  · have := leastInserted.2 less
    exact .inl (by omega)
  · have := leastReplaced.2 less
    exact .inl (by omega)
  · exact .inr crossed

/-- The distance of lists whose last two units are not crosswise the same. -/
theorem least_uncrossed (uncrossed : ¬ ∃ before behind, xs = before ++ [y] ∧ ys = behind ++ [x]) :
    IsLeast (costs (xs ++ [x]) (ys ++ [y]))
      (min (min (deleted + 1) (inserted + 1)) (replaced + if x = y then 0 else 1)) := by
  refine ⟨costs_unswapped leastDeleted leastInserted leastReplaced, fun n found => ?_⟩
  rcases le_of_unswapped leastDeleted leastInserted leastReplaced found with
    least | ⟨before, behind, crossed, alsoCrossed, _⟩
  · exact least
  · exact absurd ⟨before, behind, crossed, alsoCrossed⟩ uncrossed

/-- The distance of lists whose last two units are crosswise the same. The swap reaches its cost, and an
alignment that ends in a swap leaves an alignment of what stands before both units. -/
theorem least_crossed {before behind : List Nat} (crossed : xs = before ++ [y])
    (alsoCrossed : ys = behind ++ [x]) (leastSwapped : IsLeast (costs before behind) swapped) :
    IsLeast (costs (xs ++ [x]) (ys ++ [y]))
      (min (min (min (deleted + 1) (inserted + 1)) (replaced + if x = y then 0 else 1))
        (swapped + 1)) := by
  constructor
  · refine min_rec' (· ∈ costs (xs ++ [x]) (ys ++ [y]))
      (costs_unswapped leastDeleted leastInserted leastReplaced) ?_
    rw [crossed, alsoCrossed, List.append_assoc, List.append_assoc]
    exact costs_step leastSwapped.1 (.swap y x)
  · intro n found
    rcases le_of_unswapped leastDeleted leastInserted leastReplaced found with
      least | ⟨others, further, sameBefore, sameBehind, m, less, rfl⟩
    · exact min_le_of_left_le least
    · cases List.append_inj_left' (crossed.symm.trans sameBefore) rfl
      cases List.append_inj_left' (alsoCrossed.symm.trans sameBehind) rfl
      exact min_le_of_right_le (Nat.succ_le_succ (leastSwapped.2 less))

end

/-- The distance between two starts of lists. -/
def StartsApart (first second : Array Nat) (i j : Nat) : Nat → Prop :=
  IsLeast (costs (first.toList.take i) (second.toList.take j))

variable {first second : Array Nat} {rows filled : Rows} {i j : Nat}

/-- A table of `i` full rows with the distances between the starts. -/
structure Filled (first second : Array Nat) (rows : Rows) (i : Nat) : Prop where
  height : rows.size = i
  full : ∀ k < i, (rows[k]?).map Array.size = some (second.size + 1)
  exact : ∀ k l n, cell? rows k l = some n → StartsApart first second k l n

/-- A table of `i` full rows and one more with `j` cells. -/
structure Filling (first second : Array Nat) (rows : Rows) (i j : Nat) : Prop where
  height : rows.size = i + 1
  full : ∀ k < i, (rows[k]?).map Array.size = some (second.size + 1)
  growing : (rows[i]?).map Array.size = some j
  exact : ∀ k l n, cell? rows k l = some n → StartsApart first second k l n

/-- A row has a cell in every column before its width. -/
theorem cell_of_width {width k l : Nat} (row : (rows[k]?).map Array.size = some width) (inside : l < width) :
    ∃ n, cell? rows k l = some n := by
  obtain ⟨cells, present, rfl⟩ := Option.map_eq_some_iff.mp row
  exact ⟨cells[l], by simp [cell?, present, inside]⟩

/-- A cell after one more cell in row `i`. -/
theorem cell_modify {k l n : Nat} (row : (rows[i]?).map Array.size = some j) :
    cell? (rows.modify i (·.push n)) k l = if k = i ∧ l = j then some n else cell? rows k l := by
  obtain ⟨cells, present, rfl⟩ := Option.map_eq_some_iff.mp row
  by_cases same : k = i
  · subst same
    simp [cell?, Array.getElem?_modify, present, Array.getElem?_push]
  · simp [cell?, Array.getElem?_modify, same, Ne.symm same]

/-- A cell after a new row with one cell. -/
theorem cell_push {k l n : Nat} :
    cell? (rows.push #[n]) k l = if k = rows.size ∧ l = 0 then some n else cell? rows k l := by
  by_cases new : k = rows.size
  · subst new
    by_cases start : l = 0
    · simp [cell?, start]
    · simp [cell?, start]
  · simp [cell?, Array.getElem?_push, new]

/-- A start of a list is the next shorter one and one more unit. -/
theorem take_succ_to_list (units : Array Nat) {k : Nat} (inside : k < units.size) :
    units.toList.take (k + 1) = units.toList.take k ++ [units[k]] :=
  List.take_succ_eq_append_getElem (l := units.toList) inside

/-- The units that a start of a list ends in. A start that is not empty is a shorter start and one more
unit. -/
theorem take_ends_iff (units : Array Nat) {k unit : Nat} (inside : k ≤ units.size) :
    (∃ before, units.toList.take k = before ++ [unit]) ↔ k ≥ 1 ∧ units[k - 1]? = some unit := by
  cases k with
  | zero => simp
  | succ k =>
    rw [take_succ_to_list units inside]
    constructor
    · rintro ⟨before, same⟩
      cases (List.append_inj' same rfl).2
      exact ⟨by omega, Array.getElem?_eq_getElem _⟩
    · rintro ⟨_, last⟩
      obtain ⟨_, rfl⟩ := Array.getElem?_eq_some_iff.mp last
      exact ⟨_, rfl⟩

/-- The test for a swap looks at the last two units of both starts. Both starts are long enough for two
units exactly if there is a unit before the last. -/
theorem crossed_iff (row : i < first.size) (column : j < second.size) :
    crossed first second (i + 1) (j + 1) = true ↔
      (∃ before, first.toList.take i = before ++ [second[j]]) ∧
      (∃ behind, second.toList.take j = behind ++ [first[i]]) := by
  rw [take_ends_iff first (Nat.le_of_lt row), take_ends_iff second (Nat.le_of_lt column)]
  have oldLast : first[i]? = some first[i] := Array.getElem?_eq_getElem row
  have newLast : second[j]? = some second[j] := Array.getElem?_eq_getElem column
  have before (k : Nat) : k + 1 - 2 = k - 1 := Nat.add_sub_add_right k 1 1
  rw [crossed, Nat.add_sub_cancel, Nat.add_sub_cancel, before, before, oldLast, newLast,
    Bool.and_eq_true, Bool.and_eq_true, Bool.and_eq_true, decide_eq_true_eq, decide_eq_true_eq,
    beq_iff_eq, beq_iff_eq]
  constructor
  · rintro ⟨⟨⟨old, new⟩, second⟩, first⟩
    exact ⟨⟨by omega, first⟩, by omega, second.symm⟩
  · rintro ⟨⟨old, first⟩, new, second⟩
    exact ⟨⟨⟨by omega, by omega⟩, second.symm⟩, first⟩

/-- The distance for a cell is reckoned from filled cells. The cells above, to the left and across are in
the table, and so is the one before a swap when the last two units are crossed; each of them holds the
least cost of its part, and the least of these with one more step is the least cost of the cell. -/
theorem reckon_least (filling : Filling first second rows (i + 1) (j + 1)) (row : i < first.size)
    (column : j < second.size) :
    ∃ n, reckon first second rows (i + 1) (j + 1) = some n ∧
      StartsApart first second (i + 1) (j + 1) n := by
  have above := filling.full i (Nat.lt_succ_self i)
  obtain ⟨deleted, readDeleted⟩ := cell_of_width above (l := j + 1) (by omega)
  obtain ⟨inserted, readInserted⟩ := cell_of_width filling.growing (l := j) (by omega)
  obtain ⟨replaced, readReplaced⟩ := cell_of_width above (l := j) (by omega)
  have leastDeleted := filling.exact _ _ _ readDeleted
  have leastInserted := filling.exact _ _ _ readInserted
  have leastReplaced := filling.exact _ _ _ readReplaced
  rw [StartsApart, take_succ_to_list second column] at leastDeleted
  rw [StartsApart, take_succ_to_list first row] at leastInserted
  rw [StartsApart] at leastReplaced
  rw [StartsApart, take_succ_to_list first row, take_succ_to_list second column]
  have tested := crossed_iff row column
  cases swaps : crossed first second (i + 1) (j + 1) with
  | true =>
    obtain ⟨⟨before, beforeEnds⟩, behind, behindEnds⟩ := tested.mp swaps
    obtain ⟨k, rfl⟩ : ∃ k, i = k + 1 := Nat.exists_eq_add_one_of_ne_zero (by rintro rfl; simp at beforeEnds)
    obtain ⟨l, rfl⟩ : ∃ l, j = l + 1 := Nat.exists_eq_add_one_of_ne_zero (by rintro rfl; simp at behindEnds)
    obtain ⟨swapped, readSwapped⟩ := cell_of_width (filling.full k (by omega)) (l := l) (by omega)
    have leastSwapped := filling.exact _ _ _ readSwapped
    have leastBefore : IsLeast (costs before behind) swapped := by
      rw [take_succ_to_list first (by omega)] at beforeEnds
      rw [take_succ_to_list second (by omega)] at behindEnds
      rw [← List.append_inj_left' beforeEnds rfl, ← List.append_inj_left' behindEnds rfl]
      exact leastSwapped
    refine ⟨_, ?_, least_crossed leastDeleted leastInserted leastReplaced beforeEnds behindEnds leastBefore⟩
    simp [reckon, swaps, readDeleted, readInserted, readReplaced, readSwapped,
      Array.getElem?_eq_getElem row, Array.getElem?_eq_getElem column]
  | false =>
    refine ⟨_, ?_, least_uncrossed leastDeleted leastInserted leastReplaced ?_⟩
    · simp [reckon, swaps, readDeleted, readInserted, readReplaced, Array.getElem?_eq_getElem row,
        Array.getElem?_eq_getElem column]
    · rintro ⟨before, behind, beforeEnds, behindEnds⟩
      exact absurd (tested.mpr ⟨⟨before, beforeEnds⟩, behind, behindEnds⟩) (by simp [swaps])

/-- In the first row everything is inserted. -/
theorem starts_apart_none_left (inside : j ≤ second.size) : StartsApart first second 0 j j := by
  have least := least_nil_left (second.toList.take j)
  rwa [List.length_take_of_le inside] at least

/-- In the first column everything is deleted. -/
theorem starts_apart_none_right (inside : i ≤ first.size) : StartsApart first second i 0 i := by
  have least := least_nil_right (first.toList.take i)
  rwa [List.length_take_of_le inside] at least

/-- A row is begun. Its first cell is the cost of taking away as many units as there are. -/
theorem Filled.begin_row (table : Filled first second rows i) (row : i ≤ first.size) :
    Filling first second (rows.push #[i]) i 1 := by
  obtain ⟨rfl, full, exact⟩ := table
  refine ⟨by simp, fun k before => ?_, by simp, fun k l n read => ?_⟩
  · rw [Array.getElem?_push, if_neg (Nat.ne_of_lt before)]
    exact full k before
  · rw [cell_push] at read
    split at read
    · rename_i new
      obtain ⟨rfl, rfl⟩ := new
      cases read
      exact starts_apart_none_right row
    · exact exact k l n read

/-- A cell is added, for which only filled cells are read. What is reckoned is the least cost for the new
cell, and the cells that were filled before are not touched. -/
theorem Filling.add_cell (table : Filling first second rows i j) (row : i ≤ first.size)
    (column : 1 ≤ j ∧ j ≤ second.size) :
    ∃ next, addCell first second i rows j = some next ∧ Filling first second next i (j + 1) := by
  obtain ⟨distance, reckoned, least⟩ : ∃ distance,
      (if i = 0 then some j else reckon first second rows i j) = some distance ∧
      StartsApart first second i j distance := by
    cases i with
    | zero => exact ⟨j, rfl, starts_apart_none_left column.2⟩
    | succ i =>
      obtain ⟨j, rfl⟩ := Nat.exists_eq_add_of_le' column.1
      exact reckon_least table row column.2
  refine ⟨rows.modify i (·.push distance), by rw [addCell, reckoned, Option.map_some], ?_⟩
  constructor
  · simp [table.height]
  · intro k before
    rw [Array.getElem?_modify, if_neg (Nat.ne_of_gt before)]
    exact table.full k before
  · obtain ⟨cells, present, rfl⟩ := Option.map_eq_some_iff.mp table.growing
    simp [Array.getElem?_modify, present]
  · intro k l n read
    rw [cell_modify table.growing] at read
    split at read
    · rename_i new
      obtain ⟨rfl, rfl⟩ := new
      cases read
      exact least
    · exact table.exact k l n read

/-- A row is filled to its end. The induction is on the number of columns that are left. -/
theorem Filling.rest_of_row (table : Filling first second rows i j) (row : i ≤ first.size) (start : 1 ≤ j)
    {left : Nat} (width : j + left = second.size + 1) :
    ∃ next, (List.range' j left).foldlM (addCell first second i) rows = some next ∧
      Filled first second next (i + 1) := by
  induction left generalizing rows j with
  | zero =>
    refine ⟨rows, rfl, table.height, fun k before => ?_, table.exact⟩
    rcases Nat.lt_succ_iff_lt_or_eq.mp before with earlier | rfl
    · exact table.full k earlier
    · exact table.growing.trans (congrArg some width)
  | succ left inductionHypothesis =>
    obtain ⟨next, added, filling⟩ := table.add_cell row ⟨start, by omega⟩
    obtain ⟨final, rest, filled⟩ := inductionHypothesis filling (by omega) (by omega)
    refine ⟨final, ?_, filled⟩
    rw [List.range'_succ, List.foldlM_cons, added]
    exact rest

/-- A row is added. -/
theorem Filled.add_row (table : Filled first second rows i) (row : i ≤ first.size) :
    ∃ next, addRow first second rows i = some next ∧ Filled first second next (i + 1) :=
  (table.begin_row row).rest_of_row row (Nat.le_refl 1) (Nat.add_comm 1 second.size)

/-- All rows are filled. The induction is on the number of rows that are left. -/
theorem Filled.rest_of_table (table : Filled first second rows i) {left : Nat}
    (height : i + left = first.size + 1) :
    ∃ next, (List.range' i left).foldlM (addRow first second) rows = some next ∧
      Filled first second next (first.size + 1) := by
  induction left generalizing rows i with
  | zero => exact ⟨rows, rfl, height ▸ table⟩
  | succ left inductionHypothesis =>
    obtain ⟨next, added, filled⟩ := table.add_row (by omega)
    obtain ⟨final, rest, done⟩ := inductionHypothesis filled (by omega)
    refine ⟨final, ?_, done⟩
    rw [List.range'_succ, List.foldlM_cons, added]
    exact rest

/-- Before the first row there is nothing to be filled. -/
theorem empty_filled (first second : Array Nat) : Filled first second #[] 0 :=
  ⟨rfl, fun _ before => absurd before (Nat.not_lt_zero _), fun _ _ _ read => by simp [cell?] at read⟩

/-- The table is filled, and its last cell holds the distance between the whole lists. -/
theorem distance_least (first second : Array Nat) :
    ∃ n, distance? first second = some n ∧ IsLeast (costs first.toList second.toList) n := by
  obtain ⟨rows, filled, table⟩ := (empty_filled first second).rest_of_table (Nat.zero_add _)
  obtain ⟨n, read⟩ := cell_of_width (table.full first.size (Nat.lt_succ_self _)) (Nat.lt_succ_self _)
  refine ⟨n, ?_, ?_⟩
  · rw [distance?, table?, List.range_eq_range', filled]
    exact read
  · simpa [StartsApart, ← Array.length_toList] using table.exact _ _ _ read

/-- The distance between two lists is the least cost of their alignments, and all cells of the table
that are read for it are filled before. -/
theorem distance_exact :
    (∀ first second : List Nat, ∃ n, distance? first.toArray second.toArray = some n ∧
      unitDistance first second = n ∧ IsLeast (costs first second) n) ∧
    (∀ first second : String,
      IsLeast (costs (Text.units first) (Text.units second)) (typoDistance first second)) := by
  have units (first second : List Nat) : ∃ n, distance? first.toArray second.toArray = some n ∧
      unitDistance first second = n ∧ IsLeast (costs first second) n := by
    obtain ⟨n, filled, least⟩ := distance_least first.toArray second.toArray
    exact ⟨n, filled, by rw [unitDistance, filled]; rfl, least⟩
  refine ⟨units, fun first second => ?_⟩
  obtain ⟨n, _, rfl, least⟩ := units (Text.units first) (Text.units second)
  exact least

/-- Swapped units are not edited further, so that nothing can be put between them. -/
example : unitDistance [1, 2] [2, 3, 1] = 3 := by decide

end Codemod.Naming
