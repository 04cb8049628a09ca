import Codemod.Text.Units

/-!
# Edit distance with swaps

The distance between two names is the least number of single edits that turn
one into the other, where an edit substitutes, inserts or deletes one unit or
swaps two neighbouring units that no other edit touches. A table is filled with
the distances between the starts of both names: it has a row for every start of
the first name and a column for every start of the second, the empty ones
included. Each cell is reckoned from cells that are filled before it, and there
is no table where one of them is not.
-/
namespace Codemod.Naming

/-- The rows of a table, the last of which may still be growing. -/
abbrev Rows := Array (Array Nat)

/-- The distance in row `i` and column `j`, if that cell is filled. -/
def cell? (rows : Rows) (i j : Nat) : Option Nat := do
  (← rows[i]?)[j]?

/-- Whether the last two of `i` units of the first name are crosswise the last two of `j` units of the
second. -/
def crossed (first second : Array Nat) (i j : Nat) : Bool :=
  i > 1 && j > 1 && first[i - 1]? == second[j - 2]? && first[i - 2]? == second[j - 1]?

/-- The distance between `i` units of the first name and `j` of the second, neither of them none: the
last unit is deleted, inserted, or kept or substituted, or the last two are swapped. -/
def reckon (first second : Array Nat) (rows : Rows) (i j : Nat) : Option Nat := do
  let deleted := (← cell? rows (i - 1) j) + 1
  let inserted := (← cell? rows i (j - 1)) + 1
  let replaced := (← cell? rows (i - 1) (j - 1)) + if first[i - 1]? = second[j - 1]? then 0 else 1
  let best := min (min deleted inserted) replaced
  if crossed first second i j then return min best ((← cell? rows (i - 2) (j - 2)) + 1)
  else return best

/-- Fills the cell of column `j` in row `i`, the last one. In the first row everything is inserted. -/
def addCell (first second : Array Nat) (i : Nat) (rows : Rows) (j : Nat) : Option Rows :=
  (if i = 0 then some j else reckon first second rows i j).map fun distance =>
    rows.modify i (·.push distance)

/-- Fills row `i`. In the first column everything is deleted. -/
def addRow (first second : Array Nat) (rows : Rows) (i : Nat) : Option Rows :=
  (List.range' 1 second.size).foldlM (addCell first second i) (rows.push #[i])

/-- The whole table, unless a cell was read that was not filled. -/
def table? (first second : Array Nat) : Option Rows :=
  (List.range (first.size + 1)).foldlM (addRow first second) #[]

/-- The distance in the last cell of the table. -/
def distance? (first second : Array Nat) : Option Nat := do
  cell? (← table? first second) first.size second.size

/-- The distance between two lists of units. -/
def unitDistance (first second : List Nat) : Nat :=
  (distance? first.toArray second.toArray).getD 0

/-- The distance between two names, in code units. -/
def typoDistance (first second : String) : Nat :=
  unitDistance (Text.units first) (Text.units second)

end Codemod.Naming
