import Codemod.Date
import Codemod.Fix.NetDial
import Codemod.Naming.Suggestion

/-!
# The registry of fixes

A registry holds fixes with distinct names and valid dates. Later fixes may rely
on earlier ones, so they run by date, and by name on the same day, both compared
unit by unit.
-/
namespace Codemod

/-- Fixes in the order in which they were registered. -/
structure Registry where
  fixes : List Fix := []

/-- Fixes in run order: by date, then by name. -/
def compareRuns (leftDate leftName rightDate rightName : String) : Ordering :=
  (Text.compareUnits leftDate rightDate).then (Text.compareUnits leftName rightName)

/-- Whether a fix runs before another or with it. -/
def Fix.runsBefore (left right : Fix) : Bool :=
  compareRuns left.date left.name right.date right.name != .gt

namespace Registry

/-- Whether a name is registered. -/
def has (registry : Registry) (name : String) : Bool :=
  registry.fixes.any (·.name == name)

/-- The number of fixes. -/
def size (registry : Registry) : Nat :=
  registry.fixes.length

/-- The failure of a fix whose date is none. -/
def dateError (fix : Fix) : Error :=
  .plain ("fix \"" ++ fix.name ++ "\" has invalid date \"" ++ fix.date ++ "\" (expected YYYY-MM-DD)") none

/-- Adds a fix whose name is not taken and whose date is a calendar date. -/
def register (registry : Registry) (fix : Fix) : Except Error Registry :=
  if registry.has fix.name then .error (.duplicateFix fix.name)
  else if !Date.isCalendarDate fix.date then .error (dateError fix)
  else .ok { fixes := registry.fixes ++ [fix] }

/-- Every fix in run order. -/
def all (registry : Registry) : List Fix :=
  registry.fixes.mergeSort Fix.runsBefore

/-- A list without repetitions, in order of first appearance. -/
def distinct (names : List String) : List String :=
  names.foldl (fun seen name => if seen.contains name then seen else seen ++ [name]) []

/-- The registered names in unit order. -/
def names (registry : Registry) : List String :=
  (registry.fixes.map (·.name)).mergeSort Text.unitsLe

/-- The names offered for each unknown name that has any. -/
def suggestions (registry : Registry) (unknown : List String) : List (String × List String) :=
  (unknown.map fun name => (name, Naming.suggest name registry.names)).filter (!·.2.isEmpty)

/-- The fixes of the given names in run order, when all of them are registered. -/
def select (registry : Registry) (requested : List String) : Except Error (List Fix) :=
  let unknown := (distinct requested).filter (!registry.has ·)
  if unknown.isEmpty then .ok (registry.all.filter (requested.contains ·.name))
  else .error (.unknownFixes unknown (registry.suggestions unknown))

/-- What is shown of every fix, in run order. -/
def list (registry : Registry) : List Fix.Summary :=
  registry.all.map Fix.summary

/-- The registry of the fixes that come with the program. -/
def builtin : Registry :=
  { fixes := Fix.builtin }

/-- The section of the help text that lists each fix with its date and description. -/
def describe (registry : Registry) : String :=
  let fixes := registry.list
  let width := fixes.foldl (fun width fix => max width (Text.width fix.name)) 0
  let lines := fixes.map fun fix =>
    "  " ++ Text.padRight fix.name width ++ "  " ++ fix.date ++ "  " ++ fix.description
  "\n".intercalate (["", "Available fixes:"] ++ lines ++ [""])

end Registry

end Codemod
