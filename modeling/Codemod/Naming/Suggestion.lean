import Codemod.Naming.Distance

/-!
# Suggestions for unknown names

A known name is offered for an unknown one when it extends it by whole
hyphenated words, or when it lies within one edit for every four units of the
unknown name. Extensions come first, then the closest names, and names at the
same distance in unit order.
-/
namespace Codemod.Naming

/-- The number of edits allowed for a name: one for every four units, at least one. -/
def budget (name : String) : Nat :=
  max 1 (Text.width name / 4)

/-- How far a candidate is from an unknown name; an extension by words is at no distance. -/
def suggestionDistance (name candidate : String) : Nat :=
  if (name ++ "-").toList.isPrefixOf candidate.toList then 0 else typoDistance name candidate

/-- Whether the first scored candidate is offered before or with the second. -/
def offeredBefore (left right : Nat × String) : Bool :=
  left.1 < right.1 || (left.1 == right.1 && Text.unitsLe left.2 right.2)

/-- The known names worth offering for `name`, the closest first. -/
def suggest (name : String) (known : List String) : List String :=
  let scored := (known.filter (· != name)).map fun candidate =>
    (suggestionDistance name candidate, candidate)
  let near := scored.filter fun entry => entry.1 ≤ budget name
  (near.mergeSort offeredBefore).map (·.2)

end Codemod.Naming
