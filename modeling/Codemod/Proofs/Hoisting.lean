import Codemod.Proofs.Shadowing

/-!
# Variables that rise to the top of their scope

A variable declared with `var` belongs to the function, static block or namespace
around it, however deep in blocks, conditions, handlers and heads of loops it is
declared; only functions and classes in between keep it to themselves. In a
function every use of the name is found to be shadowed, wherever the declaration
stands. In a static block and in the body of a namespace that is so where the
declaration stands directly in the body: the search for variables that rise
starts at functions only, and a deeper declaration is missed there.
-/
namespace Codemod.Imports

open Syntax

/-- Several nodes hoist a name when one of them does. -/
theorem hoists_in_list (name : String) (nodes : List Node) :
    hoistsInList name nodes = nodes.any (hoistsIn name) := by
  induction nodes with
  | nil => simp [hoistsInList]
  | cons node rest inductionHypothesis => simp [hoistsInList, inductionHypothesis]

/-- A file that declares the imported name in a condition inside a static block. -/
def stuck : String :=
  "import n from\"net\";class C\x7bstatic\x7bif(c)\x7bvar n\x7dn.dial(a,\"\",b)\x7d\x7d"

end Codemod.Imports
