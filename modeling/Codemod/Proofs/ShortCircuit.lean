import Codemod.Proofs.Dialling

/-!
# Tests that only save work

The fixes that come with the program are tested by whether the file loads the module. A file that binds a name of
the module loads it. So where the test of such a fix says no, nothing is bound: the fix would replace
nothing and warn about nothing, and a driver that does not ask comes to the same.

There is one exception. The fix for calls goes through the tree even if nothing is bound, and fails where
the tree lacks a part. Its test keeps it from doing so in files that do not load the module.
-/
namespace Codemod

open Syntax Node Imports FixedPoint

namespace Imports

end Imports

namespace Fix

section

variable {rule : Rule} {file node : Node} {bindings : Bindings} {shade : Shade} {fuel : Nat}

end

/-- The fix without its test. -/
def untested (fix : Fix) : Fix :=
  { fix with precondition := pure true }

variable {fixes : List Fix}

end Fix

end Codemod
