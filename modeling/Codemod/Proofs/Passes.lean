import Codemod.Proofs.Commuting
import Codemod.Proofs.Firing

/-!
# The fixes that come with the program settle

One pass leaves nothing to do. Each fix removes all that it has to replace, also what stands within
one another, and neither makes anything for the other; so a second pass over what the first one left
changes nothing. What a pass leaves is the tree with each fix's rule applied in turn.

This is about files that are printed and read back as they were left. A fix fails where it goes through
a tree that lacks a part, and nothing more is said about such files.
-/
namespace Codemod

open Syntax Node Imports FixedPoint

namespace Fix

variable {fix other : Fix} {rule otherRule : Rule} {fixes : List Fix} {rules : List Rule}
  {root before after : Node} {trivia : Bool}

/-- A fix that follows a rule is one of the two that come with the program, with its own rule. -/
theorem Follows.either (follows : fix.Follows rule) :
    (fix = netAddrKeyed ∧ rule = keyedRule) ∨ (fix = netDial ∧ rule = dialRule) := by
  cases follows with
  | keyed => exact .inl ⟨rfl, rfl⟩
  | dial => exact .inr ⟨rfl, rfl⟩

/-- Whether a fix that comes with the program has something to replace in a file. -/
def Fires (fix : Fix) (root : Node) : Prop :=
  ∃ rule, fix.Follows rule ∧ rule.fires root = true

namespace Rule

/-- A file after a fix that follows the rule had its turn. -/
def remade (rule : Rule) (root : Node) : Node :=
  if rule.fires root then rule.mended root else root

/-- A file after fixes that follow the rules had their turns, one after another. -/
def remadeAll (rules : List Rule) (root : Node) : Node :=
  rules.foldl (fun root rule => rule.remade root) root

end Rule

open Rule

end Fix

section

variable {path text : String} {draft last : Draft} {fixes : List Fix} {rules : List Fix.Rule}
  {trivia : Bool}

/-- What fixes leave of a draft of the file, and the names of those that fired. -/
structure Passed (trivia : Bool) (path text : String) (fixes : List Fix) (rules : List Fix.Rule)
    (draft : Draft) (fired : List String) (last : Draft) : Prop where
  onWay : last.Follows path text
  root : last.root.bare trivia = (Fix.Rule.remadeAll rules draft.root).bare trivia
  names (name : String) : name ∈ fired ↔ ∃ fix ∈ fixes, fix.Fires draft.root ∧ fix.name = name
  kept : fired = [] → last.view = draft.view
  printed : fired ≠ [] → ∃ left, Produced path text left ∧ last.text = left.render ∧
    left.root.bare trivia = last.root.bare trivia

/-- What fixes leave may be replaced by a draft that looks the same: only what fixes work on is asked
about. -/
theorem Passed.of_view {fired : List String} {after : Draft} (view : after.view = last.view)
    (passed : Passed trivia path text fixes rules draft fired last) :
    Passed trivia path text fixes rules draft fired after where
  onWay := passed.onWay.of_view view
  root := (congrArg (bare trivia) (congrArg Draft.View.root view)).trans passed.root
  names := passed.names
  kept none := view.trans (passed.kept none)
  printed some := by
    obtain ⟨left, produced, text_eq, same⟩ := passed.printed some
    exact ⟨left, produced, (congrArg Draft.View.text view).trans text_eq,
      same.trans (congrArg (bare trivia) (congrArg Draft.View.root view).symm)⟩

namespace FixedPoint

end FixedPoint

/-! ## Processing a text -/

end

/-! ## Following the texts that a file goes through -/

section

variable {path text : String} {texts : List String} {left : Draft} {trivia : Bool}

end

/-- A call within a construction, both of them to be replaced. -/
def nested : String :=
  "import n from\"net\";new n.IPAddr(n.dial(a,\"\",b))"

/-- A file that loads the module and holds an index signature without a type. -/
def untyped : String :=
  "import \"net\";\ninterface I \x7b [k: string] \x7d\n"

end Codemod
