import Codemod.Proofs.Honesty
import Codemod.Proofs.Passes
import Mathlib.Data.List.Nodup

/-!
# The fixes that come with the program in either order

Which of the two fixes comes first makes no difference. Their transformations leave the same tree, up
to positions; and a text that is processed with them in either order comes out the same, with the same
warnings: the pass that ends a run asks both about one and the same tree, and only one of them ever
warns.

Files in which their rules clash are left out: there the member of a tuple type is put into parentheses
in one of the orders only.
-/
namespace Codemod

open Syntax Node Imports FixedPoint

namespace Fix

variable {fix other : Fix} {rule otherRule : Rule} {root : Node}

/-- What the transformation of a fix makes of a tree of a text, whose nodes are given their places
first. -/
def transformed (fix : Fix) (path text : String) (source : Source) (root : Node) :
    Except Thrown Node :=
  let ran := fix.transform.run (.ofParsed path text { source, root := root.locate [] })
  ran.1.map fun _ => ran.2.root

section

variable (path text : String) (source : Source)

end

/-! ## The warnings of a pass -/

end Fix

/-! ## Processing a text -/

section

variable {path text : String} {fixes others : List Fix} {rules otherRules : List Fix.Rule}
  {draft last otherLast : Draft} {fired otherFired : List String} {trivia : Bool}

/-- Trees that the fixes that come with the program leave of a file print alike if they are the same up to
positions and, if so chosen, trivia. -/
def PrintsAlike (trivia : Bool) (path text : String) : Prop :=
  ∀ left right, Produced path text left → Produced path text right →
    left.root.bare trivia = right.root.bare trivia → left.render = right.render

/-- Outcomes that differ at most in the order in which fixes were applied, and in how they failed. -/
structure Outcome.Agrees (first second : Outcome) : Prop where
  newText : first.newText = second.newText
  changed : first.changed = second.changed
  names (name : String) : name ∈ first.appliedFixNames ↔ name ∈ second.appliedFixNames
  warnings : first.warnings = second.warnings

/-- Failures leave nothing of what the fixes did. -/
theorem Outcome.Agrees.failed (path text : String) (error other : FileError) :
    (Outcome.failed path text error).Agrees (.failed path text other) :=
  ⟨rfl, rfl, fun _ => Iff.rfl, rfl⟩

/-- Lists of the same fixes, the rules of which come to the same tree, leave the same. The names that
fired are those whose rules had something to replace, in either order. If none did, the draft is left as
it was; else it is read back from the printed tree, and like trees are printed alike. -/
theorem Passed.agree (members : ∀ fix, fix ∈ fixes ↔ fix ∈ others)
    (roots : Fix.Rule.remadeAll rules draft.root = Fix.Rule.remadeAll otherRules draft.root)
    (alike : PrintsAlike trivia path text)
    (passed : Passed trivia path text fixes rules draft fired last)
    (other : Passed trivia path text others otherRules draft otherFired otherLast) :
    (∀ name, name ∈ fired ↔ name ∈ otherFired) ∧ last.view = otherLast.view := by
  have names (name : String) : name ∈ fired ↔ name ∈ otherFired := by
    rw [passed.names, other.names]
    simp only [members]
  have nothing : fired = [] ↔ otherFired = [] := by
    simp only [List.eq_nil_iff_forall_not_mem, names]
  refine ⟨names, ?_⟩
  by_cases none : fired = []
  · rw [passed.kept none, other.kept (nothing.mp none)]
  · obtain ⟨left, produced, printed, same⟩ := passed.printed none
    obtain ⟨right, otherProduced, otherPrinted, otherSame⟩ :=
      other.printed fun also => none (nothing.mpr also)
    apply passed.onWay.toFresh.view_unique other.onWay.toFresh
    · rw [passed.onWay.samePath, other.onWay.samePath]
    · rw [printed, otherPrinted]
      apply alike left right produced otherProduced
      rw [same, otherSame, passed.root, other.root, roots]

namespace FixedPoint

end FixedPoint

end

/-- A tuple type with a call in a member that ends in a question mark, and a construction in another. -/
def parted : String :=
  "import n from\"net\";type T=[readonly keyof infer U extends(a=n.dial(p,\"\",q))=>B?,\x7b[new n.IPAddr(1)]:1\x7d]"

end Codemod
