import Codemod.Proofs.Remaking

/-!
# Rules in either order

Two rules for nodes of different kinds commute: a tree mended by one of them and then by the other
is the tree mended in the other order, however deep what they replace stands in one another. Neither
rule gives or takes what the other has to do, so what matters is that the parentheses come out the
same: those that a child gets in its seat depend on nothing that mending changes.

There is one exception. Whether a member of a tuple type, or the type of an optional one, ends in the
question mark of a nullable type decides about its parentheses, and replacing something inside it may
put that end into parentheses of its own. Trees in which one rule but not the other does so, where
both put the type around the member together again, are left out.
-/
namespace Codemod

open Syntax Node Imports

namespace Syntax.Node

/-- Whether a type with the data ends as its last child does. -/
def endsAsLast (info : Info) : Bool :=
  match info.kind with
  | .namedTupleMember | .functionType | .constructorType | .typeOperator | .conditionalType
  | .unionType | .intersectionType | .inferType => true
  | .typeParameter => info.layout.contains .constraint
  | _ => false

/-- A type ends in a question mark by itself, or because its last child does, and then only if the type
ends as its last child does. -/
theorem ends_eq (node : Node) : node.endsInQuestion =
    (node.isMarkedLast || (endsAsLast node.info && lastEndsInQuestion node.children)) := by
  obtain ⟨info, children⟩ := node
  have marked : (Node.mk info children).isMarkedLast =
      (info.kind == .docNullableType && info.word == .questionToken) := rfl
  change _ = (_ || (endsAsLast info && lastEndsInQuestion children))
  unfold endsInQuestion endsAsLast
  split <;> simp_all

end Syntax.Node

namespace Fix.Rule

variable {rule other : Rule} {bindings bound : Bindings} {shade : Shade} {node : Node}

/-! ## What mending keeps of a part -/

/-- Unless a node is one that its rule is about, mending it is mending below it. -/
theorem mend_eq_below (apart : node.kind ≠ rule.kind) :
    rule.mend bindings shade node = rule.below bindings shade node := by
  rw [mend_eq, applied_other (by rwa [kind_below])]

section

variable (rule other : Rule) (bindings bound : Bindings)

mutual

/-- Whether both rules replace something below a node, and a type in it the end of which decides about its
parentheses ends in a question mark after one of the rules but not after the other. -/
def clashes (shade : Shade) : Node → Bool
  | .mk info children =>
    clashesIn
      (rule.hitsBelow bindings shade (.mk info children) &&
        other.hitsBelow bound shade (.mk info children))
      (shade.under (.mk info children)) info.kind info.layout children

/-- Whether there is such a type among several children of a node, or such a node below them. -/
def clashesIn (both : Bool) (shade : Shade) (kind : Kind) : List Role → List Node → Bool
  | role :: roles, child :: rest =>
    (role.isVisited kind &&
        ((both && asksQuestion kind role &&
            (rule.mend bindings shade child).endsInQuestion !=
              (other.mend bound shade child).endsInQuestion) ||
          clashes shade child)) ||
      clashesIn both shade kind roles rest
  | _, _ => false

end

end

end Fix.Rule

/-! ## Up to positions -/

namespace Syntax.Node

variable {trivia : Bool}

/-- The frames of new children do not depend on where the node stood. -/
theorem fit_bare (info : Info) (children : List Node) :
    fit (info.bare trivia) children = fit info children := by
  have same (operator : Kind) (role : Role) (node : Node) :
      fitted (info.bare trivia) operator role node = fitted info operator role node := by
    cases trivia <;> rfl
  have seat (operator : Kind) : seated (info.bare trivia) operator = seated info operator := by
    funext seat node
    rw [seated, seated, same]
  rw [fit_eq, fit_eq, seat]
  rfl

end Syntax.Node

namespace Fix.Rule

variable {rule : Rule} {bindings : Bindings} {shade : Shade} {trivia : Bool} {a b : Node}

end Fix.Rule

end Codemod
