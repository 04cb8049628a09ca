import Codemod.Syntax.Node

/-!
# Traversal

A walk hands a node and everything below it to a visitor, parents before children and
children in the order of their parent. It keeps the nodes still to be handed over on
a stack, so that the depth of a tree costs nothing.
-/
namespace Codemod.Syntax.Node

/-- The size of two lists of trees is the sum of their sizes. -/
theorem size_list_append (left right : List Node) :
    sizeList (left ++ right) = sizeList left + sizeList right := by
  induction left with
  | nil => simp [sizeList]
  | cons node rest inductionHypothesis => simp [sizeList, inductionHypothesis, Nat.add_assoc]

/-- A stack with more nodes on it. The last of them is pushed first, so that the first is on top. -/
def pushAll (nodes stack : List Node) : List Node :=
  nodes.reverse.foldl (fun stack node => node :: stack) stack

/-- Pushing nodes puts them before the stack in their order. -/
theorem push_all_eq (nodes stack : List Node) : pushAll nodes stack = nodes ++ stack := by
  simp [pushAll]

section

variable {m : Type → Type} [Monad m]

/-- Hands the nodes on a stack and all nodes below them to a visitor. The children of the node taken
from the top are pushed once the visitor is done with it. -/
def walkStack (visit : Node → m Unit) : List Node → m Unit
  | [] => pure ()
  | mk info children :: rest => do
    visit (mk info children)
    walkStack visit (pushAll children rest)
termination_by stack => sizeList stack
decreasing_by
  rw [push_all_eq, size_list_append]
  simp only [sizeList, size]
  omega

/-- Hands a node and all nodes below it to a visitor, parents first. -/
def walkWith (visit : Node → m Unit) (node : Node) : m Unit :=
  walkStack visit [node]

end

/-- The nodes of a tree that satisfy a test, in walk order. -/
def findAll (test : Node → Bool) (node : Node) : List Node :=
  let collect : StateM (Array Node) Unit :=
    node.walkWith fun node => if test node then modify (·.push node) else pure ()
  (collect.run #[]).2.toList

/-- A node and all nodes below it, in walk order. -/
def walk (node : Node) : List Node :=
  node.findAll fun _ => true

end Codemod.Syntax.Node
