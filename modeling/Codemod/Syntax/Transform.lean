import Codemod.Error
import Codemod.Syntax.Precedence

/-!
# Transforming trees

A transformation visits a tree from the root down. The visitor keeps a node or gives
another in its place; either way it goes on with the children of the
node that now stands there, so a replacement itself is not visited again. Fixed
tokens are not visited, nor is what can be read at a place but means nothing
there. A node below which nothing was replaced stays as it was; any other node is
rebuilt around its new children.

The number of nodes within one another that a transformation enters is bounded. A
visitor whose replacements never come to an end exhausts the bound and fails.
-/
namespace Codemod.Syntax

/-- A visitor: a replacement for a node, or none to keep it. -/
abbrev Visitor (m : Type → Type) := Node → m (Option Node)

/-- A transformed tree with the number of nodes replaced in it. -/
structure Transformed where
  node : Node
  replaced : Nat
  deriving Inhabited

/-- The failure of a transformation that does not come to an end. -/
def endless : Thrown :=
  .error (.plain "Maximum call stack size exceeded" none)

/-- The failure of a transformation that comes to a node without a part that it needs. -/
def incomplete : Thrown :=
  .error (.plain "Debug Failure." none)

namespace Node

/-- Whether a node lacks a part that it needs: an index signature without the type of its values. -/
def isIncomplete (node : Node) : Bool :=
  node.kind == .indexSignature && (node.child? .type).isNone

/-- The node around new children, in the parentheses that their places demand. A child without a role
stays as it was. -/
def rebuild (node : Node) (children : List Node) : Node :=
  mk { node.info with rebuilt := true }
    (fit node.info children ++ node.children.drop node.info.layout.length)

/-- The node around the results for its children, itself when nothing was replaced. -/
def assemble (node : Node) (results : List Transformed) : Transformed :=
  let replaced := results.foldr (fun result count => result.replaced + count) 0
  if replaced = 0 then { node, replaced } else { node := node.rebuild (results.map (·.node)), replaced }

section

variable {m : Type → Type} [Monad m] [MonadExceptOf Thrown m]

/-- The results for children of a node of a kind, given how to transform one; what is not looked at
stays. -/
def transformChildren (kind : Kind) (one : Node → m Transformed) :
    List Role → List Node → m (List Transformed)
  | role :: roles, child :: rest => do
    let result ← if role.isVisited kind then one child else pure { node := child, replaced := 0 }
    let results ← transformChildren kind one roles rest
    return result :: results
  | _, _ => return []

/-- Transforms the children of a node. A node without a part that it needs cannot be rebuilt. -/
def transformBelow (one : Node → m Transformed) (node : Node) : m Transformed := do
  let results ← transformChildren node.kind one node.info.layout node.children
  if node.isIncomplete then throw incomplete
  return node.assemble results

/-- Transforms a node and what is below it; `fuel` bounds the nodes within one another. -/
def transformNode (visit : Visitor m) : Nat → Node → m Transformed
  | 0, _ => throw endless
  | fuel + 1, node => do
    match ← visit node with
    | some replacement =>
      let result ← transformBelow (transformNode visit fuel) replacement
      return { result with replaced := result.replaced + 1 }
    | none => transformBelow (transformNode visit fuel) node

/-- Transforms a whole tree; `bound` bounds the nodes within one another. Only another whole tree can
replace the root. -/
def transformWithin (bound : Nat) (visit : Visitor m) (root : Node) : m Transformed := do
  let below := transformBelow (transformNode visit bound)
  match ← visit root with
  | some replacement =>
    if replacement.kind == .sourceFile then
      let result ← below replacement
      return { result with replaced := result.replaced + 1 }
    else below root
  | none => below root

/-- A bound on the nodes within one another that a transformation of a tree enters. -/
def transformBound (root : Node) : Nat :=
  4 * root.depth + 1000

/-- Transforms a whole tree. -/
def transform (visit : Visitor m) (root : Node) : m Transformed :=
  root.transformWithin root.transformBound visit

end

/-- Puts identifiers of one name in the place of those of another. -/
def renamed (old new : String) (node : Node) : Option Node :=
  if node.isNamed old then some (identifier new) else none

/-- Puts each truth value in the place of the other. -/
def toggled (node : Node) : Option Node :=
  match node.kind with
  | .trueKeyword => some (leaf { kind := .falseKeyword })
  | .falseKeyword => some (leaf { kind := .trueKeyword })
  | _ => none

end Node

end Codemod.Syntax
