import Codemod.Imports.Bindings
import Codemod.Imports.Scope

/-!
# What an expression refers to

A member of a name for the whole module, or a bare name bound to an export,
refers to that export unless a scope around it binds the name anew. Parentheses
around the expression or around the name before the dot do not matter.
-/
namespace Codemod.Imports

open Syntax

/-- The exported name that an expression of a file refers to. -/
def resolve (file : Node) (bindings : Bindings) (expression : Node) : Option String :=
  let callee := expression.unwrap
  if callee.kind == .propertyAccessExpression then
    match callee.child? .expression, callee.child? .name with
    | some object, some member =>
      let target := object.unwrap
      if target.kind == .identifier && bindings.namespaces.contains target.text
          && member.kind == .identifier && !isShadowed file target then
        some member.text
      else none
    | _, _ => none
  else if callee.kind == .identifier && !isShadowed file callee then bindings.named.lookup callee.text
  else none

end Codemod.Imports
