import Codemod.Syntax.Node

/-!
# Expressions looked at without their parentheses

Parentheses do not change what an expression is. A literal may be the zero value
of its type: the number zero, however it is spelled, or the empty text.
-/
namespace Codemod.Syntax.Node

/-- The expression inside any parentheses. -/
def unwrap : Node → Node
  | mk info children =>
    match info.kind, children with
    | .parenthesizedExpression, [inner] => unwrap inner
    | _, _ => mk info children

/-- Whether a node is a text literal without holes. A literal has no parts. -/
def isText (node : Node) : Bool :=
  node.children.isEmpty
    && (node.kind == .stringLiteral || node.kind == .noSubstitutionTemplateLiteral)

/-- Whether an expression is the empty text. -/
def isEmptyText (node : Node) : Bool :=
  node.isText && node.text == ""

/-- Whether an expression is a literal with the zero value of its type. -/
def isZero (node : Node) : Bool :=
  if node.kind == .numericLiteral then node.children.isEmpty && node.text == "0"
  else node.isEmptyText

end Codemod.Syntax.Node
