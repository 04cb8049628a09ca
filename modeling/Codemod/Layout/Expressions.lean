import Codemod.Layout.Parts

/-!
# Printing expressions

Operators keep the line breaks around them, member accesses those around their
dots, and object and array literals those between their members.
-/
namespace Codemod.Layout

open Syntax

/-- Whether a number before a dot needs a dot of its own. -/
def needsDot (expression : Node) : W Bool := do
  if expression.kind != .numericLiteral then return false
  let spelled ← sourceText expression
  let based := match spelled.toList with
    | '0' :: c :: _ => ['x', 'X', 'b', 'B', 'o', 'O'].contains c
    | _ => false
  let text ← literalText expression
  let page ← get
  return !based && !text.toList.any (fun c => c == '.' || c == 'e' || c == 'E')
    && !page.endsInComment && !isBlankOrBreak page.last

section

variable (emit : Emit)

/-- Prints an access to a member by its name. -/
def propertyAccess (node : Node) : W Unit := do
  child emit node .expression
  let expression := (node.child? .expression).getD default
  let name := (node.child? .name).getD default
  let question := node.child? .questionDotToken
  let dot : Option Span := match question with
    | some token => token.info.span
    | none =>
      match stopOf expression, startOf name with
      | some start, some stop => some { start, stop }
      | _, _ => none
  let before ← brokenBetween node (placeOf expression) dot
  let after ← brokenBetween node dot name.info.span
  breakOr before false
  match question with
  | some token => emit .plain token
  | none =>
    if ← needsDot expression then write "."
    mark "." (stopOf expression) node
  breakOr after false
  emit .plain name
  unbreak before after

/-- Prints two operands with an operator between them. -/
def binary (node : Node) : W Unit := do
  let left := (node.child? .left).getD default
  let operator := (node.child? .operator).getD default
  let right := (node.child? .right).getD default
  emit .plain left
  let before ← brokenBetween node (placeOf left) operator.info.span
  let after ← brokenBetween node operator.info.span (placeOf right)
  breakOr before (operator.kind != .commaToken)
  leadingAt (startOf operator)
  write operator.kind.spelling
  trailingAt (stopOf operator) .before
  breakOr after true
  emit .plain right
  unbreak before after

/-- Prints a condition with its two branches. -/
def conditional (node : Node) : W Unit := do
  let part (role : Role) : Node := (node.child? role).getD default
  let span (role : Role) : Option Span := placeOf (part role)
  let beforeQuestion ← brokenBetween node (span .condition) (span .questionToken)
  let afterQuestion ← brokenBetween node (span .questionToken) (span .whenTrue)
  let beforeColon ← brokenBetween node (span .whenTrue) (span .colonToken)
  let afterColon ← brokenBetween node (span .colonToken) (span .whenFalse)
  emit .plain (part .condition)
  breakOr beforeQuestion true
  emit .plain (part .questionToken)
  breakOr afterQuestion true
  emit .plain (part .whenTrue)
  unbreak beforeQuestion afterQuestion
  breakOr beforeColon true
  emit .plain (part .colonToken)
  breakOr afterColon true
  emit .plain (part .whenFalse)
  unbreak beforeColon afterColon

/-- Prints an operator word before its operand. -/
def wordOperator (node : Node) (word : String) : W Unit := do
  mark word (startOf node) node
  space
  child emit node .expression

/-- Prints a function after its modifiers. -/
def functionLike (node : Node) : W Unit := do
  let _ ← printModifiers emit node false
  write "function"
  child emit node .asteriskToken
  space
  child emit node .name
  headAndBody emit node (signature emit node)

/-- Prints an arrow function. -/
def arrowFunction (node : Node) : W Unit := do
  let _ ← printModifiers emit node false
  headAndBody emit node do
    typeParameters emit node
    arrowParameters emit node
    typeAnnotation emit node
    space
    child emit node .equalsGreaterThanToken

/-- Prints a class. -/
def classLike (node : Node) : W Unit := do
  let pos ← printModifiers emit node true
  mark "class" pos node
  match node.child? .name with
  | some name =>
    space
    emit .plain name
  | none => pure ()
  typeParameters emit node
  series emit node .heritageClauses {}
  write " \x7b"
  series emit node .members .members
  write "\x7d"

/-- Whether comments stand after the character at a position. -/
def hasCommentsAfter (pos : Nat) : W Bool := do
  let source := (← get).source
  return !(trailingComments source (pos + 1)).isEmpty || !(leadingComments source (pos + 1)).isEmpty

/-- Prints an expression in braces inside a tag or between tags. -/
def tagExpression (node : Node) : W Unit := do
  let commented ← match node.info.span with
    | some span => hasCommentsAfter span.start
    | none => pure false
  let expression := node.child? .expression
  if expression.isSome || commented then
    let broken ← match node.info.span with
      | some span => (do return (← lineAt span.start) != (← lineAt span.stop))
      | none => pure false
    if broken then deeper
    let pos ← printToken "\x7b" (startOf node) node false
    child emit node .dotDotDotToken
    child emit node .expression
    mark "\x7d" (if expression.isSome then childStop node .expression else pos) node
    if broken then shallower

/-- Prints an expression; false for other nodes. -/
def printExpression (node : Node) : W Bool := do
  let bracketed (format : Format) : Format :=
    { format with preferNewline := node.info.marks.multiLine }
  match node.kind with
  | .numericLiteral | .bigIntLiteral | .stringLiteral | .regularExpressionLiteral
  | .noSubstitutionTemplateLiteral | .templateHead | .templateMiddle | .templateTail => do
    write (← literalText node)
  | .identifier | .privateIdentifier => do write (← nameText node)
  | .arrayLiteralExpression => series emit node .elements (bracketed .elements)
  | .objectLiteralExpression =>
    series emit node .properties (bracketed { Format.properties with trailingComma := true })
  | .propertyAccessExpression => propertyAccess emit node
  | .elementAccessExpression => do
    child emit node .expression
    child emit node .questionDotToken
    mark "[" (childStop node .expression) node
    child emit node .argumentExpression
    mark "]" (childStop node .argumentExpression) node
  | .callExpression => do
    child emit node .expression
    child emit node .questionDotToken
    typeArguments emit node
    series emit node .arguments .inParentheses
  | .newExpression => do
    mark "new" (startOf node) node
    space
    child emit node .expression
    typeArguments emit node
    series emit node .arguments { Format.inParentheses with optional := true }
  | .taggedTemplateExpression => do
    child emit node .tag
    typeArguments emit node
    space
    child emit node .template
  | .typeAssertionExpression => do
    write "<"
    child emit node .type
    write ">"
    child emit node .expression
  | .parenthesizedExpression => do
    mark "(" (startOf node) node
    child emit node .expression
    mark ")" (childStop node .expression) node
  | .functionExpression => functionLike emit node
  | .arrowFunction => arrowFunction emit node
  | .deleteExpression => wordOperator emit node "delete"
  | .typeOfExpression => wordOperator emit node "typeof"
  | .voidExpression => wordOperator emit node "void"
  | .awaitExpression => wordOperator emit node "await"
  | .prefixUnaryExpression => do
    let operator := node.info.word
    write operator.spelling
    match node.child? .operand with
    | some operand =>
      let inner := operand.info.word
      if operand.kind == .prefixUnaryExpression
          && ((operator == .plusToken && (inner == .plusToken || inner == .plusPlusToken))
            || (operator == .minusToken && (inner == .minusToken || inner == .minusMinusToken))) then
        space
      emit .plain operand
    | none => pure ()
  | .postfixUnaryExpression => do
    child emit node .operand
    write node.info.word.spelling
  | .binaryExpression => binary emit node
  | .conditionalExpression => conditional emit node
  | .templateExpression => do
    child emit node .head
    series emit node .spans { noComments := true }
  | .templateSpan => do
    child emit node .expression
    child emit node .literal
  | .yieldExpression => do
    mark "yield" (startOf node) node
    child emit node .asteriskToken
    spacedChild emit node .expression
  | .spreadElement | .spreadAssignment => do
    mark "..." (startOf node) node
    child emit node .expression
  | .classExpression | .classDeclaration => classLike emit node
  | .functionDeclaration => functionLike emit node
  | .omittedExpression => pure ()
  | .expressionWithTypeArguments => do
    child emit node .expression
    typeArguments emit node
  | .asExpression => do
    child emit node .expression
    write " as "
    child emit node .type
  | .satisfiesExpression => do
    child emit node .expression
    write " satisfies "
    child emit node .type
  | .nonNullExpression => do
    child emit node .expression
    write "!"
  | .metaProperty => do
    write (node.info.word.spelling ++ ".")
    child emit node .name
  | .propertyAssignment => do
    child emit node .name
    write ": "
    match node.child? .initializer with
    | some value =>
      trailingAt (startOf value) .after
      emit .plain value
    | none => pure ()
  | .shorthandPropertyAssignment => do
    child emit node .name
    match node.child? .objectAssignmentInitializer with
    | some value =>
      write " = "
      emit .plain value
    | none => pure ()
  | .jsxElement | .jsxFragment => do
    child emit node .openingElement
    series emit node .children { noComments := true }
    child emit node .closingElement
  | .jsxSelfClosingElement => do
    write "<"
    child emit node .tagName
    typeArguments emit node
    space
    child emit node .attributes
    write "/>"
  | .jsxOpeningElement => do
    write "<"
    child emit node .tagName
    typeArguments emit node
    if (node.child? .attributes).any (fun attributes => !(attributes.items .properties).isEmpty) then
      space
    child emit node .attributes
    write ">"
  | .jsxOpeningFragment => write "<>"
  | .jsxClosingElement => do
    write "</"
    child emit node .tagName
    write ">"
  | .jsxClosingFragment => write "</>"
  | .jsxText => write node.text
  | .jsxAttributes => series emit node .properties { spaceBetween := true, noComments := true }
  | .jsxAttribute => do
    child emit node .name
    match node.child? .initializer with
    | some value =>
      write "="
      emit .plain value
    | none => pure ()
  | .jsxSpreadAttribute => do
    write "\x7b..."
    child emit node .expression
    write "\x7d"
  | .jsxExpression => tagExpression emit node
  | .jsxNamespacedName => do
    child emit node .jsxNamespace
    write ":"
    child emit node .name
  | _ => return false
  return true

end

end Codemod.Layout
