import Codemod.Syntax.Node

/-!
# Parentheses that keep a tree's shape

When a node is rebuilt around new parts, a part that would be read differently
in its place is put in parentheses. How tightly an expression binds decides for
operands; an expression with type arguments alone binds less tightly than any
operator.
-/
namespace Codemod.Syntax

/-- How tightly a binary operator binds, none for other tokens. Assignments bind less tightly than
a conditional. -/
def Kind.operatorStrength (kind : Kind) : Int :=
  match kind with
  | .commaToken => 0
  | .questionQuestionToken | .barBarToken => 5
  | .ampersandAmpersandToken => 6
  | .barToken => 7
  | .caretToken => 8
  | .ampersandToken => 9
  | .equalsEqualsToken | .exclamationEqualsToken | .equalsEqualsEqualsToken
  | .exclamationEqualsEqualsToken => 10
  | .lessThanToken | .greaterThanToken | .lessThanEqualsToken | .greaterThanEqualsToken
  | .instanceOfKeyword | .inKeyword | .asKeyword | .satisfiesKeyword => 11
  | .lessThanLessThanToken | .greaterThanGreaterThanToken
  | .greaterThanGreaterThanGreaterThanToken => 12
  | .plusToken | .minusToken => 13
  | .asteriskToken | .slashToken | .percentToken => 14
  | .asteriskAsteriskToken => 15
  | other => if other.isAssignment then 3 else -1

/-- Whether operators of a kind group from the right. -/
def Kind.groupsRight (kind : Kind) : Bool :=
  kind == .asteriskAsteriskToken || kind.isAssignment

namespace Node

/-- The operator of a binary expression. -/
def operator (node : Node) : Kind :=
  ((node.child? .operator).map kind).getD .unknown

/-- How tightly an expression binds. -/
def strength (node : Node) : Int :=
  match node.kind with
  | .spreadElement => 1
  | .yieldExpression => 2
  | .conditionalExpression => 4
  | .binaryExpression => node.operator.operatorStrength
  | .asExpression | .satisfiesExpression => 11
  | .typeAssertionExpression | .nonNullExpression | .prefixUnaryExpression | .typeOfExpression
  | .voidExpression | .deleteExpression | .awaitExpression => 16
  | .postfixUnaryExpression => 17
  | .callExpression => 18
  | .newExpression => if (node.list? .arguments).isSome then 19 else 18
  | .taggedTemplateExpression | .propertyAccessExpression | .elementAccessExpression
  | .metaProperty => 19
  | .thisKeyword | .superKeyword | .identifier | .privateIdentifier | .nullKeyword | .trueKeyword
  | .falseKeyword | .numericLiteral | .bigIntLiteral | .stringLiteral | .arrayLiteralExpression
  | .objectLiteralExpression | .functionExpression | .arrowFunction | .classExpression
  | .regularExpressionLiteral | .noSubstitutionTemplateLiteral | .templateExpression
  | .parenthesizedExpression | .omittedExpression | .jsxElement | .jsxSelfClosingElement
  | .jsxFragment => 20
  | _ => -1

/-- The node in parentheses, at the place of the node. -/
def parenthesized (node : Node) : Node :=
  make { kind := .parenthesizedExpression, span := node.info.span } [.one .expression node]

/-- The node in parentheses that have no place of their own. -/
def wrapped (node : Node) : Node :=
  make { kind := .parenthesizedExpression } [.one .expression node]

/-- The type in parentheses that have no place of their own. -/
def parenthesizedType (node : Node) : Node :=
  make { kind := .parenthesizedType } [.one .type node]

/-- The node, in parentheses at its place unless a condition holds. -/
def inParensUnless (node : Node) (fits : Bool) : Node :=
  if fits then node else node.parenthesized

/-- The node, in parentheses without a place unless a condition holds. -/
def wrappedUnless (node : Node) (fits : Bool) : Node :=
  if fits then node else node.wrapped

/-- The type, in parentheses when a condition holds. -/
def inTypeParensIf (node : Node) (needed : Bool) : Node :=
  if needed then node.parenthesizedType else node

/-- A member of a list divided by commas. -/
def asMember (node : Node) : Node :=
  node.inParensUnless (node.strength > 0)

/-- Whether operands of an operator may be grouped either way. -/
def isAssociative (operator : Kind) : Bool :=
  operator == .asteriskToken || operator == .barToken || operator == .ampersandToken
    || operator == .caretToken || operator == .commaToken

/-- Whether an operator is a logical one that never stands next to `??` without parentheses. -/
def isLogical (operator : Kind) : Bool :=
  operator == .barBarToken || operator == .ampersandAmpersandToken

/-- Whether an operand of an operator mixes `??` with a logical operator. -/
def mixesWith (operator : Kind) (node : Node) : Bool :=
  node.kind == .binaryExpression
    && ((operator == .questionQuestionToken && isLogical node.operator)
      || (isLogical operator && node.operator == .questionQuestionToken))

/-- The left operand of an operator. -/
def asLeft (operator : Kind) (node : Node) : Node :=
  let gap := node.strength - operator.operatorStrength
  node.wrappedUnless (!mixesWith operator node && (gap > 0 || (gap == 0 && !operator.groupsRight)))

/-- Whether an operand that binds like the operator before it may stand on its right. -/
def groupsOnRight (operator : Kind) (node : Node) : Bool :=
  if node.kind == .binaryExpression then
    (node.operator == operator && isAssociative operator) || node.operator.groupsRight
  else node.kind == .conditionalExpression || node.kind == .yieldExpression

/-- The right operand of an operator. -/
def asRight (operator : Kind) (node : Node) : Node :=
  let gap := node.strength - operator.operatorStrength
  if node.kind == .arrowFunction && operator.operatorStrength > 3 then node.wrapped
  else if mixesWith operator node then node.wrapped
  else if gap > 0 then node
  else if gap < 0 then node.wrappedUnless (operator.groupsRight && node.kind == .yieldExpression)
  else node.wrappedUnless (groupsOnRight operator node)

/-- Whether an expression is a link of an optional chain. -/
def isLink (node : Node) : Bool :=
  node.info.marks.chain &&
    (node.kind == .propertyAccessExpression || node.kind == .elementAccessExpression
      || node.kind == .callExpression || node.kind == .nonNullExpression)

/-- Whether an expression constructs something without arguments. -/
def lacksArguments (node : Node) : Bool :=
  node.kind == .newExpression && (node.list? .arguments).isNone

/-- An expression to which something outside of an optional chain is applied. -/
def asApplied (node : Node) : Node :=
  node.inParensUnless (!node.isLink && !node.lacksArguments)

/-- Whether a type is a function type or a conditional one. -/
def isArrowOrConditional (node : Node) : Bool :=
  node.kind == .functionType || node.kind == .constructorType || node.kind == .conditionalType

/-- Whether a type needs parentheses next to an operator on types. -/
def isLooseType (node : Node) : Bool :=
  node.kind == .unionType || node.kind == .intersectionType || node.isArrowOrConditional

/-- Whether a type needs parentheses before brackets or a question mark. -/
def isLoosePostfix (node : Node) : Bool :=
  node.isLooseType || node.kind == .inferType || node.kind == .typeOperator || node.kind == .typeQuery

/-- Whether a nullable type has its question mark at the end. -/
def isMarkedLast (node : Node) : Bool :=
  node.kind == .docNullableType && node.info.word == .questionToken

mutual

/-- Whether a type ends in the question mark of a nullable type. -/
def endsInQuestion : Node → Bool
  | .mk info children =>
    match info.kind with
    | .docNullableType => isMarkedLast (.mk info children)
    | .namedTupleMember | .functionType | .constructorType | .typeOperator | .conditionalType
    | .unionType | .intersectionType | .inferType => lastEndsInQuestion children
    | .typeParameter => info.layout.contains .constraint && lastEndsInQuestion children
    | _ => false

/-- Whether the last of several types ends in the question mark of a nullable type. -/
def lastEndsInQuestion : List Node → Bool
  | [] => false
  | [node] => endsInQuestion node
  | _ :: rest => lastEndsInQuestion rest

end

/-- A function type with type parameters in the first place of type arguments. -/
def asFirstArgument (node : Node) : Node :=
  node.inTypeParensIf ((node.kind == .functionType || node.kind == .constructorType)
    && !(node.items .typeParameters).isEmpty)

/-- A part of a node, in the parentheses that its place demands. -/
def fitted (info : Info) (operator : Kind) (role : Role) (node : Node) : Node :=
  match info.kind, role with
  | .callExpression, .arguments | .newExpression, .arguments | .arrayLiteralExpression, .elements
  | .variableDeclaration, .initializer | .parameter, .initializer | .bindingElement, .initializer
  | .propertyDeclaration, .initializer | .propertyAssignment, .initializer | .enumMember, .initializer
  | .shorthandPropertyAssignment, .objectAssignmentInitializer | .spreadElement, .expression
  | .spreadAssignment, .expression | .caseClause, .expression | .yieldExpression, .expression
  | .forOfStatement, .expression =>
    node.asMember
  | .binaryExpression, .left => node.asLeft operator
  | .binaryExpression, .right => node.asRight operator
  | .exportAssignment, .expression => if info.marks.exportEquals then node.asRight .equalsToken else node
  | .conditionalExpression, .condition => node.wrappedUnless (node.strength > 4)
  | .computedPropertyName, .expression => node.wrappedUnless (node.operator != .commaToken)
  | .newExpression, .expression => node.wrappedUnless !node.lacksArguments
  | .taggedTemplateExpression, .tag | .decorator, .expression
  | .expressionWithTypeArguments, .expression => node.asApplied
  | .nonNullExpression, .expression => node.inParensUnless !(node.isLink && !info.marks.chain)
  | .unionType, .types | .intersectionType, .types => node.inTypeParensIf node.isLooseType
  | .typeOperator, .type =>
    node.inTypeParensIf (node.isLooseType
      || (info.word == .readonlyKeyword && node.kind == .typeOperator))
  | .arrayType, .elementType | .indexedAccessType, .objectType => node.inTypeParensIf node.isLoosePostfix
  | .optionalType, .type => node.inTypeParensIf (node.isLoosePostfix || node.endsInQuestion)
  | .tupleType, .elements => node.inTypeParensIf node.endsInQuestion
  | .conditionalType, .checkType => node.inTypeParensIf node.isArrowOrConditional
  | .conditionalType, .extendsType => node.inTypeParensIf (node.kind == .conditionalType)
  | _, _ => node

/-- The children of a node with a generic function type first among type arguments in parentheses. -/
def fitFirstArgument : List (Role × Node) → List Node
  | [] => []
  | (role, node) :: rest =>
    if role == .typeArguments then node.asFirstArgument :: rest.map (·.2)
    else node :: fitFirstArgument rest

/-- Whether a generic function type may not come first among the type arguments of such a node. -/
def refusesGenericFirst : Kind → Bool
  | .typeReference | .typeQuery | .importType | .expressionWithTypeArguments => true
  | _ => false

/-- New children of a node, in the parentheses that their places demand. -/
def fit (info : Info) (children : List Node) : List Node :=
  let parts := info.layout.zip children
  let operator := ((parts.find? (·.1 == .operator)).map (·.2.kind)).getD .unknown
  let fitting := parts.map fun (role, node) => (role, fitted info operator role node)
  if refusesGenericFirst info.kind then fitFirstArgument fitting else fitting.map (·.2)

end Node

end Codemod.Syntax
