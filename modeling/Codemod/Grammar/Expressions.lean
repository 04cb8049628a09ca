import Codemod.Grammar.Tags

/-!
# Expressions

Operands, member accesses and calls, operators by how tightly they bind,
functions, object and array literals, and templates.
-/
namespace Codemod.Grammar

open Syntax

/-- Whether a node of a kind may stand before an assignment. -/
def isLeftHandSideKind : Kind → Bool
  | .propertyAccessExpression | .elementAccessExpression | .newExpression | .callExpression
  | .jsxElement | .jsxSelfClosingElement | .jsxFragment | .taggedTemplateExpression
  | .arrayLiteralExpression | .parenthesizedExpression | .objectLiteralExpression
  | .classExpression | .functionExpression | .identifier | .privateIdentifier
  | .regularExpressionLiteral | .numericLiteral | .bigIntLiteral | .stringLiteral
  | .noSubstitutionTemplateLiteral | .templateExpression | .falseKeyword | .nullKeyword
  | .thisKeyword | .trueKeyword | .superKeyword | .nonNullExpression
  | .expressionWithTypeArguments | .metaProperty | .importKeyword | .missingDeclaration => true
  | _ => false

/-- Whether a template starts here. -/
def isTemplateStart : P Bool :=
  atAny [.noSubstitutionTemplateLiteral, .templateHead]

/-- Whether a node belongs to an optional chain, looked for through assertions of presence. -/
def isChain : Node → Bool
  | .mk info children =>
    info.marks.chain ||
      (info.kind == .nonNullExpression &&
        match children with
        | [inner] => isChain inner
        | _ => false)

/-- An expression whose assertions of presence are marked as parts of an optional chain. -/
def markedChain : Node → Node
  | .mk info children =>
    if info.kind == .nonNullExpression then
      .mk { info with marks := { info.marks with chain := true } }
        (match children with
          | [inner] => [markedChain inner]
          | _ => children)
    else .mk info children

/-- What a further link is attached to, and whether the link belongs to an optional chain: it does
after `?.` and where the chain of the expression goes on. -/
def linked (expression : Node) (dot : Option Node) : Node × Bool :=
  if dot.isSome then (expression, true)
  else if isChain expression then (markedChain expression, true)
  else (expression, false)

/-- Whether the parameters of a function type are absent: no parenthesis opens before them. -/
def lacksParameters (source : Source) (info : Info) : Bool :=
  match (info.lists.lookup .parameters).bind (·.span) with
  | some span => source.get (span.start - 1) != '('
  | none => true

mutual

/-- Whether a type is absent although its place demands one, or is a function type without its
parameters or what it gives. -/
def isBrokenType (source : Source) : Node → Bool
  | .mk info children =>
    match info.kind with
    | .typeReference =>
      match children with
      | name :: _ => name.kind == .identifier && name.text.isEmpty
      | [] => false
    | .parenthesizedType => isLastBrokenType source children
    | .functionType | .constructorType =>
      lacksParameters source info || isLastBrokenType source children
    | _ => false

/-- Whether the last of several types is broken. -/
def isLastBrokenType (source : Source) : List Node → Bool
  | [] => false
  | [type] => isBrokenType source type
  | _ :: rest => isLastBrokenType source rest

end

/-- Whether a type is a function type in the notation of documentation, looked for inside
parentheses. -/
def isDocFunction : Node → Bool
  | .mk info children =>
    info.kind == .docFunctionType ||
      (info.kind == .parenthesizedType &&
        match children with
        | [inner] => isDocFunction inner
        | _ => false)

/-- Whether a list of modifiers has `async`. -/
def hasAsync (modifiers : Option NodeList) : Bool :=
  match modifiers with
  | some list => list.nodes.any (·.kind == .asyncKeyword)
  | none => false

/-- How sure it is that a function starts here. -/
inductive Certainty where
  | no
  | maybe
  | yes
  deriving DecidableEq, Repr

/-- Whether an arrow function with parentheses starts here; moves on. -/
def arrowStartAhead : P Certainty := do
  if ← at? .asyncKeyword then
    nextToken
    if ← hasNewline then return .no
    if !(← atAny [.openParenToken, .lessThanToken]) then return .no
  let first ← token
  nextToken
  let second ← token
  if first == .openParenToken then
    if second == .closeParenToken then
      nextToken
      if ← atAny [.equalsGreaterThanToken, .colonToken, .openBraceToken] then return .yes
      return .no
    if second == .openBracketToken || second == .openBraceToken then return .maybe
    if second == .dotDotDotToken then return .yes
    if isModifierKind second && second != .asyncKeyword && (← nextIs isIdentifier) then
      nextToken
      if ← at? .asKeyword then return .no
      return .yes
    if !(← isIdentifier) && second != .thisKeyword then return .no
    nextToken
    match ← token with
    | .colonToken => return .yes
    | .questionToken => do
      nextToken
      if ← atAny [.colonToken, .commaToken, .equalsToken, .closeParenToken] then return .yes
      return .no
    | .commaToken | .equalsToken | .closeParenToken => return .maybe
    | _ => return .no
  else
    if !(← isIdentifier) && !(← at? .constKeyword) then return .no
    if (← get).dialect.jsx then
      let isFunction ← lookAhead do
        let _ ← parseOptional .constKeyword
        nextToken
        match ← token with
        | .extendsKeyword => do
          nextToken
          return !(← atAny [.equalsToken, .greaterThanToken, .slashToken])
        | .commaToken | .equalsToken => return true
        | _ => return false
      return if isFunction then .yes else .no
    return .maybe

/-- How sure it is that an arrow function with parentheses starts here. -/
def arrowStart : P Certainty := do
  match ← token with
  | .openParenToken | .lessThanToken | .asyncKeyword => lookAhead arrowStartAhead
  | .equalsGreaterThanToken => return .yes
  | _ => return .no

section

variable (parse : Goal → P Node)

/-- The modifiers of an arrow function. -/
def parseArrowModifiers : P (Option NodeList) := do
  if ← at? .asyncKeyword then
    let pos ← nodePos
    let node ← parseTokenNode
    return some (← finishList pos [node] false)
  return none

/-- The body of an arrow function. -/
def parseArrowBody (async allowReturnType : Bool) : P Node := do
  if ← at? .openBraceToken then return ← parse (.functionBlock false async false none)
  if !(← atAny [.semicolonToken, .functionKeyword, .classKeyword]) && (← isStartOfStatement)
      && !(← isStartOfExpressionStatement) then
    return ← parse (.functionBlock false async true none)
  withAllowance (fun a => { a with yields := false, awaits := async })
    (parse (.assignment allowReturnType))

/-- An arrow function after its single parameter without parentheses. -/
def parseSimpleArrow (pos : Nat) (name : Node) (allowReturnType : Bool) (modifiers : Option NodeList) :
    P Node := do
  let start := (name.info.span.getD default).start
  let parameter ← finishKind .parameter start [.one .name name]
  let parameters ← finishList start [parameter] false
  let arrow ← parseExpectedToken .equalsGreaterThanToken
  let body ← parseArrowBody parse modifiers.isSome allowReturnType
  finishKind .arrowFunction pos
    [.optMany .modifiers modifiers, .many .parameters parameters,
      .one .equalsGreaterThanToken arrow, .one .body body]

/-- An arrow function with parentheses; `sure` accepts what only looks like one. -/
def parseParenthesizedArrow (sure allowReturnType : Bool) : P (Option Node) := do
  let pos ← nodePos
  let modifiers ← parseArrowModifiers
  let async := modifiers.isSome
  let typeParameters ← parseTypeParameters parse
  let parameters ←
    if ← parseExpected .openParenToken then do
      match ← parseParametersWith parse false async (!sure) with
      | none => return none
      | some list =>
        if !(← parseExpected .closeParenToken) && !sure then return none
        pure list
    else if sure then missingList
    else return none
  let colon ← at? .colonToken
  let type ← parseReturnType parse .colonToken false
  match type with
  | some node => if !sure && isBrokenType (← get).source node then return none
  | none => pure ()
  let last ← token
  if !sure && last != .equalsGreaterThanToken && (type.any isDocFunction || last != .openBraceToken) then
    return none
  let arrow ← parseExpectedToken .equalsGreaterThanToken
  let body ←
    if last == .equalsGreaterThanToken || last == .openBraceToken then
      parseArrowBody parse async allowReturnType
    else parseIdentifier
  if !allowReturnType && colon && !(← at? .colonToken) then return none
  return some (← finishKind .arrowFunction pos
    [.optMany .modifiers modifiers, .optMany .typeParameters typeParameters,
      .many .parameters parameters, .opt .type type, .one .equalsGreaterThanToken arrow,
      .one .body body])

/-- An arrow function with parentheses, if one stands here. -/
def tryParseArrow (allowReturnType : Bool) : P (Option Node) := do
  match ← arrowStart with
  | .no => return none
  | .yes => parseParenthesizedArrow parse true true
  | .maybe => do
    let start ← tokenStart
    if (← get).notFunctions.contains start then return none
    let result ← tryParse (parseParenthesizedArrow parse false allowReturnType)
    if result.isNone then
      modify fun state => { state with notFunctions := start :: state.notFunctions }
    return result

/-- An asynchronous arrow function with a single parameter, if one stands here. -/
def tryParseAsyncArrow (allowReturnType : Bool) : P (Option Node) := do
  if !(← at? .asyncKeyword) then return none
  let ahead ← lookAhead do
    nextToken
    if (← hasNewline) || (← at? .equalsGreaterThanToken) then return false
    let expression ← parse (.binary 0)
    return !(← hasNewline) && expression.kind == .identifier && (← at? .equalsGreaterThanToken)
  if !ahead then return none
  let pos ← nodePos
  let modifiers ← parseArrowModifiers
  let name ← parse (.binary 0)
  return some (← parseSimpleArrow parse pos name allowReturnType modifiers)

/-- Whether a name, word or literal comes next on the same line. -/
def nextIsOperandOnLine : P Bool :=
  lookAhead (afterNext (sameLine (orM isNameToken
    (atAny [.numericLiteral, .bigIntLiteral, .stringLiteral]))))

/-- Whether `yield` in hand is an operator. -/
def isYieldExpression : P Bool :=
  andM (at? .yieldKeyword) (orM inYield nextIsOperandOnLine)

/-- A `yield` with its operand. -/
def parseYield : P Node := do
  let pos ← nodePos
  nextToken
  if !(← hasNewline) && (← orM (at? .asteriskToken) isStartOfExpression) then
    let asterisk ← parseOptionalToken .asteriskToken
    let expression ← parse (.assignment true)
    finishKind .yieldExpression pos [.opt .asteriskToken asterisk, .one .expression expression]
  else finishKind .yieldExpression pos []

/-- A binary expression of two operands. -/
def makeBinary (left operator right : Node) (pos : Nat) : P Node :=
  finishKind .binaryExpression pos [.one .left left, .one .operator operator, .one .right right]

/-- The two branches after a condition. -/
def parseConditionalRest (condition : Node) (pos : Nat) (allowReturnType : Bool) : P Node := do
  match ← parseOptionalToken .questionToken with
  | none => pure condition
  | some question =>
    let whenTrue ← withAllowance (fun a => { a with noIn := false, decorating := false })
      (parse (.assignment false))
    let present ← at? .colonToken
    let colon ← parseExpectedToken .colonToken
    let whenFalse ←
      if present then parse (.assignment allowReturnType)
      else missing .identifier (some (expectedMessage .colonToken))
    finishKind .conditionalExpression pos
      [.one .condition condition, .one .questionToken question, .one .whenTrue whenTrue,
        .one .colonToken colon, .one .whenFalse whenFalse]

/-- An assignment, a conditional or anything that binds more tightly. -/
def parseAssignment (allowReturnType : Bool) : P Node := do
  if ← isYieldExpression then return ← parseYield parse
  match ← tryParseArrow parse allowReturnType with
  | some arrow => return arrow
  | none => pure ()
  match ← tryParseAsyncArrow parse allowReturnType with
  | some arrow => return arrow
  | none => pure ()
  let pos ← nodePos
  let expression ← parse (.binary 0)
  if expression.kind == .identifier && (← at? .equalsGreaterThanToken) then
    return ← parseSimpleArrow parse pos expression allowReturnType none
  if isLeftHandSideKind expression.kind then
    if (← rescanGreater).isAssignment then
      let operator ← parseTokenNode
      let right ← parse (.assignment allowReturnType)
      return ← makeBinary expression operator right pos
  parseConditionalRest parse expression pos allowReturnType

/-- Assignments with commas between them. -/
def parseExpression : P Node :=
  withAllowance (fun a => { a with decorating := false }) do
    let pos ← nodePos
    let first ← parse (.assignment true)
    let step (left : Node) : P (Node ⊕ Node) := do
      match ← parseOptionalToken .commaToken with
      | none => return .inr left
      | some comma =>
        let right ← parse (.assignment true)
        return .inl (← makeBinary left comma right pos)
    repeatUntil step id (← loopBound) first

/-- The operators after an operand that bind more tightly than a precedence. -/
def parseBinaryRest (precedence : Nat) (first : Node) (pos : Nat) : P Node := do
  let step (left : Node) : P (Node ⊕ Node) := do
    let operator ← rescanGreater
    let strength := binaryPrecedence operator
    let taken :=
      if operator == .asteriskAsteriskToken then strength ≥ precedence else strength > precedence
    if !taken then return .inr left
    if operator == .inKeyword && (← get).allowance.noIn then return .inr left
    if operator == .asKeyword || operator == .satisfiesKeyword then
      if ← hasNewline then return .inr left
      nextToken
      let type ← parse .type
      let kind := if operator == .asKeyword then Kind.asExpression else Kind.satisfiesExpression
      let start := (left.info.span.getD default).start
      return .inl (← finishKind kind start [.one .expression left, .one .type type])
    let token ← parseTokenNode
    let right ← parse (.binary strength)
    return .inl (← makeBinary left token right pos)
  repeatUntil step id (← loopBound) first

/-- Operands joined by operators that bind more tightly than a precedence. -/
def parseBinary (precedence : Nat) : P Node := do
  let pos ← nodePos
  let first ← parse .unary
  parseBinaryRest parse precedence first pos

/-- Whether `await` in hand is an operator. -/
def isAwaitExpression : P Bool :=
  andM (at? .awaitKeyword) (orM inAwait nextIsOperandOnLine)

/-- An operand with the increments around it. -/
def parseUpdate : P Node := do
  let pos ← nodePos
  let operator ← token
  if operator == .plusPlusToken || operator == .minusMinusToken then
    nextToken
    let operand ← parse .leftHandSide
    return ← finish { kind := .prefixUnaryExpression, word := operator } pos [.one .operand operand]
  if (← get).dialect.jsx && operator == .lessThanToken
      && (← nextIs (orM isNameToken (at? .greaterThanToken))) then
    return ← parse (.tag true false none none)
  let operand ← parse .leftHandSide
  if (← atAny [.plusPlusToken, .minusMinusToken]) && !(← hasNewline) then
    let operator ← token
    nextToken
    let start := (operand.info.span.getD default).start
    finish { kind := .postfixUnaryExpression, word := operator } start [.one .operand operand]
  else pure operand

/-- An operator before its operand, or an operand. -/
def parseSimpleUnary : P Node := do
  let pos ← nodePos
  let operator ← token
  let operation (kind : Kind) : P Node := do
    nextToken
    let operand ← parse .simpleUnary
    finishKind kind pos [.one .expression operand]
  match operator with
  | .plusToken | .minusToken | .tildeToken | .exclamationToken => do
    nextToken
    let operand ← parse .simpleUnary
    finish { kind := .prefixUnaryExpression, word := operator } pos [.one .operand operand]
  | .deleteKeyword => operation .deleteExpression
  | .typeOfKeyword => operation .typeOfExpression
  | .voidKeyword => operation .voidExpression
  | .lessThanToken => do
    if (← get).dialect.jsx then parse (.tag true true none none)
    else
      expect .lessThanToken
      let type ← parse .type
      expect .greaterThanToken
      let operand ← parse .simpleUnary
      finishKind .typeAssertionExpression pos [.one .type type, .one .expression operand]
  | .awaitKeyword => do
    if ← isAwaitExpression then operation .awaitExpression else parseUpdate parse
  | _ => parseUpdate parse

/-- Whether what stands here is an operand without an operator before it. -/
def isUpdateExpression : P Bool := do
  match ← token with
  | .plusToken | .minusToken | .tildeToken | .exclamationToken | .deleteKeyword | .typeOfKeyword
  | .voidKeyword | .awaitKeyword => pure false
  | .lessThanToken => return (← get).dialect.jsx
  | _ => pure true

/-- An operand with the operators before and after it. -/
def parseUnary : P Node := do
  if ← isUpdateExpression then
    let pos ← nodePos
    let expression ← parseUpdate parse
    if ← at? .asteriskAsteriskToken then
      return ← parseBinaryRest parse (binaryPrecedence .asteriskAsteriskToken) expression pos
    return expression
  let operator ← token
  let expression ← parse .simpleUnary
  if ← at? .asteriskAsteriskToken then
    let place := "is not allowed in the left-hand side of an exponentiation expression. Consider enclosing the expression in parentheses."
    if expression.kind == .typeAssertionExpression then
      errorAtText expression ("A type assertion expression " ++ place)
    else
      errorAtText expression
        ("An unary expression with the '" ++ operator.spelling ++ "' operator " ++ place)
  return expression

/-- Whether type arguments may end before the token in hand. -/
def canFollowTypeArguments : P Bool := do
  match ← token with
  | .openParenToken | .noSubstitutionTemplateLiteral | .templateHead => pure true
  | .lessThanToken | .greaterThanToken | .plusToken | .minusToken => pure false
  | _ => orM hasNewline (orM isBinaryOperator (notM isStartOfExpression))

/-- Type arguments of an expression, if what stands here can be nothing else. -/
def parseExpressionTypeArguments : P (Option NodeList) := do
  if (← get).dialect.untyped then return none
  if (← rescanLess) != .lessThanToken then return none
  nextToken
  let arguments ← parseDelimitedList .typeArguments (parse .type)
  if (← rescanGreater) != .greaterThanToken then return none
  nextToken
  if ← canFollowTypeArguments then return some arguments else return none

/-- A template with holes. -/
def parseTemplate (tagged : Bool) : P Node := do
  let pos ← nodePos
  let head ← parseTemplateHead tagged
  let spansPos ← nodePos
  let step (nodes : List Node) : P (List Node ⊕ List Node) := do
    let spanPos ← nodePos
    let expression ← allowIn (parse .expression)
    let literal ← parseTemplatePart tagged
    let node ← finishKind .templateSpan spanPos [.one .expression expression, .one .literal literal]
    if literal.kind == .templateMiddle then return .inl (node :: nodes) else return .inr (node :: nodes)
  let spans ← repeatUntil step id (← loopBound) []
  let list ← finishList spansPos spans.reverse false
  finishKind .templateExpression pos [.one .head head, .many .spans list]

/-- A template with the tag before it. -/
def parseTaggedTemplate (pos : Nat) (tag : Node) (dot : Option Node) (arguments : Option NodeList) :
    P Node := do
  let template ←
    if ← at? .noSubstitutionTemplateLiteral then do
      rescanTemplate true
      parseLiteralNode
    else parseTemplate parse true
  finish { kind := .taggedTemplateExpression, marks := { chain := dot.isSome || tag.info.marks.chain } } pos
    [.one .tag tag, .opt .questionDotToken dot, .optMany .typeArguments arguments,
      .one .template template]

/-- The expression and type arguments of an expression with type arguments. -/
def splitArguments (expression : Node) : Node × Option NodeList :=
  if expression.kind == .expressionWithTypeArguments then
    ((expression.child? .expression).getD expression, expression.list? .typeArguments)
  else (expression, none)

/-- A member after a dot. -/
def parsePropertyAccess (pos : Nat) (expression : Node) (dot : Option Node) : P Node := do
  let name ← parseRightSideOfDot true true true
  let (expression, chain) := linked expression dot
  if chain && name.kind == .privateIdentifier then
    errorAtNode name "An optional chain cannot contain private identifiers."
  match (splitArguments expression).2 with
  | some list =>
    let span := list.info.span.getD default
    errorAt (span.start - 1) ((← get).source.skipTrivia span.stop + 1)
      "An instantiation expression cannot be followed by a property access."
  | none => pure ()
  finish { kind := .propertyAccessExpression, marks := { chain } } pos
    [.one .expression expression, .opt .questionDotToken dot, .one .name name]

/-- A member in brackets, after the opening one. -/
def parseElementAccess (pos : Nat) (expression : Node) (dot : Option Node) : P Node := do
  let argument ←
    if ← at? .closeBracketToken then do
      let start ← nodePos
      errorAt start start "An element access expression should take an argument."
      finishKind .identifier start []
    else allowIn (parse .expression)
  expect .closeBracketToken
  let (expression, chain) := linked expression dot
  finish { kind := .elementAccessExpression, marks := { chain } } pos
    [.one .expression expression, .opt .questionDotToken dot, .one .argumentExpression argument]

/-- The member accesses after an expression. -/
def parseMemberRest (pos : Nat) (first : Node) (allowChain : Bool) : P Node := do
  let step (expression : Node) : P (Node ⊕ Node) := do
    let chained ←
      if allowChain && (← at? .questionDotToken) then
        nextIs (orM isNameToken (orM (at? .openBracketToken) isTemplateStart))
      else pure false
    let dot ← if chained then some <$> parseTokenNode else pure none
    let member ← if chained then isNameToken else parseOptional .dotToken
    if member then return .inl (← parsePropertyAccess pos expression dot)
    if dot.isSome || !(← get).allowance.decorating then
      if ← parseOptional .openBracketToken then
        return .inl (← parseElementAccess parse pos expression dot)
    if ← isTemplateStart then
      let (tag, arguments) := if dot.isNone then splitArguments expression else (expression, none)
      return .inl (← parseTaggedTemplate parse pos tag dot arguments)
    if dot.isNone then
      if (← at? .exclamationToken) && !(← hasNewline) then
        nextToken
        return .inl (← finishKind .nonNullExpression pos [.one .expression expression])
      match ← tryParse (parseExpressionTypeArguments parse) with
      | some arguments =>
        return .inl (← finishKind .expressionWithTypeArguments pos
          [.one .expression expression, .many .typeArguments arguments])
      | none => pure ()
    return .inr expression
  repeatUntil step id (← loopBound) first

/-- A spread, a hole or an expression in a list. -/
def parseElement : P Node := do
  match ← token with
  | .dotDotDotToken => do
    let pos ← nodePos
    nextToken
    let expression ← parse (.assignment true)
    finishKind .spreadElement pos [.one .expression expression]
  | .commaToken => do finishKind .omittedExpression (← nodePos) []
  | _ => parse (.assignment true)

/-- Arguments in parentheses. -/
def parseArguments : P NodeList := do
  expect .openParenToken
  let list ← parseDelimitedList .argumentExpressions
    (withAllowance (fun a => { a with noIn := false, decorating := false }) (parseElement parse))
  expect .closeParenToken
  return list

/-- The calls and member accesses after an expression. -/
def parseCallRest (pos : Nat) (first : Node) : P Node := do
  let step (expression : Node) : P (Node ⊕ Node) := do
    let expression ← parseMemberRest parse pos expression true
    let dot ← parseOptionalToken .questionDotToken
    let arguments ←
      if dot.isSome then tryParse (parseExpressionTypeArguments parse) else pure none
    if dot.isSome && (← isTemplateStart) then
      return .inl (← parseTaggedTemplate parse pos expression dot arguments)
    if arguments.isSome || (← at? .openParenToken) then
      let (callee, arguments) :=
        if dot.isNone then splitArguments expression else (expression, arguments)
      let list ← parseArguments parse
      let (callee, chain) := linked callee dot
      return .inl (← finish { kind := .callExpression, marks := { chain } } pos
        [.one .expression callee, .opt .questionDotToken dot, .optMany .typeArguments arguments,
          .many .arguments list])
    if dot.isSome then
      let name ← missing .identifier (some "Identifier expected.")
      return .inr (← finish { kind := .propertyAccessExpression, marks := { chain := true } } pos
        [.one .expression expression, .opt .questionDotToken dot, .one .name name])
    return .inr expression
  repeatUntil step id (← loopBound) first

/-- A method after its name. -/
def parseMethod (pos : Nat) (modifiers : Option NodeList) (asterisk : Option Node) (name : Node)
    (question exclamation : Option Node) (message : Option String) : P Node := do
  let yields := asterisk.isSome
  let awaits := hasAsync modifiers
  let typeParameters ← parseTypeParameters parse
  let parameters ← parseParameters parse yields awaits
  let type ← parseReturnType parse .colonToken false
  let body ← parseFunctionBlockOrSemicolon parse yields awaits false message
  finishKind .methodDeclaration pos
    [.optMany .modifiers modifiers, .opt .asteriskToken asterisk, .one .name name,
      .opt .questionToken question, .opt .exclamationToken exclamation,
      .optMany .typeParameters typeParameters, .many .parameters parameters, .opt .type type,
      .opt .body body]

/-- A member of an object literal. -/
def parseObjectElement : P Node := do
  let pos ← nodePos
  if ← parseOptional .dotDotDotToken then
    let expression ← parse (.assignment true)
    return ← finishKind .spreadAssignment pos [.one .expression expression]
  let modifiers ← parseModifiers parse { decorators := true }
  if ← parseContextualModifier .getKeyword then
    return ← parseAccessor parse pos modifiers .getAccessor false
  if ← parseContextualModifier .setKeyword then
    return ← parseAccessor parse pos modifiers .setAccessor false
  let asterisk ← parseOptionalToken .asteriskToken
  let plain ← isIdentifier
  let name ← parsePropertyName parse
  let question ← parseOptionalToken .questionToken
  let exclamation ← parseOptionalToken .exclamationToken
  if asterisk.isSome || (← atAny [.openParenToken, .lessThanToken]) then
    return ← parseMethod parse pos modifiers asterisk name question exclamation none
  if plain && !(← at? .colonToken) then
    let equals ← parseOptionalToken .equalsToken
    let value ← if equals.isSome then some <$> allowIn (parse (.assignment true)) else pure none
    finishKind .shorthandPropertyAssignment pos
      [.optMany .modifiers modifiers, .one .name name, .opt .questionToken question,
        .opt .exclamationToken exclamation, .opt .equalsToken equals,
        .opt .objectAssignmentInitializer value]
  else
    expect .colonToken
    let value ← allowIn (parse (.assignment true))
    finishKind .propertyAssignment pos
      [.optMany .modifiers modifiers, .one .name name, .opt .questionToken question,
        .opt .exclamationToken exclamation, .one .initializer value]

/-- An object literal. -/
def parseObject : P Node := do
  let pos ← nodePos
  expect .openBraceToken
  let multiLine ← hasNewline
  let properties ← parseDelimitedWith .objectLiteralMembers (some <$> parseObjectElement parse) true
  expect .closeBraceToken
  finish { kind := .objectLiteralExpression, marks := { multiLine } } pos [.optMany .properties properties]

/-- An array literal. -/
def parseArray : P Node := do
  let pos ← nodePos
  expect .openBracketToken
  let multiLine ← hasNewline
  let elements ← parseDelimitedList .arrayLiteralMembers (parseElement parse)
  expect .closeBracketToken
  finish { kind := .arrayLiteralExpression, marks := { multiLine } } pos [.many .elements elements]

/-- A function expression. -/
def parseFunctionExpression : P Node :=
  withAllowance (fun a => { a with decorating := false }) do
    let pos ← nodePos
    let modifiers ← parseModifiers parse {}
    expect .functionKeyword
    let asterisk ← parseOptionalToken .asteriskToken
    let yields := asterisk.isSome
    let awaits := hasAsync modifiers
    let name ←
      withAllowance
        (fun a => { a with yields := a.yields || yields, awaits := a.awaits || awaits })
        (do if ← isBindingIdentifier then some <$> parseBindingIdentifier else pure none)
    let typeParameters ← parseTypeParameters parse
    let parameters ← parseParameters parse yields awaits
    let type ← parseReturnType parse .colonToken false
    let body ← parse (.functionBlock yields awaits false none)
    finishKind .functionExpression pos
      [.optMany .modifiers modifiers, .opt .asteriskToken asterisk, .opt .name name,
        .optMany .typeParameters typeParameters, .many .parameters parameters, .opt .type type,
        .one .body body]

/-- An expression in parentheses. -/
def parseParenthesized : P Node := do
  let pos ← nodePos
  expect .openParenToken
  let expression ← allowIn (parse .expression)
  expect .closeParenToken
  finishKind .parenthesizedExpression pos [.one .expression expression]

/-- An operand that is not a construction. -/
def parsePrimaryWith (construction : P Node) : P Node := do
  match ← token with
  | .noSubstitutionTemplateLiteral => do
    if (← get).token.invalidEscape then rescanTemplate false
    parseLiteralNode
  | .numericLiteral | .bigIntLiteral | .stringLiteral => parseLiteralNode
  | .thisKeyword | .superKeyword | .nullKeyword | .trueKeyword | .falseKeyword => parseTokenNode
  | .openParenToken => parseParenthesized parse
  | .openBracketToken => parseArray parse
  | .openBraceToken => parseObject parse
  | .asyncKeyword => do
    if ← nextIs (andM (at? .functionKeyword) (notM hasNewline)) then parseFunctionExpression parse
    else parseIdentifierWith "Expression expected."
  | .atToken | .classKeyword => parse .classExpression
  | .functionKeyword => parseFunctionExpression parse
  | .newKeyword => construction
  | .slashToken | .slashEqualsToken => do
    if (← rescanPattern) == .regularExpressionLiteral then parseLiteralNode
    else parseIdentifierWith "Expression expected."
  | .templateHead => parseTemplate parse false
  | .privateIdentifier => parsePrivateIdentifier
  | _ => parseIdentifierWith "Expression expected."

/-- A construction or the name `new.target`; `fuel` bounds constructions of constructions. -/
def parseNew : Nat → P Node
  | 0 => missing .identifier (some "Expression expected.")
  | fuel + 1 => do
    let pos ← nodePos
    expect .newKeyword
    if ← parseOptional .dotToken then
      let name ← parseIdentifierName
      return ← finish { kind := .metaProperty, word := .newKeyword } pos [.one .name name]
    let start ← nodePos
    let operand ← parsePrimaryWith parse (parseNew fuel)
    let callee ← parseMemberRest parse start operand false
    let (callee, arguments) := splitArguments callee
    if ← at? .questionDotToken then
      errorHere ("Invalid optional chain from new expression. Did you mean to call '"
        ++ (← sourceText callee) ++ "()'?")
    let list ← if ← at? .openParenToken then some <$> parseArguments parse else pure none
    finishKind .newExpression pos
      [.one .expression callee, .optMany .typeArguments arguments, .optMany .arguments list]

/-- An operand. -/
def parsePrimary : P Node := do
  parsePrimaryWith parse (parseNew parse (← get).source.size.succ)

/-- `super` with what must follow it. -/
def parseSuper : P Node := do
  let pos ← nodePos
  let base ← parseTokenNode
  let base ←
    if ← at? .lessThanToken then do
      let start ← nodePos
      match ← tryParse (parseExpressionTypeArguments parse) with
      | some arguments => do
        errorAt start (← nodePos) "'super' may not use type arguments."
        if ← isTemplateStart then pure base
        else
          finishKind .expressionWithTypeArguments pos
            [.one .expression base, .many .typeArguments arguments]
      | none => pure base
    else pure base
  if ← atAny [.openParenToken, .dotToken, .openBracketToken] then return base
  let _ ← parseExpectedWith .dotToken
    "'super' must be followed by an argument list or member access."
  let name ← parseRightSideOfDot true true true
  finishKind .propertyAccessExpression pos [.one .expression base, .one .name name]

/-- An operand with the calls and member accesses after it. -/
def parseLeftHandSide : P Node := do
  let pos ← nodePos
  let first ← match ← token with
    | .importKeyword => do
      if ← nextIs (atAny [.openParenToken, .lessThanToken]) then parseTokenNode
      else if ← nextIs (at? .dotToken) then
        nextToken
        nextToken
        let name ← parseIdentifierName
        finish { kind := .metaProperty, word := .importKeyword } pos [.one .name name]
      else
        let operand ← parsePrimary parse
        parseMemberRest parse pos operand true
    | .superKeyword => parseSuper parse
    | _ => do
      let operand ← parsePrimary parse
      parseMemberRest parse pos operand true
  parseCallRest parse pos first

/-- The expression of a decorator. -/
def parseDecoratorExpression : P Node := do
  if (← inAwait) && (← at? .awaitKeyword) then
    let pos ← nodePos
    let name ← parseIdentifierWith "Expression expected."
    nextToken
    let member ← parseMemberRest parse pos name true
    parseCallRest parse pos member
  else parse .leftHandSide

end

end Codemod.Grammar
