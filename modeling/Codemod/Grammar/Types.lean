import Codemod.Grammar.Bindings

/-!
# Types

Type annotations: references, literals, functions, objects, tuples, unions,
conditional and mapped types, templates and predicates.
-/
namespace Codemod.Grammar

open Syntax

/-- The identifier after a dot. -/
def parseRightSideOfDot (allowWords allowPrivate allowEscapes : Bool) : P Node := do
  let missingName : P Node := do
    let pos ← nodePos
    errorAt pos pos "Identifier expected."
    finishKind .identifier (← nodePos) []
  if (← hasNewline) && (← isNameToken)
      && (← lookAhead (afterNext (andM isNameToken (notM hasNewline)))) then
    return ← missingName
  if ← at? .privateIdentifier then
    let node ← parsePrivateIdentifier
    if allowPrivate then return node else return ← missingName
  if allowWords then
    let current := (← get).token
    if !allowEscapes && current.escaped then errorHere "Unicode escape sequence cannot appear here."
    parseIdentifierName
  else parseIdentifier

/-- A name with dots. -/
def parseEntityName (allowWords : Bool) (message : Option String) : P Node := do
  let pos ← nodePos
  let good ← if allowWords then isNameToken else isIdentifier
  let first ← createIdentifier good message none
  let step (entity : Node) : P (Node ⊕ Node) := do
    if !(← parseOptional .dotToken) then return .inr entity
    if ← at? .lessThanToken then return .inr entity
    let right ← parseRightSideOfDot allowWords false true
    return .inl (← finishKind .qualifiedName pos [.one .left entity, .one .right right])
  repeatUntil step id (← loopBound) first

/-- The part of a template up to its first hole. -/
def parseTemplateHead (tagged : Bool) : P Node := do
  if !tagged && (← get).token.invalidEscape then rescanTemplate false
  parseLiteralNode

/-- The part of a template after a hole. -/
def parseTemplatePart (tagged : Bool) : P Node := do
  if ← at? .closeBraceToken then
    rescanTemplate tagged
    parseLiteralNode
  else missing .templateTail (some (expectedMessage .closeBraceToken))

section

variable (parse : Goal → P Node)

/-- Type arguments in angle brackets. -/
def parseTypeArgumentList : P NodeList :=
  parseBracketedList .typeArguments (parse .type) .lessThanToken .greaterThanToken

/-- The type arguments of a type reference. -/
def parseReferenceArguments : P (Option NodeList) := do
  if ← hasNewline then return none
  if (← rescanLess) == .lessThanToken then return some (← parseTypeArgumentList parse)
  return none

/-- A reference to a named type. -/
def parseTypeReference : P Node := do
  let pos ← nodePos
  let name ← parseEntityName true (some "Type expected.")
  let arguments ← parseReferenceArguments parse
  finishKind .typeReference pos [.one .typeName name, .optMany .typeArguments arguments]

/-- A type parameter. -/
def parseTypeParameter : P Node := do
  let pos ← nodePos
  let modifiers ← parseModifiers parse { constant := true }
  let name ← parseIdentifier
  let (constraint, expression) ←
    if ← parseOptional .extendsKeyword then
      if ← orM isStartOfType (notM isStartOfExpression) then
        pure (some (← parse .type), none)
      else pure (none, some (← parse .unary))
    else pure (none, none)
  let default ← if ← parseOptional .equalsToken then some <$> parse .type else pure none
  finishKind .typeParameter pos
    [.optMany .modifiers modifiers, .one .name name, .opt .constraint constraint,
      .opt .defaultType default, .opt .expression expression]

/-- Type parameters in angle brackets. -/
def parseTypeParameters : P (Option NodeList) := do
  if ← at? .lessThanToken then
    return some (← parseBracketedList .typeParameters (parseTypeParameter parse)
      .lessThanToken .greaterThanToken)
  return none

/-- A type or the claim that a parameter has a type. -/
def parseTypeOrPredicate : P Node := do
  let pos ← nodePos
  let claim : P (Option Node) := do
    let name ← parseIdentifier
    if (← at? .isKeyword) && !(← hasNewline) then
      nextToken
      return some name
    return none
  let variable' ← if ← isIdentifier then tryParse claim else pure none
  let type ← parse .type
  match variable' with
  | some name => finishKind .typePredicate pos [.one .parameterName name, .one .type type]
  | none => pure type

/-- The result type of a signature after the given token. -/
def parseReturnType (mark : Kind) (inType : Bool) : P (Option Node) := do
  let present ←
    if mark == .equalsGreaterThanToken then do
      expect mark
      pure true
    else if ← parseOptional .colonToken then pure true
    else if inType && (← at? .equalsGreaterThanToken) then do
      errorHere (expectedMessage .colonToken)
      nextToken
      pure true
    else pure false
  if present then return some (← allowConditional (parseTypeOrPredicate parse)) else return none

/-- Ends a member of a type. -/
def typeMemberSemicolon : P Unit := do
  if !(← parseOptional .commaToken) then parseSemicolon

/-- A call or construct signature. -/
def parseSignatureMember (kind : Kind) : P Node := do
  let pos ← nodePos
  if kind == .constructSignature then expect .newKeyword
  let typeParameters ← parseTypeParameters parse
  let parameters ← parseParameters parse false false
  let type ← parseReturnType parse .colonToken true
  typeMemberSemicolon
  finishKind kind pos
    [.optMany .typeParameters typeParameters, .many .parameters parameters, .opt .type type]

/-- Whether a bracket in hand begins an index signature; moves on. -/
def isIndexSignatureStart : P Bool := do
  nextToken
  if ← atAny [.dotDotDotToken, .closeBracketToken] then return true
  if isModifierKind (← token) then
    nextToken
    if ← isIdentifier then return true
  else if !(← isIdentifier) then return false
  else nextToken
  if ← atAny [.colonToken, .commaToken] then return true
  if !(← at? .questionToken) then return false
  nextToken
  atAny [.colonToken, .commaToken, .closeBracketToken]

/-- Whether an index signature starts here. -/
def isIndexSignature : P Bool :=
  andM (at? .openBracketToken) (lookAhead isIndexSignatureStart)

/-- An index signature after its modifiers. -/
def parseIndexSignature (pos : Nat) (modifiers : Option NodeList) : P Node := do
  let parameters ← parseBracketedList .parameters (parseParameter parse false)
    .openBracketToken .closeBracketToken
  let type ← parseTypeAnnotation parse
  typeMemberSemicolon
  finishKind .indexSignature pos
    [.optMany .modifiers modifiers, .many .parameters parameters, .opt .type type]

/-- A property or method of a type after its modifiers. -/
def parsePropertyOrMethodSignature (pos : Nat) (modifiers : Option NodeList) : P Node := do
  let name ← parsePropertyName parse
  let question ← parseOptionalToken .questionToken
  if ← atAny [.openParenToken, .lessThanToken] then
    let typeParameters ← parseTypeParameters parse
    let parameters ← parseParameters parse false false
    let type ← parseReturnType parse .colonToken true
    typeMemberSemicolon
    finishKind .methodSignature pos
      [.optMany .modifiers modifiers, .one .name name, .opt .questionToken question,
        .optMany .typeParameters typeParameters, .many .parameters parameters, .opt .type type]
  else
    let type ← parseTypeAnnotation parse
    let initializer ← if ← at? .equalsToken then parseInitializer parse else pure none
    typeMemberSemicolon
    finishKind .propertySignature pos
      [.optMany .modifiers modifiers, .one .name name, .opt .questionToken question,
        .opt .type type, .opt .initializer initializer]

/-- The body of a function, or the end of a declaration without one. -/
def parseFunctionBlockOrSemicolon (yields awaits inType : Bool) (message : Option String) :
    P (Option Node) := do
  if !(← at? .openBraceToken) then
    if inType then
      typeMemberSemicolon
      return none
    if ← canParseSemicolon then
      parseSemicolon
      return none
  return some (← parse (.functionBlock yields awaits false message))

/-- An accessor after `get` or `set`. -/
def parseAccessor (pos : Nat) (modifiers : Option NodeList) (kind : Kind) (inType : Bool) : P Node := do
  let name ← parsePropertyName parse
  let typeParameters ← parseTypeParameters parse
  let parameters ← parseParameters parse false false
  let type ← parseReturnType parse .colonToken false
  let body ← parseFunctionBlockOrSemicolon parse false false inType none
  finishKind kind pos
    [.optMany .modifiers modifiers, .one .name name, .optMany .typeParameters typeParameters,
      .many .parameters parameters, .opt .type type, .opt .body body]

/-- A member of a type. -/
def parseTypeMember : P Node := do
  if ← atAny [.openParenToken, .lessThanToken] then
    return ← parseSignatureMember parse .callSignature
  if (← at? .newKeyword) && (← nextIs (atAny [.openParenToken, .lessThanToken])) then
    return ← parseSignatureMember parse .constructSignature
  let pos ← nodePos
  let modifiers ← parseModifiers parse {}
  if ← parseContextualModifier .getKeyword then
    return ← parseAccessor parse pos modifiers .getAccessor true
  if ← parseContextualModifier .setKeyword then
    return ← parseAccessor parse pos modifiers .setAccessor true
  if ← isIndexSignature then return ← parseIndexSignature parse pos modifiers
  parsePropertyOrMethodSignature parse pos modifiers

/-- The members of an object type in braces. -/
def parseObjectTypeMembers : P NodeList := do
  if ← parseExpected .openBraceToken then
    let members ← parseList .typeMembers (parseTypeMember parse)
    expect .closeBraceToken
    pure members
  else missingList

/-- Whether a brace in hand begins a mapped type; moves on. -/
def isMappedTypeStart : P Bool := do
  nextToken
  if ← atAny [.plusToken, .minusToken] then return ← afterNext (at? .readonlyKeyword)
  if ← at? .readonlyKeyword then nextToken
  if !(← at? .openBracketToken) then return false
  nextToken
  if !(← isIdentifier) then return false
  afterNext (at? .inKeyword)

/-- A token that may have a sign before it. -/
def parseSignedToken (kind : Kind) : P (Option Node) := do
  if ← atAny [kind, .plusToken, .minusToken] then
    let node ← parseTokenNode
    if node.kind != kind then expect kind
    return some node
  return none

/-- A mapped type. -/
def parseMappedType : P Node := do
  let pos ← nodePos
  expect .openBraceToken
  let readonly ← parseSignedToken .readonlyKeyword
  expect .openBracketToken
  let parameterPos ← nodePos
  let name ← parseIdentifierName
  expect .inKeyword
  let constraint ← parse .type
  let parameter ← finishKind .typeParameter parameterPos [.one .name name, .one .constraint constraint]
  let nameType ← if ← parseOptional .asKeyword then some <$> parse .type else pure none
  expect .closeBracketToken
  let question ← parseSignedToken .questionToken
  let type ← parseTypeAnnotation parse
  parseSemicolon
  let members ← parseList .typeMembers (parseTypeMember parse)
  expect .closeBraceToken
  finishKind .mappedType pos
    [.opt .readonlyToken readonly, .one .typeParameter parameter, .opt .nameType nameType,
      .opt .questionToken question, .opt .type type, .many .members members]

/-- A member of a tuple without its name. -/
def parseTupleElementType : P Node := do
  let pos ← nodePos
  if ← parseOptional .dotDotDotToken then
    let type ← parse .type
    return ← finishKind .restType pos [.one .type type]
  let type ← parse .type
  match type.kind, type.child? .type with
  | .docNullableType, some inner =>
    if (type.info.span.map (·.start)) == (inner.info.span.map (·.start)) then
      return Node.make { kind := .optionalType, span := type.info.span } [.one .type inner]
    else return type
  | _, _ => return type

/-- Whether a colon, or a question mark and a colon, come next. -/
def nextIsColon : P Bool := do
  nextToken
  if ← at? .colonToken then return true
  if ← at? .questionToken then afterNext (at? .colonToken) else pure false

/-- A member of a tuple. -/
def parseTupleElement : P Node := do
  let named : P Bool := do
    if ← at? .dotDotDotToken then nextToken
    andM isNameToken nextIsColon
  if ← lookAhead named then
    let pos ← nodePos
    let dots ← parseOptionalToken .dotDotDotToken
    let name ← parseIdentifierName
    let question ← parseOptionalToken .questionToken
    expect .colonToken
    let type ← parseTupleElementType parse
    finishKind .namedTupleMember pos
      [.opt .dotDotDotToken dots, .one .name name, .opt .questionToken question, .one .type type]
  else parseTupleElementType parse

/-- The type that `this` denotes. -/
def parseThisType : P Node := do
  let pos ← nodePos
  nextToken
  finishKind .thisType pos []

/-- A literal as a type; `negative` says that a minus stands before it. -/
def parseLiteralType (negative : Bool) : P Node := do
  let pos ← nodePos
  if negative then nextToken
  let literal ←
    if ← atAny [.trueKeyword, .falseKeyword, .nullKeyword] then parseTokenNode else parseLiteralNode
  let literal ←
    if negative then
      finish { kind := .prefixUnaryExpression, word := .minusToken } pos [.one .operand literal]
    else pure literal
  finishKind .literalType pos [.one .literal literal]

/-- An attribute of an import. -/
def parseImportAttribute : P Node := do
  let pos ← nodePos
  let name ← if ← isNameToken then parseIdentifierName else parseLiteralNode
  expect .colonToken
  let value ← parse (.assignment true)
  finishKind .importAttribute pos [.one .name name, .one .value value]

/-- The attributes of an import after the given word. -/
def parseImportAttributes (word : Kind) (skipWord : Bool) : P Node := do
  let pos ← nodePos
  if !skipWord then expect word
  if ← parseExpected .openBraceToken then
    let multiLine ← hasNewline
    let elements ← parseDelimitedWith .importAttributes (some <$> parseImportAttribute parse) true
    expect .closeBraceToken
    finish { kind := .importAttributes, word, marks := { multiLine } } pos
      [.optMany .elements elements]
  else
    let elements ← missingList
    finish { kind := .importAttributes, word } pos [.many .elements elements]

/-- A type that another module exports. -/
def parseImportType : P Node := do
  let pos ← nodePos
  let typeOf ← parseOptional .typeOfKeyword
  expect .importKeyword
  expect .openParenToken
  let argument ← parse .type
  let attributes ←
    if ← parseOptional .commaToken then do
      expect .openBraceToken
      let word ← token
      if word == .withKeyword || word == .assertKeyword then nextToken
      else errorHere (expectedMessage .withKeyword)
      expect .colonToken
      let attributes ← parseImportAttributes parse word true
      let _ ← parseOptional .commaToken
      expect .closeBraceToken
      pure (some attributes)
    else pure none
  expect .closeParenToken
  let qualifier ←
    if ← parseOptional .dotToken then some <$> parseEntityName true (some "Type expected.") else pure none
  let arguments ← parseReferenceArguments parse
  finish { kind := .importType, marks := { typeOf } } pos
    [.one .argument argument, .opt .attributes attributes, .opt .qualifier qualifier,
      .optMany .typeArguments arguments]

/-- A template as a type. -/
def parseTemplateType : P Node := do
  let pos ← nodePos
  let head ← parseTemplateHead false
  let spansPos ← nodePos
  let step (nodes : List Node) : P (List Node ⊕ List Node) := do
    let spanPos ← nodePos
    let type ← parse .type
    let literal ← parseTemplatePart false
    let node ← finishKind .templateLiteralTypeSpan spanPos [.one .type type, .one .literal literal]
    if literal.kind == .templateMiddle then return .inl (node :: nodes) else return .inr (node :: nodes)
  let spans ← repeatUntil step id (← loopBound) []
  let list ← finishList spansPos spans.reverse false
  finishKind .templateLiteralType pos [.one .head head, .many .spans list]

/-- The type of a value. -/
def parseTypeQuery : P Node := do
  let pos ← nodePos
  expect .typeOfKeyword
  let name ← parseEntityName true none
  let arguments ←
    if !(← hasNewline) && (← at? .lessThanToken) then some <$> parseTypeArgumentList parse else pure none
  finishKind .typeQuery pos [.one .exprName name, .optMany .typeArguments arguments]

/-- Whether a character ends the path of a name. -/
def endsNamePath (c : Char) : Bool :=
  c == '\t' || c == '\x0b' || c == '\x0c' || c == ' ' || c == ',' || c == '\x7d'

/-- Skips the rest of the path of a name: everything up to a blank, a comma or a closing brace. -/
def skipNamePath : P Unit := do
  if ← atAny [.closeBraceToken, .commaToken, .endOfFileToken] then return
  let state ← get
  let pos := state.source.skipWhile (!endsNamePath ·) state.token.stop
  let next := state.source.get pos
  if pos < state.source.size && next != ',' && next != '\x7d' then
    let stop := state.source.skipWhile isLineBlank pos
    set { state with token := { kind := .unknown, fullStart := pos, start := pos, stop } }
  else take (state.source.scan state.dialect.jsx state.token.kind pos)

/-- A type in the notation of documentation: the path of a name in a module, or a type that dots may
stand before and an equals sign after. -/
def parseDocType : P Node := do
  let pos ← nodePos
  if ← parseOptional .moduleKeyword then
    skipNamePath
    return ← finishKind .docNamePathType pos []
  let dots ← parseOptional .dotDotDotToken
  let type ← parseTypeOrPredicate parse
  let type ← if dots then finishKind .docVariadicType pos [.one .type type] else pure type
  if ← parseOptional .equalsToken then finishKind .docOptionalType pos [.one .type type] else pure type

/-- A parameter in the notation of documentation: a type, named only for `this` and `new`. -/
def parseDocParameter : P Node := do
  let pos ← nodePos
  let name ←
    if ← atAny [.thisKeyword, .newKeyword] then do
      let name ← parseIdentifierName
      expect .colonToken
      pure (some name)
    else pure none
  let type ← parseDocType parse
  finishKind .parameter pos [.opt .name name, .one .type type]

/-- A function type in the notation of documentation, or a type named `function`. -/
def parseDocFunctionType : P Node := do
  let pos ← nodePos
  if ← nextIs (at? .openParenToken) then
    nextToken
    nextToken
    let parameters ← withAllowance (fun a => { a with yields := false, awaits := false })
      (parseDelimitedList .docParameters (parseDocParameter parse))
    expect .closeParenToken
    let type ← parseReturnType parse .colonToken false
    finishKind .docFunctionType pos [.many .parameters parameters, .opt .type type]
  else
    let name ← parseIdentifierName
    finishKind .typeReference pos [.one .typeName name]

/-- A type in the notation of documentation after a question mark, or the unknown one. -/
def parseDocQuestion : P Node := do
  let pos ← nodePos
  nextToken
  if ← atAny [.commaToken, .closeBraceToken, .closeParenToken, .greaterThanToken, .equalsToken,
      .barToken] then
    finishKind .docUnknownType pos []
  else
    let type ← parse .type
    finishKind .docNullableType pos [.one .type type]

/-- The type of any value in the notation of documentation. -/
def parseDocAny : P Node := do
  let pos ← nodePos
  nextToken
  finishKind .docAllType pos []

/-- A type without brackets after it. -/
def parseNonArrayType : P Node := do
  match ← token with
  | .anyKeyword | .unknownKeyword | .stringKeyword | .numberKeyword | .bigIntKeyword
  | .symbolKeyword | .booleanKeyword | .undefinedKeyword | .neverKeyword | .objectKeyword => do
    let plain : P (Option Node) := do
      let node ← parseTokenNode
      if ← at? .dotToken then return none else return some node
    match ← tryParse plain with
    | some node => pure node
    | none => parseTypeReference parse
  | .asteriskToken => parseDocAny
  | .asteriskEqualsToken => do
    rescanFirstSign .asteriskToken
    parseDocAny
  | .questionToken => parseDocQuestion parse
  | .questionQuestionToken => do
    rescanFirstSign .questionToken
    parseDocQuestion parse
  | .functionKeyword => parseDocFunctionType parse
  | .exclamationToken => do
    let pos ← nodePos
    nextToken
    let type ← parse .plainType
    finishKind .docNonNullableType pos [.one .type type]
  | .noSubstitutionTemplateLiteral | .stringLiteral | .numericLiteral | .bigIntLiteral
  | .trueKeyword | .falseKeyword | .nullKeyword => parseLiteralType false
  | .minusToken => do
    if ← nextIs (atAny [.numericLiteral, .bigIntLiteral]) then parseLiteralType true
    else parseTypeReference parse
  | .voidKeyword => parseTokenNode
  | .thisKeyword => do
    let pos ← nodePos
    let this ← parseThisType
    if (← at? .isKeyword) && !(← hasNewline) then
      nextToken
      let type ← parse .type
      finishKind .typePredicate pos [.one .parameterName this, .one .type type]
    else pure this
  | .typeOfKeyword => do
    if ← nextIs (at? .importKeyword) then parseImportType parse else parseTypeQuery parse
  | .openBraceToken => do
    if ← lookAhead isMappedTypeStart then parseMappedType parse
    else
      let pos ← nodePos
      let members ← parseObjectTypeMembers parse
      finishKind .typeLiteral pos [.many .members members]
  | .openBracketToken => do
    let pos ← nodePos
    let elements ← parseBracketedList .tupleElementTypes (parseTupleElement parse)
      .openBracketToken .closeBracketToken
    finishKind .tupleType pos [.many .elements elements]
  | .openParenToken => do
    let pos ← nodePos
    expect .openParenToken
    let type ← parse .type
    expect .closeParenToken
    finishKind .parenthesizedType pos [.one .type type]
  | .importKeyword => parseImportType parse
  | .assertsKeyword => do
    if ← nextIs (sameLine (orM isIdentifier (at? .thisKeyword))) then
      let pos ← nodePos
      let asserts ← parseTokenNode
      let name ← if ← at? .thisKeyword then parseThisType else parseIdentifier
      let type ← if ← parseOptional .isKeyword then some <$> parse .type else pure none
      finishKind .typePredicate pos
        [.one .asserts asserts, .one .parameterName name, .opt .type type]
    else parseTypeReference parse
  | .templateHead => parseTemplateType parse
  | _ => parseTypeReference parse

/-- A type with the brackets and marks after it. -/
def parsePostfixType : P Node := do
  let pos ← nodePos
  let first ← parseNonArrayType parse
  let step (type : Node) : P (Node ⊕ Node) := do
    if ← hasNewline then return .inr type
    match ← token with
    | .exclamationToken => do
      nextToken
      return .inl (← finishKind .docNonNullableType pos [.one .type type])
    | .questionToken => do
      if ← nextIs isStartOfType then return .inr type
      nextToken
      return .inl (← finish { kind := .docNullableType, word := .questionToken } pos [.one .type type])
    | .openBracketToken => do
      expect .openBracketToken
      if ← isStartOfType then
        let index ← parse .type
        expect .closeBracketToken
        return .inl (← finishKind .indexedAccessType pos [.one .objectType type, .one .indexType index])
      else
        expect .closeBracketToken
        return .inl (← finishKind .arrayType pos [.one .elementType type])
    | _ => return .inr type
  repeatUntil step id (← loopBound) first

/-- A type with the operators before it. -/
def parseTypeOperator : P Node := do
  let word ← token
  match word with
  | .keyOfKeyword | .uniqueKeyword | .readonlyKeyword => do
    let pos ← nodePos
    nextToken
    let type ← parse .typeOperator
    finish { kind := .typeOperator, word } pos [.one .type type]
  | .inferKeyword => do
    let pos ← nodePos
    nextToken
    let parameterPos ← nodePos
    let name ← parseIdentifier
    let bound : P (Option Node) := do
      if ← parseOptional .extendsKeyword then
        let type ← disallowConditional (parse .type)
        if (← get).allowance.noConditional || !(← at? .questionToken) then return some type
      return none
    let constraint ← tryParse bound
    let parameter ← finishKind .typeParameter parameterPos [.one .name name, .opt .constraint constraint]
    finishKind .inferType pos [.one .typeParameter parameter]
  | _ => allowConditional (parsePostfixType parse)

/-- Whether the tokens from here on can only be parameters; moves on. -/
def isFunctionTypeStart : P Bool := do
  nextToken
  if ← atAny [.closeParenToken, .dotDotDotToken] then return true
  if isModifierKind (← token) then
    let _ ← parseModifiers parse {}
  let skipped ←
    if ← orM isIdentifier (at? .thisKeyword) then do
      nextToken
      pure true
    else if ← atAny [.openBracketToken, .openBraceToken] then do
      let before := (← get).diagnostics.length
      let _ ← parse (.bindingName none)
      pure (before == (← get).diagnostics.length)
    else pure false
  if !skipped then return false
  if ← atAny [.colonToken, .commaToken, .questionToken, .equalsToken] then return true
  if ← at? .closeParenToken then afterNext (at? .equalsGreaterThanToken) else pure false

/-- Whether a function or constructor type starts here. -/
def isStartOfFunctionType : P Bool := do
  match ← token with
  | .lessThanToken | .newKeyword => pure true
  | .openParenToken => lookAhead (isFunctionTypeStart parse)
  | .abstractKeyword => nextIs (at? .newKeyword)
  | _ => pure false

/-- A function or constructor type. -/
def parseFunctionType : P Node := do
  let pos ← nodePos
  let modifiers ←
    if ← at? .abstractKeyword then do
      let node ← parseTokenNode
      some <$> finishList pos [node] false
    else pure none
  let constructs ← parseOptional .newKeyword
  let typeParameters ← parseTypeParameters parse
  let parameters ← parseParameters parse false false
  let type ← parseReturnType parse .equalsGreaterThanToken false
  finishKind (if constructs then .constructorType else .functionType) pos
    [.optMany .modifiers modifiers, .optMany .typeParameters typeParameters,
      .many .parameters parameters, .opt .type type]

/-- A function type where none may stand without parentheses, with the complaint about it. -/
def parseStrayFunctionType (union : Bool) : P (Option Node) := do
  if !(← isStartOfFunctionType parse) then return none
  let type ← parseFunctionType parse
  let what := if type.kind == .functionType then "Function" else "Constructor"
  let place := if union then "a union type." else "an intersection type."
  let span := type.info.span.getD default
  errorAt span.start span.stop
    (what ++ " type notation must be parenthesized when used in " ++ place)
  return some type

/-- Types joined by an operator. -/
def parseJoinedTypes (operator kind : Kind) (operand : P Node) : P Node := do
  let pos ← nodePos
  let union := operator == .barToken
  let leading ← parseOptional operator
  let constituent : P Node := do
    match ← parseStrayFunctionType parse union with
    | some type => pure type
    | none => operand
  let first ← if leading then constituent else operand
  if leading || (← at? operator) then
    let step (nodes : List Node) : P (List Node ⊕ List Node) := do
      if ← parseOptional operator then
        let node ← constituent
        return .inl (node :: nodes)
      else return .inr nodes
    let types ← repeatUntil step id (← loopBound) [first]
    let list ← finishList pos types.reverse false
    finishKind kind pos [.many .types list]
  else pure first

/-- A union of intersections. -/
def parseUnionType : P Node :=
  parseJoinedTypes parse .barToken .unionType
    (parseJoinedTypes parse .ampersandToken .intersectionType (parse .typeOperator))

/-- A type. -/
def parseType : P Node :=
  withAllowance (fun a => { a with yields := false, awaits := false }) do
    if ← isStartOfFunctionType parse then return ← parseFunctionType parse
    let pos ← nodePos
    let type ← parseUnionType parse
    if !(← get).allowance.noConditional && !(← hasNewline) && (← at? .extendsKeyword) then
      nextToken
      let extendsType ← disallowConditional (parse .type)
      expect .questionToken
      let trueType ← allowConditional (parse .type)
      expect .colonToken
      let falseType ← allowConditional (parse .type)
      finishKind .conditionalType pos
        [.one .checkType type, .one .extendsType extendsType, .one .trueType trueType,
          .one .falseType falseType]
    else pure type

end

end Codemod.Grammar
