import Codemod.Grammar.State

/-!
# What may start here

Tests on the token in hand and the few after it: whether an expression, a type,
a statement, a declaration or a member may start here. None of them moves on.
-/
namespace Codemod.Grammar

open Syntax

/-- Whether the token in hand is a plain identifier where it stands. -/
def isIdentifier : P Bool := do
  match ← token with
  | .identifier => pure true
  | .yieldKeyword => notM inYield
  | .awaitKeyword => notM inAwait
  | kind => pure kind.isPlainWord

/-- Whether the token in hand may be the name of a binding. -/
def isBindingIdentifier : P Bool := do
  let kind ← token
  return kind == .identifier || kind.isPlainWord

/-- Whether the token in hand is an identifier or any word. -/
def isNameToken : P Bool := do
  return (← token).isName

/-- Whether the token in hand may name a property without brackets. -/
def isLiteralPropertyName : P Bool := do
  let kind ← token
  return kind.isName || kind == .stringLiteral || kind == .numericLiteral || kind == .bigIntLiteral

/-- Whether a word modifies a declaration. -/
def isModifierKind : Kind → Bool
  | .abstractKeyword | .accessorKeyword | .asyncKeyword | .constKeyword | .declareKeyword
  | .defaultKeyword | .exportKeyword | .inKeyword | .privateKeyword | .protectedKeyword
  | .publicKeyword | .overrideKeyword | .outKeyword | .readonlyKeyword | .staticKeyword => true
  | _ => false

/-- Whether a word turns a parameter into a property. -/
def isParameterPropertyModifier : Kind → Bool
  | .publicKeyword | .privateKeyword | .protectedKeyword | .readonlyKeyword | .overrideKeyword => true
  | _ => false

/-- Whether a word can only modify a class member. -/
def isClassMemberModifier (kind : Kind) : Bool :=
  isParameterPropertyModifier kind || kind == .staticKeyword || kind == .overrideKeyword
    || kind == .accessorKeyword

/-- How tightly a binary operator binds, zero for other tokens. -/
def binaryPrecedence : Kind → Nat
  | .questionQuestionToken | .barBarToken => 5
  | .ampersandAmpersandToken => 6
  | .barToken => 7
  | .caretToken => 8
  | .ampersandToken => 9
  | .equalsEqualsToken | .exclamationEqualsToken | .equalsEqualsEqualsToken
  | .exclamationEqualsEqualsToken => 10
  | .lessThanToken | .greaterThanToken | .lessThanEqualsToken | .greaterThanEqualsToken
  | .instanceOfKeyword | .inKeyword | .asKeyword | .satisfiesKeyword => 11
  | .lessThanLessThanToken | .greaterThanGreaterThanToken
  | .greaterThanGreaterThanGreaterThanToken => 12
  | .plusToken | .minusToken => 13
  | .asteriskToken | .slashToken | .percentToken => 14
  | .asteriskAsteriskToken => 15
  | _ => 0

/-- Whether the token in hand joins two operands here. -/
def isBinaryOperator : P Bool := do
  let state ← get
  let kind := state.token.kind
  return !(state.allowance.noIn && kind == .inKeyword) && binaryPrecedence kind > 0

/-- Moves on, then tests. -/
def afterNext (test : P Bool) : P Bool := do
  nextToken
  test

/-- Whether the test holds at the next token. -/
def nextIs (test : P Bool) : P Bool :=
  lookAhead (afterNext test)

/-- Whether no line break precedes the token in hand and the test holds there. -/
def sameLine (test : P Bool) : P Bool := do
  if ← hasNewline then pure false else test

/-- Whether the next token makes `import` a call, a type argument list or a member. -/
def nextIsImportExpression : P Bool :=
  nextIs (atAny [.openParenToken, .lessThanToken, .dotToken])

/-- Whether an operand of a call or member access may start here. -/
def isStartOfLeftHandSide : P Bool := do
  match ← token with
  | .thisKeyword | .superKeyword | .nullKeyword | .trueKeyword | .falseKeyword | .numericLiteral
  | .bigIntLiteral | .stringLiteral | .noSubstitutionTemplateLiteral | .templateHead
  | .openParenToken | .openBracketToken | .openBraceToken | .functionKeyword | .classKeyword
  | .newKeyword | .slashToken | .slashEqualsToken | .identifier => pure true
  | .importKeyword => nextIsImportExpression
  | _ => isIdentifier

/-- Whether an expression may start here. -/
def isStartOfExpression : P Bool := do
  if ← isStartOfLeftHandSide then return true
  match ← token with
  | .plusToken | .minusToken | .tildeToken | .exclamationToken | .deleteKeyword | .typeOfKeyword
  | .voidKeyword | .plusPlusToken | .minusMinusToken | .lessThanToken | .awaitKeyword
  | .yieldKeyword | .privateIdentifier | .atToken => pure true
  | _ => orM isBinaryOperator isIdentifier

/-- Whether an expression that is a statement may start here. -/
def isStartOfExpressionStatement : P Bool := do
  if ← atAny [.openBraceToken, .functionKeyword, .classKeyword, .atToken] then pure false
  else isStartOfExpression

/-- Whether a binding name or pattern may start here. -/
def isBindingStart : P Bool := do
  if ← atAny [.openBraceToken, .openBracketToken, .privateIdentifier] then pure true
  else isBindingIdentifier

/-- Whether a type may start here; `fuel` bounds the parentheses looked into. -/
def isStartOfTypeWith (inParameter : Bool) : Nat → P Bool
  | 0 => pure false
  | fuel + 1 => do
    match ← token with
    | .anyKeyword | .unknownKeyword | .stringKeyword | .numberKeyword | .bigIntKeyword
    | .booleanKeyword | .readonlyKeyword | .symbolKeyword | .uniqueKeyword | .voidKeyword
    | .undefinedKeyword | .nullKeyword | .thisKeyword | .typeOfKeyword | .neverKeyword
    | .openBraceToken | .openBracketToken | .lessThanToken | .barToken | .ampersandToken
    | .newKeyword | .stringLiteral | .numericLiteral | .bigIntLiteral | .trueKeyword
    | .falseKeyword | .objectKeyword | .asteriskToken | .questionToken | .exclamationToken
    | .dotDotDotToken | .inferKeyword | .importKeyword | .assertsKeyword
    | .noSubstitutionTemplateLiteral | .templateHead => pure true
    | .functionKeyword => pure !inParameter
    | .minusToken =>
      if inParameter then pure false else nextIs (atAny [.numericLiteral, .bigIntLiteral])
    | .openParenToken =>
      if inParameter then pure false
      else
        nextIs (orM (atAny [.closeParenToken, .dotDotDotToken, .atToken])
          (orM isBindingStart
            (orM (do return isModifierKind (← token))
              (orM (isStartOfTypeWith true fuel) (isStartOfTypeWith false fuel)))))
    | _ => isIdentifier

/-- Whether a type may start here. -/
def isStartOfType : P Bool := do
  isStartOfTypeWith false (← get).source.size.succ

/-- Whether a parameter may start here. -/
def isStartOfParameter : P Bool :=
  orM (atAny [.dotDotDotToken, .atToken])
    (orM isBindingStart
      (orM (do return isModifierKind (← token))
        (do isStartOfTypeWith true (← get).source.size.succ)))

/-- Whether a parameter in the notation of documentation may start here. -/
def isStartOfDocParameter : P Bool :=
  orM (atAny [.dotDotDotToken, .atToken])
    (orM isBindingStart (orM (do return isModifierKind (← token)) isStartOfType))

/-- Whether what follows `using` is a binding on the same line. -/
def bindingFollows (disallowOf : Bool) : P Bool := do
  nextToken
  if disallowOf && (← at? .ofKeyword) then return false
  sameLine (orM isBindingIdentifier (at? .openBraceToken))

/-- Whether `using` begins a declaration here. -/
def isUsingDeclaration : P Bool :=
  lookAhead (bindingFollows false)

/-- Whether `await using` begins a declaration here. -/
def isAwaitUsingDeclaration : P Bool :=
  lookAhead (afterNext (andM (at? .usingKeyword) (bindingFollows false)))

/-- Whether a declaration starts here; moves on over its modifiers. -/
def isDeclarationWith : Nat → P Bool
  | 0 => pure false
  | fuel + 1 => do
    match ← token with
    | .varKeyword | .letKeyword | .constKeyword | .functionKeyword | .classKeyword
    | .enumKeyword => pure true
    | .usingKeyword => isUsingDeclaration
    | .awaitKeyword => isAwaitUsingDeclaration
    | .interfaceKeyword | .typeKeyword => afterNext (sameLine isIdentifier)
    | .moduleKeyword | .namespaceKeyword =>
      afterNext (sameLine (orM isIdentifier (at? .stringLiteral)))
    | .abstractKeyword | .accessorKeyword | .asyncKeyword | .declareKeyword | .privateKeyword
    | .protectedKeyword | .publicKeyword | .readonlyKeyword => do
      let previous ← token
      nextToken
      if ← hasNewline then return false
      if previous == .declareKeyword && (← at? .typeKeyword) then return true
      isDeclarationWith fuel
    | .globalKeyword => afterNext (atAny [.openBraceToken, .identifier, .exportKeyword])
    | .importKeyword =>
      afterNext (orM (atAny [.stringLiteral, .asteriskToken, .openBraceToken]) isNameToken)
    | .exportKeyword => do
      nextToken
      let kind ← token
      let kind ← if kind == .typeKeyword then lookAhead (do nextToken; token) else pure kind
      if [.equalsToken, .asteriskToken, .openBraceToken, .defaultKeyword, .asKeyword,
          .atToken].contains kind then
        return true
      isDeclarationWith fuel
    | .staticKeyword => do
      nextToken
      isDeclarationWith fuel
    | _ => pure false

/-- Whether a declaration starts here. -/
def isStartOfDeclaration : P Bool := do
  lookAhead (isDeclarationWith (← get).source.size.succ)

/-- Whether a statement may start here. -/
def isStartOfStatement : P Bool := do
  match ← token with
  | .atToken | .semicolonToken | .openBraceToken | .varKeyword | .letKeyword | .usingKeyword
  | .functionKeyword | .classKeyword | .enumKeyword | .ifKeyword | .doKeyword | .whileKeyword
  | .forKeyword | .continueKeyword | .breakKeyword | .returnKeyword | .withKeyword
  | .switchKeyword | .throwKeyword | .tryKeyword | .debuggerKeyword | .catchKeyword
  | .finallyKeyword => pure true
  | .importKeyword => orM isStartOfDeclaration nextIsImportExpression
  | .constKeyword | .exportKeyword => isStartOfDeclaration
  | .asyncKeyword | .declareKeyword | .interfaceKeyword | .moduleKeyword | .namespaceKeyword
  | .typeKeyword | .globalKeyword | .deferKeyword => pure true
  | .accessorKeyword | .publicKeyword | .privateKeyword | .protectedKeyword | .staticKeyword
  | .readonlyKeyword =>
    orM isStartOfDeclaration (notM (lookAhead (afterNext (andM isNameToken (notM hasNewline)))))
  | _ => isStartOfExpression

/-- Skips modifiers; whether there was one. -/
def skipModifiers : Nat → Bool → P Bool
  | 0, found => pure found
  | fuel + 1, found => do
    if isModifierKind (← token) then
      nextToken
      skipModifiers fuel true
    else pure found

/-- Whether a member of a type may start here; moves on. -/
def isTypeMemberStart : P Bool := do
  if ← atAny [.openParenToken, .lessThanToken, .getKeyword, .setKeyword] then return true
  let modified ← skipModifiers (← get).source.size.succ false
  if ← at? .openBracketToken then return true
  let named ← isLiteralPropertyName
  if named then nextToken
  if modified || named then
    orM (atAny [.openParenToken, .lessThanToken, .questionToken, .colonToken, .commaToken])
      canParseSemicolon
  else pure false

/-- Skips modifiers of a class member: whether one settles that a member starts, and the last. -/
def skipMemberModifiers : Nat → Option Kind → P (Bool × Option Kind)
  | 0, last => pure (false, last)
  | fuel + 1, last => do
    let kind ← token
    if isModifierKind kind then
      if isClassMemberModifier kind then return (true, some kind)
      nextToken
      skipMemberModifiers fuel (some kind)
    else pure (false, last)

/-- Whether a member of a class may start here; moves on. -/
def isClassMemberStart : P Bool := do
  if ← at? .atToken then return true
  let (settled, last) ← skipMemberModifiers (← get).source.size.succ none
  if settled then return true
  if ← at? .asteriskToken then return true
  let last ← if ← isLiteralPropertyName then do
      let kind ← token
      nextToken
      pure (some kind)
    else pure last
  if ← at? .openBracketToken then return true
  match last with
  | none => pure false
  | some kind =>
    if !kind.isWord || kind == .setKeyword || kind == .getKeyword then pure true
    else
      orM (atAny [.openParenToken, .lessThanToken, .exclamationToken, .colonToken, .equalsToken,
        .questionToken]) canParseSemicolon

/-- Whether `extends` or `implements` in hand begins another clause. -/
def isHeritageWordBeforeExpression : P Bool := do
  if ← atAny [.implementsKeyword, .extendsKeyword] then nextIs isStartOfExpression else pure false

/-- Whether a brace in hand is an object to extend rather than the body of a class. -/
def isHeritageObject : P Bool := do
  nextToken
  if ← at? .closeBraceToken then
    afterNext (atAny [.commaToken, .openBraceToken, .extendsKeyword, .implementsKeyword])
  else pure true

/-- Whether a member of a list may start here. -/
def isListElement (kind : ListKind) (recovering : Bool) : P Bool := do
  match kind with
  | .sourceElements | .blockStatements | .switchClauseStatements =>
    if recovering && (← at? .semicolonToken) then pure false else isStartOfStatement
  | .switchClauses => atAny [.caseKeyword, .defaultKeyword]
  | .typeMembers => lookAhead isTypeMemberStart
  | .classMembers =>
    orM (lookAhead isClassMemberStart) (do return !recovering && (← at? .semicolonToken))
  | .enumMembers => orM (at? .openBracketToken) isLiteralPropertyName
  | .objectLiteralMembers =>
    orM (atAny [.openBracketToken, .asteriskToken, .dotDotDotToken, .dotToken]) isLiteralPropertyName
  | .objectBindingElements =>
    orM (atAny [.openBracketToken, .dotDotDotToken]) isLiteralPropertyName
  | .importAttributes => orM isNameToken (at? .stringLiteral)
  | .heritageClauseElement =>
    if ← at? .openBraceToken then lookAhead isHeritageObject
    else if recovering then andM isIdentifier (notM isHeritageWordBeforeExpression)
    else andM isStartOfLeftHandSide (notM isHeritageWordBeforeExpression)
  | .variableDeclarations => isBindingStart
  | .arrayBindingElements => orM (atAny [.commaToken, .dotDotDotToken]) isBindingStart
  | .typeParameters => orM (atAny [.inKeyword, .constKeyword]) isIdentifier
  | .arrayLiteralMembers =>
    orM (atAny [.commaToken, .dotToken, .dotDotDotToken]) isStartOfExpression
  | .argumentExpressions => orM (at? .dotDotDotToken) isStartOfExpression
  | .parameters => isStartOfParameter
  | .docParameters => isStartOfDocParameter
  | .typeArguments | .tupleElementTypes => orM (at? .commaToken) isStartOfType
  | .heritageClauses => atAny [.extendsKeyword, .implementsKeyword]
  | .importOrExportSpecifiers =>
    if ← andM (at? .fromKeyword) (nextIs (at? .stringLiteral)) then pure false
    else orM (at? .stringLiteral) isNameToken
  | .jsxAttributes => orM isNameToken (at? .openBraceToken)
  | .jsxChildren => pure true

/-- Whether a list of declarations ends here. -/
def isDeclarationListEnd : P Bool :=
  orM canParseSemicolon (atAny [.inKeyword, .ofKeyword, .equalsGreaterThanToken])

/-- Whether a list ends here. -/
def isListTerminator (kind : ListKind) : P Bool := do
  if ← at? .endOfFileToken then return true
  match kind with
  | .blockStatements | .switchClauses | .typeMembers | .classMembers | .enumMembers
  | .objectLiteralMembers | .objectBindingElements | .importOrExportSpecifiers
  | .importAttributes => at? .closeBraceToken
  | .switchClauseStatements => atAny [.closeBraceToken, .caseKeyword, .defaultKeyword]
  | .heritageClauseElement => atAny [.openBraceToken, .extendsKeyword, .implementsKeyword]
  | .variableDeclarations => isDeclarationListEnd
  | .typeParameters =>
    atAny [.greaterThanToken, .openParenToken, .openBraceToken, .extendsKeyword, .implementsKeyword]
  | .argumentExpressions => atAny [.closeParenToken, .semicolonToken]
  | .arrayLiteralMembers | .tupleElementTypes | .arrayBindingElements => at? .closeBracketToken
  | .parameters | .docParameters => atAny [.closeParenToken, .closeBracketToken]
  | .typeArguments => notM (at? .commaToken)
  | .heritageClauses => atAny [.openBraceToken, .closeBraceToken]
  | .jsxAttributes => atAny [.greaterThanToken, .slashToken]
  | .jsxChildren => andM (at? .lessThanToken) (nextIs (at? .slashToken))
  | .sourceElements => pure false

/-- Whether some list around this place could go on or end here. -/
def isInSomeList : P Bool := do
  (← get).lists.anyM fun kind => orM (isListElement kind true) (isListTerminator kind)

/-- Complains that the token in hand is no member of a list. -/
def listError (kind : ListKind) : P Unit := do
  let current ← token
  match kind with
  | .sourceElements =>
    if current == .defaultKeyword then errorHere (expectedMessage .exportKeyword)
    else errorHere "Declaration or statement expected."
  | .blockStatements => errorHere "Declaration or statement expected."
  | .switchClauses => errorHere "'case' or 'default' expected."
  | .switchClauseStatements => errorHere "Statement expected."
  | .typeMembers => errorHere "Property or signature expected."
  | .classMembers =>
    errorHere "Unexpected token. A constructor, method, accessor, or property was expected."
  | .enumMembers => errorHere "Enum member expected."
  | .heritageClauseElement => errorHere "Expression expected."
  | .variableDeclarations =>
    if current.isWord then
      errorHere ("'" ++ current.spelling ++ "' is not allowed as a variable declaration name.")
    else errorHere "Variable declaration expected."
  | .objectBindingElements => errorHere "Property destructuring pattern expected."
  | .arrayBindingElements => errorHere "Array element destructuring pattern expected."
  | .argumentExpressions => errorHere "Argument expression expected."
  | .objectLiteralMembers => errorHere "Property assignment expected."
  | .arrayLiteralMembers => errorHere "Expression or comma expected."
  | .parameters =>
    if current.isWord then
      errorHere ("'" ++ current.spelling ++ "' is not allowed as a parameter name.")
    else errorHere "Parameter declaration expected."
  | .docParameters => errorHere "Parameter declaration expected."
  | .typeParameters => errorHere "Type parameter declaration expected."
  | .typeArguments => errorHere "Type argument expected."
  | .tupleElementTypes => errorHere "Type expected."
  | .heritageClauses => errorHere "Unexpected token. '\x7b' expected."
  | .importOrExportSpecifiers =>
    if current == .fromKeyword then errorHere (expectedMessage .closeBraceToken)
    else errorHere "Identifier expected."
  | .jsxAttributes | .jsxChildren => errorHere "Identifier expected."
  | .importAttributes => errorHere "Identifier or string literal expected."

/-- After a token that no member starts with: complains and says whether to leave the list. -/
def leaveList (kind : ListKind) : P Bool := do
  listError kind
  if ← isInSomeList then pure true
  else
    nextToken
    pure false

/-- Runs a reader inside a list of a kind. -/
def inList {α : Type} (kind : ListKind) (p : P α) : P α := do
  let saved := (← get).lists
  modify fun state => { state with lists := kind :: state.lists }
  let result ← p
  modify fun state => { state with lists := saved }
  return result

/-- Members one after another up to the end of the list. -/
def parseList (kind : ListKind) (element : P Node) : P NodeList := do
  let pos ← nodePos
  let step (nodes : List Node) : P (List Node ⊕ List Node) := do
    if ← isListTerminator kind then return .inr nodes
    if ← isListElement kind false then
      let node ← element
      return .inl (node :: nodes)
    if ← leaveList kind then return .inr nodes
    return .inl nodes
  let nodes ← inList kind (do repeatUntil step id (← loopBound) [])
  finishList pos nodes.reverse false

/-- Members with commas between them; `semicolons` lets a semicolon stand for a comma after the
complaint about it. A member that cannot be read gives up the list. -/
def parseDelimitedWith (kind : ListKind) (element : P (Option Node)) (semicolons : Bool) :
    P (Option NodeList) := do
  let pos ← nodePos
  let step (state : List Node × Bool) :
      P ((List Node × Bool) ⊕ (Option (List Node × Bool))) := do
    let (nodes, comma) := state
    if ← isListElement kind false then
      let start ← nodePos
      match ← element with
      | none => return .inr none
      | some node =>
        let nodes := node :: nodes
        if ← parseOptional .commaToken then return .inl (nodes, true)
        if ← isListTerminator kind then return .inr (some (nodes, false))
        let message := match kind with
          | .enumMembers => "An enum member name must be followed by a ',', '=', or '\x7d'."
          | _ => expectedMessage .commaToken
        let _ ← parseExpectedWith .commaToken message
        if semicolons && (← at? .semicolonToken) && !(← hasNewline) then nextToken
        if start == (← nodePos) then nextToken
        return .inl (nodes, false)
    if ← isListTerminator kind then return .inr (some (nodes, comma))
    if ← leaveList kind then return .inr (some (nodes, comma))
    return .inl (nodes, comma)
  let result ← inList kind (do repeatUntil step some (← loopBound) ([], false))
  match result with
  | none => return none
  | some (nodes, comma) => return some (← finishList pos nodes.reverse comma)

/-- Members with commas between them. -/
def parseDelimitedList (kind : ListKind) (element : P Node) : P NodeList := do
  match ← parseDelimitedWith kind (some <$> element) false with
  | some list => pure list
  | none => missingList

/-- A delimited list between two brackets. -/
def parseBracketedList (kind : ListKind) (element : P Node) (openKind closeKind : Kind) : P NodeList := do
  if ← parseExpected openKind then
    let list ← parseDelimitedList kind element
    expect closeKind
    pure list
  else missingList

end Codemod.Grammar
