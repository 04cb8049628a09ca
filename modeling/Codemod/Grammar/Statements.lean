import Codemod.Grammar.Modules

/-!
# Statements

Control flow, variables, labels, and the choice between declarations and
expressions at the start of a statement.
-/
namespace Codemod.Grammar

open Syntax

/-- Whether `let` in hand begins a declaration. -/
def isLetDeclaration : P Bool :=
  nextIs (orM isBindingIdentifier (atAny [.openBraceToken, .openBracketToken]))

section

variable (parse : Goal → P Node)

/-- An expression in parentheses that belongs to a statement. -/
def parseHead : P Node := do
  expect .openParenToken
  let expression ← allowIn (parse .expression)
  expect .closeParenToken
  return expression

/-- A variable with its type and value. -/
def parseVariableDeclaration (allowExclamation : Bool) : P Node := do
  let pos ← nodePos
  let name ← parse (.bindingName (some "Private identifiers are not allowed in variable declarations."))
  let exclamation ←
    if allowExclamation && name.kind == .identifier && (← at? .exclamationToken)
        && !(← hasNewline) then
      some <$> parseTokenNode
    else pure none
  let type ← parseTypeAnnotation parse
  let initializer ← if ← atAny [.inKeyword, .ofKeyword] then pure none else parseInitializer parse
  finishKind .variableDeclaration pos
    [.one .name name, .opt .exclamationToken exclamation, .opt .type type,
      .opt .initializer initializer]

/-- Variables declared together. Where a declaration has to follow, `await` has to be followed by
`using`. -/
def parseVariables (inHead : Bool) : P Node := do
  let pos ← nodePos
  let word ← token
  if word == .awaitKeyword then
    if !(← isAwaitUsingDeclaration) then modify fun state => { state with derailed := true }
    nextToken
  nextToken
  let bare : P Bool := afterNext (andM isIdentifier (afterNext (at? .closeParenToken)))
  let declarations ←
    if ← andM (at? .ofKeyword) (lookAhead bare) then missingList
    else
      withAllowance (fun a => { a with noIn := inHead })
        (parseDelimitedList .variableDeclarations (parseVariableDeclaration parse (!inHead)))
  finish { kind := .variableDeclarationList, word } pos [.many .declarations declarations]

/-- A statement that declares variables, after its modifiers. -/
def parseVariableStatement (pos : Nat) (modifiers : Option NodeList) : P Node := do
  let list ← parseVariables parse false
  parseSemicolon
  finishKind .variableStatement pos [.optMany .modifiers modifiers, .one .declarationList list]

/-- A conditional statement. -/
def parseIf : P Node := do
  let pos ← nodePos
  expect .ifKeyword
  let expression ← parseHead parse
  let thenStatement ← parse .statement
  let elseStatement ← if ← parseOptional .elseKeyword then some <$> parse .statement else pure none
  finishKind .ifStatement pos
    [.one .expression expression, .one .thenStatement thenStatement,
      .opt .elseStatement elseStatement]

/-- A loop with its condition at the end. -/
def parseDo : P Node := do
  let pos ← nodePos
  expect .doKeyword
  let statement ← parse .statement
  expect .whileKeyword
  let expression ← parseHead parse
  let _ ← parseOptional .semicolonToken
  finishKind .doStatement pos [.one .statement statement, .one .expression expression]

/-- A statement of a word, a head in parentheses and another statement. -/
def parseHeaded (word kind : Kind) : P Node := do
  let pos ← nodePos
  expect word
  let expression ← parseHead parse
  let statement ← parse .statement
  finishKind kind pos [.one .expression expression, .one .statement statement]

/-- What a loop declares or evaluates first. -/
def parseLoopStart : P (Option Node) := do
  if ← at? .semicolonToken then return none
  let declares ←
    orM (atAny [.varKeyword, .letKeyword, .constKeyword])
      (orM (andM (at? .usingKeyword) (lookAhead (bindingFollows true)))
        (andM (at? .awaitKeyword) isAwaitUsingDeclaration))
  if declares then return some (← parseVariables parse true)
  return some (← disallowIn (parse .expression))

/-- A loop over a counter, the keys or the members of a value. -/
def parseFor : P Node := do
  let pos ← nodePos
  expect .forKeyword
  let awaitModifier ← parseOptionalToken .awaitKeyword
  expect .openParenToken
  let initializer ← parseLoopStart parse
  if ← if awaitModifier.isSome then parseExpected .ofKeyword else parseOptional .ofKeyword then
    let expression ← allowIn (parse (.assignment true))
    expect .closeParenToken
    let statement ← parse .statement
    finishKind .forOfStatement pos
      [.opt .awaitModifier awaitModifier, .opt .initializer initializer, .one .expression expression,
        .one .statement statement]
  else if ← parseOptional .inKeyword then
    let expression ← allowIn (parse .expression)
    expect .closeParenToken
    let statement ← parse .statement
    finishKind .forInStatement pos
      [.opt .initializer initializer, .one .expression expression, .one .statement statement]
  else
    expect .semicolonToken
    let condition ←
      if ← atAny [.semicolonToken, .closeParenToken] then pure none
      else some <$> allowIn (parse .expression)
    expect .semicolonToken
    let incrementor ←
      if ← at? .closeParenToken then pure none else some <$> allowIn (parse .expression)
    expect .closeParenToken
    let statement ← parse .statement
    finishKind .forStatement pos
      [.opt .initializer initializer, .opt .condition condition, .opt .incrementor incrementor,
        .one .statement statement]

/-- A jump out of a loop or to its next turn. -/
def parseJump (word kind : Kind) : P Node := do
  let pos ← nodePos
  expect word
  let label ← if ← canParseSemicolon then pure none else some <$> parseIdentifier
  parseSemicolon
  finishKind kind pos [.opt .label label]

/-- The end of a function with its value. -/
def parseReturn : P Node := do
  let pos ← nodePos
  expect .returnKeyword
  let expression ← if ← canParseSemicolon then pure none else some <$> allowIn (parse .expression)
  parseSemicolon
  finishKind .returnStatement pos [.opt .expression expression]

/-- A case of a choice. -/
def parseClause : P Node := do
  let pos ← nodePos
  if ← at? .caseKeyword then
    expect .caseKeyword
    let expression ← allowIn (parse .expression)
    expect .colonToken
    let statements ← parseList .switchClauseStatements (parse .statement)
    finishKind .caseClause pos [.one .expression expression, .many .statements statements]
  else
    expect .defaultKeyword
    expect .colonToken
    let statements ← parseList .switchClauseStatements (parse .statement)
    finishKind .defaultClause pos [.many .statements statements]

/-- A choice by a value. -/
def parseSwitch : P Node := do
  let pos ← nodePos
  expect .switchKeyword
  let expression ← parseHead parse
  let start ← nodePos
  expect .openBraceToken
  let clauses ← parseList .switchClauses (parseClause parse)
  expect .closeBraceToken
  let block ← finishKind .caseBlock start [.many .clauses clauses]
  finishKind .switchStatement pos [.one .expression expression, .one .caseBlock block]

/-- The raising of a value. A line break before the value leaves it out. -/
def parseThrow : P Node := do
  let pos ← nodePos
  expect .throwKeyword
  let expression ←
    if ← hasNewline then do finishKind .identifier (← nodePos) []
    else allowIn (parse .expression)
  if !(← tryParseSemicolon) then missingSemicolonError expression
  finishKind .throwStatement pos [.one .expression expression]

/-- What handles a raised value. -/
def parseCatch : P Node := do
  let pos ← nodePos
  expect .catchKeyword
  let variableDeclaration ←
    if ← parseOptional .openParenToken then do
      let declaration ← parseVariableDeclaration parse false
      expect .closeParenToken
      pure (some declaration)
    else pure none
  let block ← parseBlock parse false none
  finishKind .catchClause pos [.opt .variableDeclaration variableDeclaration, .one .block block]

/-- A block with what handles the values raised in it. -/
def parseTry : P Node := do
  let pos ← nodePos
  expect .tryKeyword
  let tryBlock ← parseBlock parse false none
  let catchClause ← if ← at? .catchKeyword then some <$> parseCatch parse else pure none
  let finallyBlock ←
    if catchClause.isNone || (← at? .finallyKeyword) then do
      let _ ← parseExpectedWith .finallyKeyword "'catch' or 'finally' expected."
      some <$> parseBlock parse false none
    else pure none
  finishKind .tryStatement pos
    [.one .tryBlock tryBlock, .opt .catchClause catchClause, .opt .finallyBlock finallyBlock]

/-- An expression as a statement, or a statement with a label. -/
def parseExpressionStatement : P Node := do
  let pos ← nodePos
  let expression ← allowIn (parse .expression)
  if ← andM (pure (expression.kind == .identifier)) (parseOptional .colonToken) then
    let statement ← parse .statement
    finishKind .labeledStatement pos [.one .label expression, .one .statement statement]
  else
    if !(← tryParseSemicolon) then missingSemicolonError expression
    finishKind .expressionStatement pos [.one .expression expression]

/-- A declaration with its modifiers. -/
def parseDeclaration : P Node := do
  let pos ← nodePos
  let modifiers ← parseModifiers parse { decorators := true }
  match ← token with
  | .varKeyword | .letKeyword | .constKeyword | .usingKeyword | .awaitKeyword =>
    parseVariableStatement parse pos modifiers
  | .functionKeyword => parseFunctionDeclaration parse pos modifiers
  | .classKeyword => parseClass parse pos modifiers .classDeclaration
  | .interfaceKeyword => parseInterface parse pos modifiers
  | .typeKeyword => parseTypeAlias parse pos modifiers
  | .enumKeyword => parseEnum parse pos modifiers
  | .globalKeyword | .moduleKeyword | .namespaceKeyword => parseModule parse pos modifiers
  | .importKeyword => parseImport parse pos modifiers
  | .exportKeyword => do
    nextToken
    match ← token with
    | .defaultKeyword | .equalsToken => parseExportAssignment parse pos modifiers
    | .asKeyword => parseNamespaceExport pos modifiers
    | _ => parseExport parse pos modifiers
  | _ => missingDeclaration pos modifiers "Declaration expected."

/-- A statement. -/
def parseStatement : P Node := do
  let pos ← nodePos
  let variablesIf (test : P Bool) : P Node := do
    if ← test then parseVariableStatement parse pos none else parseExpressionStatement parse
  match ← token with
  | .semicolonToken => do
    expect .semicolonToken
    finishKind .emptyStatement pos []
  | .openBraceToken => parseBlock parse false none
  | .varKeyword => parseVariableStatement parse pos none
  | .letKeyword => variablesIf isLetDeclaration
  | .awaitKeyword => variablesIf isAwaitUsingDeclaration
  | .usingKeyword => variablesIf isUsingDeclaration
  | .functionKeyword => parseFunctionDeclaration parse pos none
  | .classKeyword => parseClass parse pos none .classDeclaration
  | .ifKeyword => parseIf parse
  | .doKeyword => parseDo parse
  | .whileKeyword => parseHeaded parse .whileKeyword .whileStatement
  | .forKeyword => parseFor parse
  | .continueKeyword => parseJump .continueKeyword .continueStatement
  | .breakKeyword => parseJump .breakKeyword .breakStatement
  | .returnKeyword => parseReturn parse
  | .withKeyword => parseHeaded parse .withKeyword .withStatement
  | .switchKeyword => parseSwitch parse
  | .throwKeyword => parseThrow parse
  | .tryKeyword | .catchKeyword | .finallyKeyword => parseTry parse
  | .debuggerKeyword => do
    expect .debuggerKeyword
    parseSemicolon
    finishKind .debuggerStatement pos []
  | .atToken => parseDeclaration parse
  | .asyncKeyword | .interfaceKeyword | .typeKeyword | .moduleKeyword | .namespaceKeyword
  | .declareKeyword | .constKeyword | .enumKeyword | .exportKeyword | .importKeyword
  | .privateKeyword | .protectedKeyword | .publicKeyword | .abstractKeyword | .accessorKeyword
  | .staticKeyword | .readonlyKeyword | .globalKeyword => do
    if ← isStartOfDeclaration then parseDeclaration parse else parseExpressionStatement parse
  | _ => parseExpressionStatement parse

end

end Codemod.Grammar
