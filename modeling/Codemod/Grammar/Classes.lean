import Codemod.Grammar.Expressions

/-!
# Functions, classes, interfaces and enumerations

Declarations with a body in braces, and the members of such bodies.
-/
namespace Codemod.Grammar

open Syntax

/-- The message that a body or the end of a declaration is missing. -/
def bodyMessage : String :=
  "'\x7b' or ';' expected."

/-- Whether a list of modifiers has a word. -/
def hasWord (word : Kind) (modifiers : Option NodeList) : Bool :=
  match modifiers with
  | some list => list.nodes.any (·.kind == word)
  | none => false

/-- A name that the text lacks, with a complaint about the place before the token in hand. -/
def missingBefore (kind : Kind) (message : String) : P Node := do
  let pos ← nodePos
  errorAt pos pos message
  finishKind kind pos []

/-- A declaration that the text lacks after its modifiers. -/
def missingDeclaration (pos : Nat) (modifiers : Option NodeList) (message : String) : P Node := do
  let place ← nodePos
  errorAt place place message
  finishKind .missingDeclaration pos [.optMany .modifiers modifiers]

section

variable (parse : Goal → P Node)

/-- The statements of a block in braces. -/
def parseBlock (ignoreMissing : Bool) (message : Option String) : P Node := do
  let pos ← nodePos
  let opened ← parseExpectedWith .openBraceToken (message.getD (expectedMessage .openBraceToken))
  if opened || ignoreMissing then
    let multiLine ← hasNewline
    let statements ← parseList .blockStatements (parse .statement)
    expect .closeBraceToken
    let block ← finish { kind := .block, marks := { multiLine } } pos [.many .statements statements]
    if ← at? .equalsToken then
      errorHere ("Declaration or statement expected. This '=' follows a block of statements, so if you "
        ++ "intended to write a destructuring assignment, you might need to wrap the whole assignment "
        ++ "in parentheses.")
      nextToken
    return block
  else
    let statements ← missingList
    finishKind .block pos [.many .statements statements]

/-- The body of a function, under its own allowances. -/
def parseFunctionBlock (yields awaits ignoreMissing : Bool) (message : Option String) : P Node :=
  withAllowance (fun a => { a with yields, awaits, decorating := false })
    (parseBlock parse ignoreMissing message)

/-- A function declaration after its modifiers. -/
def parseFunctionDeclaration (pos : Nat) (modifiers : Option NodeList) : P Node := do
  expect .functionKeyword
  let asterisk ← parseOptionalToken .asteriskToken
  let name ←
    if hasWord .defaultKeyword modifiers then
      if ← isBindingIdentifier then some <$> parseBindingIdentifier else pure none
    else some <$> parseBindingIdentifier
  let yields := asterisk.isSome
  let awaits := hasAsync modifiers
  let typeParameters ← parseTypeParameters parse
  withAllowance (fun a => { a with awaits := a.awaits || hasWord .exportKeyword modifiers }) do
    let parameters ← parseParameters parse yields awaits
    let type ← parseReturnType parse .colonToken false
    let body ← parseFunctionBlockOrSemicolon parse yields awaits false (some bodyMessage)
    finishKind .functionDeclaration pos
      [.optMany .modifiers modifiers, .opt .asteriskToken asterisk, .opt .name name,
        .optMany .typeParameters typeParameters, .many .parameters parameters, .opt .type type,
        .opt .body body]

/-- Skips the name of a constructor, if it stands here. -/
def parseConstructorName : P Bool := do
  if ← at? .constructorKeyword then parseExpected .constructorKeyword
  else if (← at? .stringLiteral) && (← nextIs (at? .openParenToken)) then
    let literal ← parseLiteralNode
    return literal.text == "constructor"
  else pure false

/-- A constructor after its modifiers, if one stands here. -/
def tryParseConstructor (pos : Nat) (modifiers : Option NodeList) : P (Option Node) :=
  tryParse do
    if !(← parseConstructorName) then return none
    let typeParameters ← parseTypeParameters parse
    let parameters ← parseParameters parse false false
    let type ← parseReturnType parse .colonToken false
    let body ← parseFunctionBlockOrSemicolon parse false false false (some bodyMessage)
    return some (← finishKind .constructorDeclaration pos
      [.optMany .modifiers modifiers, .optMany .typeParameters typeParameters,
        .many .parameters parameters, .opt .type type, .opt .body body])

/-- A property of a class after its name. -/
def parsePropertyDeclaration (pos : Nat) (modifiers : Option NodeList) (name : Node)
    (question : Option Node) : P Node := do
  let exclamation ←
    if question.isNone && !(← hasNewline) then parseOptionalToken .exclamationToken else pure none
  let type ← parseTypeAnnotation parse
  let initializer ←
    withAllowance (fun a => { a with yields := false, awaits := false, noIn := false })
      (parseInitializer parse)
  semicolonAfterProperty name type.isSome initializer.isSome
  finishKind .propertyDeclaration pos
    [.optMany .modifiers modifiers, .one .name name, .opt .questionToken question,
      .opt .exclamationToken exclamation, .opt .type type, .opt .initializer initializer]

/-- A property or method of a class after its modifiers. -/
def parsePropertyOrMethod (pos : Nat) (modifiers : Option NodeList) : P Node := do
  let asterisk ← parseOptionalToken .asteriskToken
  let name ← parsePropertyName parse
  let question ← parseOptionalToken .questionToken
  if asterisk.isSome || (← atAny [.openParenToken, .lessThanToken]) then
    parseMethod parse pos modifiers asterisk name question none (some bodyMessage)
  else parsePropertyDeclaration parse pos modifiers name question

/-- A member of a class. -/
def parseClassElement : P Node := do
  let pos ← nodePos
  if ← at? .semicolonToken then
    nextToken
    return ← finishKind .semicolonClassElement pos []
  let modifiers ← parseModifiers parse { decorators := true, constant := true, staticBlock := true }
  if (← at? .staticKeyword) && (← nextIs (at? .openBraceToken)) then
    nextToken
    let body ← withAllowance (fun a => { a with yields := false, awaits := true })
      (parseBlock parse false none)
    return ← finishKind .classStaticBlockDeclaration pos
      [.optMany .modifiers modifiers, .one .body body]
  if ← parseContextualModifier .getKeyword then
    return ← parseAccessor parse pos modifiers .getAccessor false
  if ← parseContextualModifier .setKeyword then
    return ← parseAccessor parse pos modifiers .setAccessor false
  if ← atAny [.constructorKeyword, .stringLiteral] then
    match ← tryParseConstructor parse pos modifiers with
    | some node => return node
    | none => pure ()
  if ← isIndexSignature then return ← parseIndexSignature parse pos modifiers
  if ← orM isLiteralPropertyName (atAny [.asteriskToken, .openBracketToken]) then
    return ← parsePropertyOrMethod parse pos modifiers
  let name ← missingBefore .identifier "Declaration expected."
  parsePropertyDeclaration parse pos modifiers name none

/-- An expression with type arguments in a heritage clause. -/
def parseHeritageType : P Node := do
  let pos ← nodePos
  let expression ← parse .leftHandSide
  if expression.kind == .expressionWithTypeArguments then return expression
  let arguments ← if ← at? .lessThanToken then some <$> parseTypeArgumentList parse else pure none
  finishKind .expressionWithTypeArguments pos
    [.one .expression expression, .optMany .typeArguments arguments]

/-- What a class extends or implements. -/
def parseHeritageClause : P Node := do
  let pos ← nodePos
  let word ← token
  nextToken
  let types ← parseDelimitedList .heritageClauseElement (parseHeritageType parse)
  finish { kind := .heritageClause, word } pos [.many .types types]

/-- All that a class extends or implements. -/
def parseHeritageClauses : P (Option NodeList) := do
  if ← atAny [.extendsKeyword, .implementsKeyword] then
    return some (← parseList .heritageClauses (parseHeritageClause parse))
  return none

/-- A class after its modifiers. -/
def parseClass (pos : Nat) (modifiers : Option NodeList) (kind : Kind) : P Node := do
  expect .classKeyword
  let unnamed ← andM (at? .implementsKeyword) (nextIs isNameToken)
  let name ←
    if !unnamed && (← isBindingIdentifier) then some <$> parseBindingIdentifier else pure none
  let typeParameters ← parseTypeParameters parse
  withAllowance (fun a => { a with awaits := a.awaits || hasWord .exportKeyword modifiers }) do
    let heritage ← parseHeritageClauses parse
    let members ←
      if ← parseExpected .openBraceToken then do
        let members ← parseList .classMembers (parseClassElement parse)
        expect .closeBraceToken
        pure members
      else missingList
    finishKind kind pos
      [.optMany .modifiers modifiers, .opt .name name, .optMany .typeParameters typeParameters,
        .optMany .heritageClauses heritage, .many .members members]

/-- A class as an expression, with the decorators before it. -/
def parseClassExpression : P Node := do
  let pos ← nodePos
  if ← at? .atToken then
    let modifiers ← parseModifiers parse { decorators := true }
    if ← at? .classKeyword then parseClass parse pos modifiers .classExpression
    else missingDeclaration pos modifiers "Expression expected."
  else parseClass parse pos none .classExpression

/-- An interface after its modifiers. -/
def parseInterface (pos : Nat) (modifiers : Option NodeList) : P Node := do
  expect .interfaceKeyword
  let name ← parseIdentifier
  let typeParameters ← parseTypeParameters parse
  let heritage ← parseHeritageClauses parse
  let members ← parseObjectTypeMembers parse
  finishKind .interfaceDeclaration pos
    [.optMany .modifiers modifiers, .one .name name, .optMany .typeParameters typeParameters,
      .optMany .heritageClauses heritage, .many .members members]

/-- A type alias after its modifiers. -/
def parseTypeAlias (pos : Nat) (modifiers : Option NodeList) : P Node := do
  expect .typeKeyword
  if ← hasNewline then errorHere "Line break not permitted here."
  let name ← parseIdentifier
  let typeParameters ← parseTypeParameters parse
  expect .equalsToken
  let intrinsic : P (Option Node) := do
    let node ← parseTokenNode
    if ← at? .dotToken then return none else return some node
  let word ← if ← at? .intrinsicKeyword then tryParse intrinsic else pure none
  let type ← match word with
    | some node => pure node
    | none => parse .type
  parseSemicolon
  finishKind .typeAliasDeclaration pos
    [.optMany .modifiers modifiers, .one .name name, .optMany .typeParameters typeParameters,
      .one .type type]

/-- A member of an enumeration. -/
def parseEnumMember : P Node := do
  let pos ← nodePos
  let name ← parsePropertyName parse
  let initializer ← allowIn (parseInitializer parse)
  finishKind .enumMember pos [.one .name name, .opt .initializer initializer]

/-- An enumeration after its modifiers. -/
def parseEnum (pos : Nat) (modifiers : Option NodeList) : P Node := do
  expect .enumKeyword
  let name ← parseIdentifier
  let members ←
    if ← parseExpected .openBraceToken then do
      let members ← withAllowance (fun a => { a with yields := false, awaits := false })
        (parseDelimitedList .enumMembers (parseEnumMember parse))
      expect .closeBraceToken
      pure members
    else missingList
  finishKind .enumDeclaration pos
    [.optMany .modifiers modifiers, .one .name name, .many .members members]

end

end Codemod.Grammar
