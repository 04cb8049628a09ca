import Codemod.Grammar.Start
import Codemod.Grammar.Spelling

/-!
# Names and the ends of statements

Identifiers, private names, literals and the names of properties, and the
complaints when a name is missing or a statement does not end where it should.
-/
namespace Codemod.Grammar

open Syntax

/-- What a reader may ask of the whole grammar. -/
inductive Goal where
  | statement
  | expression
  | assignment (allowReturnType : Bool)
  | binary (precedence : Nat)
  | simpleUnary
  | unary
  | leftHandSide
  | type
  | typeOperator
  | plainType
  | bindingName (privateMessage : Option String)
  | block (ignoreMissing : Bool)
  | functionBlock (yields awaits ignoreMissing : Bool) (message : Option String)
  | classExpression
  | decorator
  | tag (inExpression mustBeUnary : Bool) (first : Option Nat) (parent : Option String)
  deriving Repr

/-- The token in hand as an identifier. -/
def takeIdentifier : P Node := do
  let pos ← nodePos
  let text := (← get).token.value
  advance
  finish { kind := .identifier, text } pos []

/-- An identifier when `good` says that there is one, or the complaint that it is missing. -/
def createIdentifier (good : Bool) (message privateMessage : Option String) : P Node := do
  if good then return ← takeIdentifier
  if ← at? .privateIdentifier then
    errorHere (privateMessage.getD "Private identifiers are not allowed outside class bodies.")
    return ← takeIdentifier
  let state ← get
  let current := state.token
  let text := message.getD <|
    if current.kind.isReservedWord then
      "Identifier expected. '" ++ state.source.slice current.start current.stop
        ++ "' is a reserved word that cannot be used here."
    else "Identifier expected."
  if current.kind == .endOfFileToken then errorAt current.fullStart current.fullStart text
  else errorHere text
  finishKind .identifier (← nodePos) []

/-- The name of a binding. -/
def parseBindingIdentifier : P Node := do
  createIdentifier (← isBindingIdentifier) none none

/-- An identifier. -/
def parseIdentifier : P Node := do
  createIdentifier (← isIdentifier) none none

/-- An identifier, with a message when it is missing. -/
def parseIdentifierWith (message : String) : P Node := do
  createIdentifier (← isIdentifier) (some message) none

/-- An identifier or any word as a name. -/
def parseIdentifierName : P Node := do
  createIdentifier (← isNameToken) none none

/-- A literal in hand. -/
def parseLiteralNode : P Node := do
  let pos ← nodePos
  let current := (← get).token
  nextToken
  finish { kind := current.kind, text := current.value, marks := { separated := current.separated } } pos []

/-- A private name. -/
def parsePrivateIdentifier : P Node := do
  let pos ← nodePos
  let text := (← get).token.value
  nextToken
  finish { kind := .privateIdentifier, text } pos []

section

variable (parse : Goal → P Node)

/-- A name in brackets. -/
def parseComputedPropertyName : P Node := do
  let pos ← nodePos
  expect .openBracketToken
  let expression ← allowIn (parse .expression)
  expect .closeBracketToken
  finishKind .computedPropertyName pos [.one .expression expression]

/-- The name of a property. -/
def parsePropertyName : P Node := do
  match ← token with
  | .stringLiteral | .numericLiteral | .bigIntLiteral => parseLiteralNode
  | .openBracketToken => parseComputedPropertyName parse
  | .privateIdentifier => parsePrivateIdentifier
  | _ => parseIdentifierName

end

/-- Complains about a name in hand that a declaration cannot have. What has no text of its own goes by
the text before it. -/
def invalidNameError (nameMessage blankMessage : String) (blank : Kind) : P Unit := do
  if ← at? blank then errorHere blankMessage
  else errorHere (nameMessage ++ (← get).lastText ++ "'.")

/-- Whether a text is spelled like an identifier. -/
def isIdentifierText (text : String) : Bool :=
  match text.toList with
  | [] => false
  | c :: rest => Text.isIdentifierStart c && rest.all Text.isIdentifierPart

/-- Complains that a statement does not end after a node. -/
def missingSemicolonError (node : Node) : P Unit := do
  let state ← get
  let span := node.info.span.getD default
  match node.kind, node.child? .template with
  | .taggedTemplateExpression, some template =>
    let inner := template.info.span.getD default
    errorAt (state.source.skipTrivia inner.start) inner.stop
      "Module declaration names may only use ' or \" quoted strings."
  | _, _ =>
    if node.kind != .identifier || !isIdentifierText node.text then
      errorHere (expectedMessage .semicolonToken)
    else
      let start := state.source.skipTrivia span.start
      match node.text with
      | "const" | "let" | "var" =>
        errorAt start span.stop "Variable declaration not allowed at this location."
      | "declare" => pure ()
      | "interface" =>
        invalidNameError "Interface name cannot be '" "Interface must be given a name." .openBraceToken
      | "is" =>
        errorAt start state.token.start
          "A type predicate is only allowed in return type position for functions and methods."
      | "module" | "namespace" =>
        invalidNameError "Namespace name cannot be '" "Namespace must be given a name." .openBraceToken
      | "type" =>
        invalidNameError "Type alias name cannot be '" "Type alias must be given a name." .equalsToken
      | word =>
        match Spelling.suggestion? word with
        | some meant =>
          errorAt start span.stop ("Unknown keyword or identifier. Did you mean '" ++ meant ++ "'?")
        | none =>
          if state.token.kind != .unknown then
            errorAt start span.stop "Unexpected keyword or identifier."

/-- Ends a member of a class after its name, type and value. -/
def semicolonAfterProperty (name : Node) (typed valued : Bool) : P Unit := do
  if (← at? .atToken) && !(← hasNewline) then
    errorHere "Decorators must precede the name and all keywords of property declarations."
  else if ← at? .openParenToken then
    errorHere "Cannot start a function call in a type annotation."
    nextToken
  else if typed && !(← canParseSemicolon) then
    if valued then errorHere (expectedMessage .semicolonToken)
    else errorHere "Expected '=' for property initializer."
  else if ← tryParseSemicolon then pure ()
  else if valued then errorHere (expectedMessage .semicolonToken)
  else missingSemicolonError name

end Codemod.Grammar
