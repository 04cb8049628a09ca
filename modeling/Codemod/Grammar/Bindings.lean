import Codemod.Grammar.Names

/-!
# Modifiers, bindings and parameters

The words and decorators before a declaration, the patterns that bind names,
and the parameters of functions and signatures.
-/
namespace Codemod.Grammar

open Syntax

/-- Whether what may follow a modifier stands here. -/
def canFollowModifier : P Bool :=
  orM (atAny [.openBracketToken, .openBraceToken, .asteriskToken, .dotDotDotToken]) isLiteralPropertyName

/-- Whether what may follow `export` as a modifier stands here. -/
def canFollowExport : P Bool := do
  if ← at? .atToken then return true
  if ← atAny [.asteriskToken, .asKeyword, .openBraceToken] then return false
  canFollowModifier

/-- Whether what may follow `default` as a modifier comes next. -/
def nextCanFollowDefault : P Bool := do
  nextToken
  match ← token with
  | .classKeyword | .functionKeyword | .interfaceKeyword | .atToken => pure true
  | .abstractKeyword => lookAhead (afterNext (andM (at? .classKeyword) (notM hasNewline)))
  | .asyncKeyword => lookAhead (afterNext (andM (at? .functionKeyword) (notM hasNewline)))
  | _ => pure false

/-- Whether what may follow a modifier comes next on the same line. -/
def nextOnLineCanFollowModifier : P Bool := do
  nextToken
  if ← hasNewline then pure false else canFollowModifier

/-- Whether the word in hand is a modifier of what comes next; moves on. -/
def nextCanFollowModifier : P Bool := do
  match ← token with
  | .constKeyword => afterNext (at? .enumKeyword)
  | .exportKeyword => do
    nextToken
    match ← token with
    | .defaultKeyword => lookAhead nextCanFollowDefault
    | .typeKeyword => lookAhead (afterNext canFollowExport)
    | _ => canFollowExport
  | .defaultKeyword => nextCanFollowDefault
  | .staticKeyword | .getKeyword | .setKeyword => afterNext canFollowModifier
  | _ => nextOnLineCanFollowModifier

/-- Skips a word when it modifies what comes next. -/
def parseContextualModifier (kind : Kind) : P Bool := do
  if ← at? kind then tryBool nextCanFollowModifier else pure false

/-- Where modifiers are read and which of them count. -/
structure ModifierPlace where
  decorators : Bool := false
  /-- `const` is a modifier on its own. -/
  constant : Bool := false
  /-- A static block is not a modified member. -/
  staticBlock : Bool := false

/-- A modifier, if one stands here. -/
def tryParseModifier (place : ModifierPlace) (seenStatic : Bool) : P (Option Node) := do
  let pos ← nodePos
  let kind ← token
  let taken ←
    if kind == .constKeyword && place.constant then tryBool nextOnLineCanFollowModifier
    else if kind == .staticKeyword && place.staticBlock && (← nextIs (at? .openBraceToken)) then
      pure false
    else if kind == .staticKeyword && seenStatic then pure false
    else if isModifierKind kind then tryBool nextCanFollowModifier
    else pure false
  if taken then return some (← finishKind kind pos []) else return none

section

variable (parse : Goal → P Node)

/-- A decorator, if one stands here. -/
def tryParseDecorator : P (Option Node) := do
  if !(← at? .atToken) then return none
  let pos ← nodePos
  nextToken
  let expression ← withAllowance (fun a => { a with decorating := true }) (parse .decorator)
  return some (← finishKind .decorator pos [.one .expression expression])

/-- Decorators up to something else, added to a list with the last first. -/
def parseDecorators (nodes : List Node) : P (List Node) := do
  let step (nodes : List Node) : P (List Node ⊕ List Node) := do
    match ← tryParseDecorator parse with
    | some node => return .inl (node :: nodes)
    | none => return .inr nodes
  repeatUntil step id (← loopBound) nodes

/-- Modifiers up to something else, added to a list with the last first. -/
def parseWords (place : ModifierPlace) (nodes : List Node) : P (List Node) := do
  let step (nodes : List Node) : P (List Node ⊕ List Node) := do
    match ← tryParseModifier place (nodes.any (·.kind == .staticKeyword)) with
    | some node => return .inl (node :: nodes)
    | none => return .inr nodes
  repeatUntil step id (← loopBound) nodes

/-- The decorators and modifiers of a declaration. -/
def parseModifiers (place : ModifierPlace) : P (Option NodeList) := do
  let pos ← nodePos
  let leading ← if place.decorators then parseDecorators parse [] else pure []
  let words ← parseWords place leading
  let trailing ←
    if place.decorators && words.length > leading.length then parseDecorators parse words else pure words
  let nodes ← if trailing.length > words.length then parseWords place trailing else pure trailing
  if nodes.isEmpty then return none
  return some (← finishList pos nodes.reverse false)

/-- The value after an equals sign. -/
def parseInitializer : P (Option Node) := do
  if ← parseOptional .equalsToken then return some (← parse (.assignment true)) else return none

/-- The type after a colon. -/
def parseTypeAnnotation : P (Option Node) := do
  if ← parseOptional .colonToken then return some (← parse .type) else return none

/-- A member of an array pattern. -/
def parseArrayBindingElement : P Node := do
  let pos ← nodePos
  if ← at? .commaToken then return ← finishKind .omittedExpression pos []
  let dots ← parseOptionalToken .dotDotDotToken
  let name ← parse (.bindingName none)
  let initializer ← parseInitializer parse
  finishKind .bindingElement pos [.opt .dotDotDotToken dots, .one .name name, .opt .initializer initializer]

/-- A member of an object pattern. -/
def parseObjectBindingElement : P Node := do
  let pos ← nodePos
  let dots ← parseOptionalToken .dotDotDotToken
  let plain ← isBindingIdentifier
  let property ← parsePropertyName parse
  if plain && !(← at? .colonToken) then
    let initializer ← parseInitializer parse
    finishKind .bindingElement pos
      [.opt .dotDotDotToken dots, .one .name property, .opt .initializer initializer]
  else
    expect .colonToken
    let name ← parse (.bindingName none)
    let initializer ← parseInitializer parse
    finishKind .bindingElement pos
      [.opt .dotDotDotToken dots, .one .propertyName property, .one .name name,
        .opt .initializer initializer]

/-- A name or a pattern that binds names. -/
def parseBindingName (privateMessage : Option String) : P Node := do
  match ← token with
  | .openBracketToken => do
    let pos ← nodePos
    expect .openBracketToken
    let elements ← allowIn (parseDelimitedList .arrayBindingElements (parseArrayBindingElement parse))
    expect .closeBracketToken
    finishKind .arrayBindingPattern pos [.many .elements elements]
  | .openBraceToken => do
    let pos ← nodePos
    expect .openBraceToken
    let elements ← allowIn (parseDelimitedList .objectBindingElements (parseObjectBindingElement parse))
    expect .closeBraceToken
    finishKind .objectBindingPattern pos [.many .elements elements]
  | _ => do createIdentifier (← isBindingIdentifier) none privateMessage

/-- A parameter; `strict` gives up where no name can start. -/
def parseParameterWith (outerAwait strict : Bool) : P (Option Node) := do
  let pos ← nodePos
  let modifiers ← withAllowance (fun a => { a with awaits := outerAwait })
    (parseModifiers parse { decorators := true })
  if ← at? .thisKeyword then
    let name ← takeIdentifier
    let type ← parseTypeAnnotation parse
    match modifiers.bind (·.nodes.head?) with
    | some modifier =>
      let span := modifier.info.span.getD default
      errorAt span.start span.stop
        "Neither decorators nor modifiers may be applied to 'this' parameters."
    | none => pure ()
    return some (← finishKind .parameter pos
      [.optMany .modifiers modifiers, .one .name name, .opt .type type])
  let dots ← parseOptionalToken .dotDotDotToken
  if strict && !(← orM isBindingIdentifier (atAny [.openBracketToken, .openBraceToken])) then return none
  let start ← nodePos
  let name ← parse (.bindingName (some "Private identifiers cannot be used as parameters."))
  if start == (← nodePos) && modifiers.isNone && isModifierKind (← token) then nextToken
  let question ← parseOptionalToken .questionToken
  let type ← parseTypeAnnotation parse
  let initializer ← parseInitializer parse
  return some (← finishKind .parameter pos
    [.optMany .modifiers modifiers, .opt .dotDotDotToken dots, .one .name name,
      .opt .questionToken question, .opt .type type, .opt .initializer initializer])

/-- A parameter. -/
def parseParameter (outerAwait : Bool) : P Node := do
  match ← parseParameterWith parse outerAwait false with
  | some node => pure node
  | none => missing .parameter none

/-- Parameters without their parentheses, under the allowances of their function. -/
def parseParametersWith (yields awaits strict : Bool) : P (Option NodeList) := do
  let outerAwait ← inAwait
  withAllowance (fun a => { a with yields, awaits })
    (parseDelimitedWith .parameters (parseParameterWith parse outerAwait strict) false)

/-- Parameters in parentheses. -/
def parseParameters (yields awaits : Bool) : P NodeList := do
  if !(← parseExpected .openParenToken) then return ← missingList
  let list ← parseParametersWith parse yields awaits false
  expect .closeParenToken
  match list with
  | some parameters => pure parameters
  | none => missingList

end

end Codemod.Grammar
