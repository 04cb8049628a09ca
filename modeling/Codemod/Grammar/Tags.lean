import Codemod.Grammar.Types

/-!
# Tags

Elements and fragments in angle brackets, with their attributes and the text,
expressions and elements between the opening and the closing tag.
-/
namespace Codemod.Grammar

open Syntax

/-- Reads on as text between tags. -/
def scanTagText : P Unit := do
  let state ← get
  take (state.source.scanTagContent state.token.stop)

/-- Reads the token in hand again as what stands between tags. -/
def rescanTagText : P Kind := do
  let state ← get
  take (state.source.scanTagContent state.token.fullStart)
  token

/-- Reads the name in hand again with its hyphens. -/
def rescanTagName : P Unit := do
  let state ← get
  take (state.source.rereadTagName state.token)

/-- A name inside a tag, spelled without escapes. -/
def parsePlainName : P Node := do
  if (← get).token.escaped then errorHere "Unicode escape sequence cannot appear here."
  parseIdentifierName

/-- A name with an optional namespace before a colon. -/
def parseNamespacedName : P Node := do
  let pos ← nodePos
  rescanTagName
  let name ← parsePlainName
  if ← parseOptional .colonToken then
    rescanTagName
    let inner ← parsePlainName
    finishKind .jsxNamespacedName pos [.one .jsxNamespace name, .one .name inner]
  else pure name

/-- The name of an element. -/
def parseElementName : P Node := do
  let pos ← nodePos
  rescanTagName
  let isThis ← at? .thisKeyword
  let first ← parseNamespacedName
  if first.kind == .jsxNamespacedName then return first
  let first := if isThis then Node.leaf { kind := .thisKeyword, span := first.info.span } else first
  let step (expression : Node) : P (Node ⊕ Node) := do
    if ← parseOptional .dotToken then
      let name ← parseRightSideOfDot true false false
      return .inl (← finishKind .propertyAccessExpression pos
        [.one .expression expression, .one .name name])
    else return .inr expression
  repeatUntil step id (← loopBound) first

/-- The spelling of an element's name without blanks; equal names have equal spellings. -/
def elementNameText : Node → String
  | .mk info children =>
    match info.kind, children with
    | .propertyAccessExpression, [left, right] => elementNameText left ++ "." ++ right.text
    | .jsxNamespacedName, [left, right] => left.text ++ ":" ++ right.text
    | .thisKeyword, _ => "this keyword"
    | _, _ => info.text

/-- The source text of a node. -/
def sourceText (node : Node) : P String := do
  let source := (← get).source
  let span := node.info.span.getD default
  return source.slice (source.skipTrivia span.start) span.stop

/-- Complains about a node and the blanks before it. -/
def errorAtNode (node : Node) (message : String) : P Unit :=
  let span := node.info.span.getD default
  errorAt span.start span.stop message

/-- Complains about a node from its first character on. -/
def errorAtText (node : Node) (message : String) : P Unit := do
  let span := node.info.span.getD default
  errorAt ((← get).source.skipTrivia span.start) span.stop message

section

variable (parse : Goal → P Node)

/-- An expression in braces inside a tag or between tags. -/
def parseTagExpression (inExpression : Bool) : P (Option Node) := do
  let pos ← nodePos
  if !(← parseExpected .openBraceToken) then return none
  let (dots, expression) ←
    if ← at? .closeBraceToken then pure (none, none)
    else do
      let dots ← if inExpression then pure none else parseOptionalToken .dotDotDotToken
      let expression ← parse .expression
      pure (dots, some expression)
  if inExpression then expect .closeBraceToken
  else if ← at? .closeBraceToken then scanTagText
  else errorHere (expectedMessage .closeBraceToken)
  return some (← finishKind .jsxExpression pos [.opt .dotDotDotToken dots, .opt .expression expression])

/-- The value of an attribute. -/
def parseAttributeValue : P (Option Node) := do
  if !(← at? .equalsToken) then return none
  let state ← get
  take (state.source.scanAttributeValue state.dialect.jsx state.token)
  match ← token with
  | .stringLiteral => some <$> parseLiteralNode
  | .openBraceToken => parseTagExpression parse true
  | .lessThanToken => some <$> parse (.tag true false none none)
  | _ => do
    errorHere "'\x7b' or JSX element expected."
    return none

/-- An attribute. -/
def parseAttribute : P Node := do
  let pos ← nodePos
  if ← at? .openBraceToken then
    expect .openBraceToken
    expect .dotDotDotToken
    let expression ← parse .expression
    expect .closeBraceToken
    finishKind .jsxSpreadAttribute pos [.one .expression expression]
  else
    let name ← parseNamespacedName
    let value ← parseAttributeValue parse
    finishKind .jsxAttribute pos [.one .name name, .opt .initializer value]

/-- The opening tag of an element or fragment, or a whole element without children. -/
def parseOpening (inExpression : Bool) : P Node := do
  let pos ← nodePos
  expect .lessThanToken
  if ← at? .greaterThanToken then
    scanTagText
    return ← finishKind .jsxOpeningFragment pos []
  let name ← parseElementName
  let arguments ←
    if !(← get).dialect.untyped && (← at? .lessThanToken) then some <$> parseTypeArgumentList parse
    else pure none
  let attributesPos ← nodePos
  let properties ← parseList .jsxAttributes (parseAttribute parse)
  let attributes ← finishKind .jsxAttributes attributesPos [.many .properties properties]
  let parts : List Part :=
    [.one .tagName name, .optMany .typeArguments arguments, .one .attributes attributes]
  if ← at? .greaterThanToken then
    scanTagText
    finishKind .jsxOpeningElement pos parts
  else
    expect .slashToken
    if ← at? .greaterThanToken then
      if inExpression then nextToken else scanTagText
    else errorHere (expectedMessage .greaterThanToken)
    finishKind .jsxSelfClosingElement pos parts

/-- The closing tag of an element opened under a name. -/
def parseClosing (openName : String) (inExpression : Bool) : P Node := do
  let pos ← nodePos
  expect .lessThanSlashToken
  let name ← parseElementName
  if ← at? .greaterThanToken then
    if inExpression || elementNameText name != openName then nextToken else scanTagText
  else errorHere (expectedMessage .greaterThanToken)
  finishKind .jsxClosingElement pos [.one .tagName name]

/-- The closing tag of a fragment. -/
def parseClosingFragment (inExpression : Bool) : P Node := do
  let pos ← nodePos
  expect .lessThanSlashToken
  if ← at? .greaterThanToken then
    if inExpression then nextToken else scanTagText
  else errorHere "Expected corresponding closing tag for JSX fragment."
  finishKind .jsxClosingFragment pos []

/-- The spellings of the opening and closing names of an element. -/
def elementNames (node : Node) : Option (String × String) := do
  if node.kind != .jsxElement then none
  else
    let opening ← (← node.child? .openingElement).child? .tagName
    let closing ← (← node.child? .closingElement).child? .tagName
    some (elementNameText opening, elementNameText closing)

/-- Whether a child was closed by the closing tag of the element around it. -/
def stoleClosing (name : Option String) (child : Node) : Bool :=
  match name, elementNames child with
  | some outer, some (opening, closing) => opening != closing && outer == closing
  | _, _ => false

/-- A child of an element, or none at its end. -/
def parseTagChild (opening : Node) (name : Option String) : P (Option Node) := do
  match ← rescanTagText with
  | .endOfFileToken => do
    match opening.child? .tagName with
    | some tag =>
      let span := tag.info.span.getD default
      let start := min ((← get).source.skipTrivia span.start) span.stop
      errorAt start span.stop
        ("JSX element '" ++ (← sourceText tag) ++ "' has no corresponding closing tag.")
    | none => errorAtNode opening "JSX fragment has no corresponding closing tag."
    return none
  | .jsxText => do
    let pos ← nodePos
    let current := (← get).token
    scanTagText
    return some (← finish
      { kind := .jsxText, text := current.value, marks := { blankText := current.blankText } } pos [])
  | .openBraceToken => parseTagExpression parse false
  | .lessThanToken => some <$> parse (.tag false false none name)
  | _ => return none

/-- The children of an element. -/
def parseTagChildren (opening : Node) (name : Option String) : P NodeList := do
  let pos ← nodePos
  let step (nodes : List Node) : P (List Node ⊕ List Node) := do
    match ← parseTagChild parse opening name with
    | none => return .inr nodes
    | some child =>
      if stoleClosing name child then return .inr (child :: nodes) else return .inl (child :: nodes)
  let nodes ← inList .jsxChildren (do repeatUntil step id (← loopBound) [])
  finishList pos nodes.reverse false

/-- The children and closing tag of an element after its opening tag. -/
def parseElementRest (opening : Node) (inExpression : Bool) (parent : Option String) :
    P (NodeList × Node) := do
  let tag := (opening.child? .tagName).getD default
  let name := elementNameText tag
  let children ← parseTagChildren parse opening (some name)
  match children.nodes.getLast? with
  | some last =>
    if stoleClosing (some name) last then
      return (children, (last.child? .closingElement).getD default)
  | none => pure ()
  let closing ← parseClosing name inExpression
  let closingTag := (closing.child? .tagName).getD default
  let closingName := elementNameText closingTag
  if closingName != name then
    if parent == some closingName then
      errorAtNode tag ("JSX element '" ++ (← sourceText tag) ++ "' has no corresponding closing tag.")
    else
      errorAtNode closingTag
        ("Expected corresponding JSX closing tag for '" ++ (← sourceText tag) ++ "'.")
  return (children, closing)

/-- An element or fragment. -/
def parseTag (inExpression mustBeUnary : Bool) (first : Option Nat) (parent : Option String) : P Node := do
  let pos ← nodePos
  let opening ← parseOpening parse inExpression
  let result ← match opening.kind with
    | .jsxOpeningElement => do
      let (children, closing) ← parseElementRest parse opening inExpression parent
      finishKind .jsxElement pos
        [.one .openingElement opening, .many .children children, .one .closingElement closing]
    | .jsxOpeningFragment => do
      let children ← parseTagChildren parse opening none
      let closing ← parseClosingFragment inExpression
      finishKind .jsxFragment pos
        [.one .openingElement opening, .many .children children, .one .closingElement closing]
    | _ => pure opening
  if !mustBeUnary && inExpression && (← at? .lessThanToken) then
    let badPos := first.getD pos
    let second ← tryParse (do
      let node ← parse (.tag true false (some badPos) none)
      return some node)
    match second with
    | some node =>
      let span := node.info.span.getD default
      errorAt ((← get).source.skipTrivia badPos) span.stop "JSX expressions must have one parent element."
      let comma := Node.leaf { kind := .commaToken, span := some { start := span.start, stop := span.start } }
      return ← finishKind .binaryExpression pos
        [.one .left result, .one .operator comma, .one .right node]
    | none => pure ()
  return result

end

end Codemod.Grammar
