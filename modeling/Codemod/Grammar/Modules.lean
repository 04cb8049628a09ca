import Codemod.Grammar.Classes

/-!
# Namespaces, imports and exports

What a text takes from other modules and gives to them, and the namespaces that
it is divided into.
-/
namespace Codemod.Grammar

open Syntax

/-- Whether the name of an exported thing may start here. -/
def isModuleExportName : P Bool :=
  orM isNameToken (at? .stringLiteral)

/-- The name of an exported thing. -/
def parseModuleExportName : P Node := do
  if ← at? .stringLiteral then parseLiteralNode else parseIdentifierName

/-- Where a name stands that is a word of the language and so may not be bound, if it is one. -/
def wordHere : P (Option Span) := do
  let current := (← get).token
  if current.kind.isWord && !(← isIdentifier) then
    return some { start := current.start, stop := current.stop }
  return none

/-- The name of an exported thing, with its place when it may not be bound. -/
def parseCheckedExportName (before : Option Span) : P (Node × Option Span) := do
  if ← at? .stringLiteral then return (← parseLiteralNode, before)
  let word ← wordHere
  return (← parseIdentifierName, word)

/-- The parts of an import or export specifier. -/
structure Specifier where
  name : Node
  propertyName : Option Node := none
  typeOnly : Bool := false
  /-- The place of the bound name when it is a word that may not be bound. -/
  word : Option Span

/-- A specifier whose first name is `type`. -/
def parseTypeSpecifier (first : Node) (word : Option Span) : P (Specifier × Bool) := do
  if ← at? .asKeyword then
    let firstAs ← parseIdentifierName
    if ← at? .asKeyword then
      let secondAs ← parseIdentifierName
      if ← isModuleExportName then
        let (name, word) ← parseCheckedExportName word
        return ({ name, propertyName := some firstAs, typeOnly := true, word }, false)
      return ({ name := secondAs, propertyName := some first, word }, false)
    if ← isModuleExportName then
      let (name, word) ← parseCheckedExportName word
      return ({ name, propertyName := some first, word }, false)
    return ({ name := firstAs, typeOnly := true, word }, true)
  if ← isModuleExportName then
    let (name, word) ← parseCheckedExportName word
    return ({ name, typeOnly := true, word }, true)
  return ({ name := first, word }, true)

/-- A name that is imported or exported, perhaps under another one. -/
def parseSpecifier (kind : Kind) : P Node := do
  let pos ← nodePos
  let word ← wordHere
  let first ← parseModuleExportName
  let (specifier, mayRename) ←
    if first.kind == .identifier && first.text == "type" then parseTypeSpecifier first word
    else pure ({ name := first, word }, true)
  let specifier ←
    if mayRename && (← at? .asKeyword) then do
      expect .asKeyword
      let (name, word) ← parseCheckedExportName specifier.word
      pure { specifier with name, propertyName := some specifier.name, word }
    else pure specifier
  let name ←
    if kind == .importSpecifier && specifier.name.kind != .identifier then do
      let span := specifier.name.info.span.getD default
      errorAt ((← get).source.skipTrivia span.start) span.stop "Identifier expected."
      pure (Node.leaf { kind := .identifier, span := some { start := span.start, stop := span.start } })
    else pure specifier.name
  match specifier.word with
  | some span =>
    if kind == .importSpecifier then errorAt span.start span.stop "Identifier expected."
  | none => pure ()
  finish { kind, marks := { typeOnly := specifier.typeOnly } } pos
    [.opt .propertyName specifier.propertyName, .one .name name]

/-- Names in braces. -/
def parseSpecifiers (kind specifier : Kind) : P Node := do
  let pos ← nodePos
  let elements ← parseBracketedList .importOrExportSpecifiers (parseSpecifier specifier)
    .openBraceToken .closeBraceToken
  finishKind kind pos [.many .elements elements]

section

variable (parse : Goal → P Node)

/-- The module that is imported from. -/
def parseModuleSpecifier : P Node := do
  if ← at? .stringLiteral then parseLiteralNode else parse .expression

/-- The attributes of an import or export, if they stand here. -/
def tryParseImportAttributes : P (Option Node) := do
  let word ← token
  if (word == .withKeyword || word == .assertKeyword) && !(← hasNewline) then
    return some (← parseImportAttributes parse word false)
  return none

/-- The statements of a namespace. -/
def parseModuleBlock : P Node := do
  let pos ← nodePos
  let statements ←
    if ← parseExpected .openBraceToken then do
      let statements ← parseList .blockStatements (parse .statement)
      expect .closeBraceToken
      pure statements
    else missingList
  finishKind .moduleBlock pos [.many .statements statements]

/-- A namespace after its first word; `fuel` bounds the names with dots between them. -/
def parseNamespace (word : Kind) : Nat → Nat → Option NodeList → Bool → P Node
  | 0, pos, _, _ => finishKind .moduleDeclaration pos []
  | fuel + 1, pos, modifiers, nested => do
    let name ← if nested then parseIdentifierName else parseIdentifier
    let body ←
      if ← parseOptional .dotToken then do
        parseNamespace word fuel (← nodePos) none true
      else parseModuleBlock parse
    finish { kind := .moduleDeclaration, word } pos
      [.optMany .modifiers modifiers, .one .name name, .one .body body]

/-- A module named by a literal, or the addition to the global scope. -/
def parseAmbientModule (pos : Nat) (modifiers : Option NodeList) : P Node := do
  let isGlobal ← at? .globalKeyword
  let name ← if isGlobal then parseIdentifier else parseLiteralNode
  let body ←
    if ← at? .openBraceToken then some <$> parseModuleBlock parse
    else do
      parseSemicolon
      pure none
  finish { kind := .moduleDeclaration, word := if isGlobal then .globalKeyword else .moduleKeyword } pos
    [.optMany .modifiers modifiers, .one .name name, .opt .body body]

/-- A namespace or module after its modifiers. -/
def parseModule (pos : Nat) (modifiers : Option NodeList) : P Node := do
  if ← at? .globalKeyword then return ← parseAmbientModule parse pos modifiers
  let bound := (← get).source.size.succ
  if ← parseOptional .namespaceKeyword then
    return ← parseNamespace parse .namespaceKeyword bound pos modifiers false
  expect .moduleKeyword
  if ← at? .stringLiteral then return ← parseAmbientModule parse pos modifiers
  parseNamespace parse .moduleKeyword bound pos modifiers false

/-- The names that an import binds. -/
def parseImportClause (name : Option Node) (pos : Nat) (word : Kind) : P Node := do
  let more ← if name.isNone then pure true else parseOptional .commaToken
  let bindings ←
    if !more then pure none
    else if ← at? .asteriskToken then do
      let start ← nodePos
      expect .asteriskToken
      expect .asKeyword
      let name ← parseIdentifier
      some <$> finishKind .namespaceImport start [.one .name name]
    else some <$> parseSpecifiers .namedImports .importSpecifier
  finish { kind := .importClause, word, marks := { typeOnly := word == .typeKeyword } } pos
    [.opt .name name, .opt .namedBindings bindings]

/-- An import that gives a name to another module or to a name with dots. -/
def parseImportEquals (pos : Nat) (modifiers : Option NodeList) (name : Node) (typeOnly : Bool) :
    P Node := do
  expect .equalsToken
  let reference ←
    if ← andM (at? .requireKeyword) (nextIs (at? .openParenToken)) then do
      let start ← nodePos
      expect .requireKeyword
      expect .openParenToken
      let expression ← parseModuleSpecifier parse
      expect .closeParenToken
      finishKind .externalModuleReference start [.one .expression expression]
    else parseEntityName false none
  parseSemicolon
  finish { kind := .importEqualsDeclaration, marks := { typeOnly } } pos
    [.optMany .modifiers modifiers, .one .name name, .one .moduleReference reference]

/-- The word that says what an import is for, with the name after it. -/
def parseImportPhase (name : Option Node) : P (Kind × Option Node) := do
  match name with
  | none => return (.unknown, none)
  | some first =>
    let nameAfter : P (Option Node) := do
      if ← isIdentifier then some <$> parseIdentifier else pure none
    if first.text == "type" then
      let notFrom ← orM (notM (at? .fromKeyword))
        (andM isIdentifier (nextIs (atAny [.fromKeyword, .equalsToken])))
      if notFrom && (← orM isIdentifier (atAny [.asteriskToken, .openBraceToken])) then
        return (.typeKeyword, ← nameAfter)
      return (.unknown, name)
    else if first.text == "defer" then
      let deferred ←
        if ← at? .fromKeyword then notM (nextIs (at? .stringLiteral))
        else notM (atAny [.commaToken, .equalsToken])
      if deferred then return (.deferKeyword, ← nameAfter)
      return (.unknown, name)
    else return (.unknown, name)

/-- An import after its modifiers. -/
def parseImport (pos : Nat) (modifiers : Option NodeList) : P Node := do
  expect .importKeyword
  let afterImport ← nodePos
  let first ← if ← isIdentifier then some <$> parseIdentifier else pure none
  let (word, name) ← parseImportPhase first
  match name with
  | some name =>
    if !(← atAny [.commaToken, .fromKeyword]) && word != .deferKeyword then
      return ← parseImportEquals parse pos modifiers name (word == .typeKeyword)
  | none => pure ()
  let clause ←
    if name.isSome || (← atAny [.asteriskToken, .openBraceToken]) then do
      let clause ← parseImportClause name afterImport word
      expect .fromKeyword
      pure (some clause)
    else pure none
  let specifier ← parseModuleSpecifier parse
  let attributes ← tryParseImportAttributes parse
  parseSemicolon
  finishKind .importDeclaration pos
    [.optMany .modifiers modifiers, .opt .importClause clause, .one .moduleSpecifier specifier,
      .opt .attributes attributes]

/-- An export of names after its word. -/
def parseExport (pos : Nat) (modifiers : Option NodeList) : P Node :=
  withAllowance (fun a => { a with awaits := true }) do
    let typeOnly ← parseOptional .typeKeyword
    let start ← nodePos
    let (clause, specifier) ←
      if ← parseOptional .asteriskToken then do
        let clause ←
          if ← parseOptional .asKeyword then do
            let name ← parseModuleExportName
            some <$> finishKind .namespaceExport start [.one .name name]
          else pure none
        expect .fromKeyword
        pure (clause, some (← parseModuleSpecifier parse))
      else do
        let clause ← parseSpecifiers .namedExports .exportSpecifier
        if ← orM (at? .fromKeyword) (andM (at? .stringLiteral) (notM hasNewline)) then
          expect .fromKeyword
          pure (some clause, some (← parseModuleSpecifier parse))
        else pure (some clause, none)
    let attributes ← if specifier.isSome then tryParseImportAttributes parse else pure none
    parseSemicolon
    finish { kind := .exportDeclaration, marks := { typeOnly } } pos
      [.optMany .modifiers modifiers, .opt .exportClause clause, .opt .moduleSpecifier specifier,
        .opt .attributes attributes]

/-- An export of a value after its word. -/
def parseExportAssignment (pos : Nat) (modifiers : Option NodeList) : P Node :=
  withAllowance (fun a => { a with awaits := true }) do
    let exportEquals ← parseOptional .equalsToken
    if !exportEquals then expect .defaultKeyword
    let expression ← parse (.assignment true)
    parseSemicolon
    finish { kind := .exportAssignment, marks := { exportEquals } } pos
      [.optMany .modifiers modifiers, .one .expression expression]

/-- The name under which a whole module is global, after its word. -/
def parseNamespaceExport (pos : Nat) (modifiers : Option NodeList) : P Node := do
  expect .asKeyword
  expect .namespaceKeyword
  let name ← parseIdentifier
  parseSemicolon
  finishKind .namespaceExportDeclaration pos [.optMany .modifiers modifiers, .one .name name]

end

end Codemod.Grammar
