import Codemod.Layout.Expressions
import Codemod.Layout.Types

/-!
# Printing statements

One statement stands on each line and ends with a semicolon. The branches of a
conditional and the handlers of a block start lines of their own.
-/
namespace Codemod.Layout

open Syntax

/-- Whether a block is empty and on one line. -/
def isEmptyBlock (node : Node) : W Bool := do
  if !(node.items .statements).isEmpty then return false
  match node.info.span with
  | some span => onOneLine span
  | none => return true

/-- Where a list ends. -/
def listStop (node : Node) (role : Role) : Option Nat :=
  (node.list? role).bind fun list => list.info.span.map (·.stop)

section

variable (emit : Emit)

/-- Prints statements in braces. -/
def block (node : Node) (short : Bool) : W Unit := do
  mark "\x7b" (startOf node) node
  series emit node .statements (if short then .inlineStatements else .members)
  let _ ← printToken "\x7d" (listStop node .statements) node (!short)

/-- Prints a word and a condition in parentheses. -/
def headed (node : Node) (word : String) (pos : Option Nat) : W Unit := do
  let next ← printToken word pos node false
  space
  mark "(" next node
  child emit node .expression
  mark ")" (childStop node .expression) node

/-- Prints a conditional statement. -/
def ifStatement (node : Node) : W Unit := do
  headed emit node "if" (startOf node)
  embedded emit (node.child? .thenStatement)
  match node.child? .elseStatement with
  | some otherwise =>
    newline
    mark "else" (childStop node .thenStatement) node
    if otherwise.kind == .ifStatement then
      space
      emit .plain otherwise
    else embedded emit (some otherwise)
  | none => pure ()

/-- Prints a loop with its condition at the end. -/
def doStatement (node : Node) : W Unit := do
  mark "do" (startOf node) node
  embedded emit (node.child? .statement)
  if (node.child? .statement).any (·.kind == .block) then space else newline
  headed emit node "while" (childStop node .statement)
  write ";"

/-- Prints a loop over a counter. -/
def forStatement (node : Node) : W Unit := do
  let after (role : Role) (pos : Option Nat) : Option Nat :=
    if (node.child? role).isSome then childStop node role else pos
  let pos ← printToken "for" (startOf node) node false
  space
  let pos ← printToken "(" pos node false
  child emit node .initializer
  let pos ← printToken ";" (after .initializer pos) node false
  spacedChild emit node .condition
  let pos ← printToken ";" (after .condition pos) node false
  spacedChild emit node .incrementor
  mark ")" (after .incrementor pos) node
  embedded emit (node.child? .statement)

/-- Prints a loop over keys or members. -/
def forEach (node : Node) (word : String) : W Unit := do
  let pos ← printToken "for" (startOf node) node false
  space
  match node.child? .awaitModifier with
  | some token =>
    emit .plain token
    space
  | none => pure ()
  mark "(" pos node
  child emit node .initializer
  space
  mark word (childStop node .initializer) node
  space
  child emit node .expression
  mark ")" (childStop node .expression) node
  embedded emit (node.child? .statement)

/-- Prints a block with its handlers. -/
def tryStatement (node : Node) : W Unit := do
  mark "try" (startOf node) node
  space
  child emit node .tryBlock
  match node.child? .catchClause with
  | some clause =>
    newline
    emit .plain clause
  | none => pure ()
  match node.child? .finallyBlock with
  | some last =>
    newline
    let before := if (node.child? .catchClause).isSome then Role.catchClause else Role.tryBlock
    mark "finally" (childStop node before) node
    space
    emit .plain last
  | none => pure ()

/-- Prints the colon and the statements of a case. -/
def clauseRest (node : Node) (pos : Option Nat) : W Unit := do
  let single ← match node.items .statements with
    | [statement] =>
      match node.info.span, statement.info.span with
      | some outer, some inner => do sameLine (← tokenAfter outer.start) (← tokenAfter inner.start)
      | _, _ => pure true
    | _ => pure false
  if single then
    write ": "
    series emit node .statements { Format.clause with multiLine := false, indented := false }
  else
    mark ":" pos node
    series emit node .statements .clause

/-- Prints the names of a namespace with dots between them, and its body; `fuel` bounds the names. -/
def namespaceRest : Nat → Node → W Unit
  | 0, _ => pure ()
  | fuel + 1, node =>
    match node.child? .body with
    | none => write ";"
    | some body =>
      if body.kind == .moduleDeclaration then do
        write "."
        child emit body .name
        namespaceRest fuel body
      else do
        space
        emit .plain body

/-- Prints an import. -/
def importDeclaration (node : Node) : W Unit := do
  let _ ← printModifiers emit node false
  mark "import" ((listStop node .modifiers).or (startOf node)) node
  space
  match node.child? .importClause with
  | some clause =>
    emit .plain clause
    space
    mark "from" (stopOf clause) node
    space
  | none => pure ()
  child emit node .moduleSpecifier
  spacedChild emit node .attributes
  write ";"

/-- Prints the names that an import binds. -/
def importClause (node : Node) : W Unit := do
  match node.info.word with
  | .typeKeyword => do
    mark "type" (startOf node) node
    space
  | .deferKeyword => do
    mark "defer" (startOf node) node
    space
  | _ => pure ()
  child emit node .name
  if (node.child? .name).isSome && (node.child? .namedBindings).isSome then
    mark "," (childStop node .name) node
    space
  child emit node .namedBindings

/-- Prints an export of names. -/
def exportDeclaration (node : Node) : W Unit := do
  let _ ← printModifiers emit node false
  let pos ← printToken "export" (startOf node) node false
  space
  let pos ←
    if node.info.marks.typeOnly then do
      let pos ← printToken "type" pos node false
      space
      pure pos
    else pure pos
  let pos ← match node.child? .exportClause with
    | some clause => do
      emit .plain clause
      pure (stopOf clause)
    | none => printToken "*" pos node false
  match node.child? .moduleSpecifier with
  | some specifier =>
    space
    mark "from" pos node
    space
    emit .plain specifier
  | none => pure ()
  spacedChild emit node .attributes
  write ";"

/-- Prints a star that stands for all names, with the name that it is given. -/
def starAs (node : Node) : W Unit := do
  let pos ← printToken "*" (startOf node) node false
  space
  mark "as" pos node
  space
  child emit node .name

/-- Prints an imported or exported name. -/
def specifier (node : Node) : W Unit := do
  if node.info.marks.typeOnly then write "type "
  match node.child? .propertyName with
  | some name =>
    emit .plain name
    space
    mark "as" (stopOf name) node
    space
  | none => pure ()
  child emit node .name

/-- Prints a statement or a part of one; false for other nodes. -/
def printStatement (node : Node) : W Bool := do
  match node.kind with
  | .block => block emit node (!node.info.marks.multiLine && (← isEmptyBlock node))
  | .variableStatement => do
    let _ ← printModifiers emit node false
    child emit node .declarationList
    write ";"
  | .emptyStatement => write ";"
  | .expressionStatement => do
    child emit node .expression
    write ";"
  | .ifStatement => ifStatement emit node
  | .doStatement => doStatement emit node
  | .whileStatement => do
    headed emit node "while" (startOf node)
    embedded emit (node.child? .statement)
  | .forStatement => forStatement emit node
  | .forInStatement => forEach emit node "in"
  | .forOfStatement => forEach emit node "of"
  | .continueStatement => do
    mark "continue" (startOf node) node
    spacedChild emit node .label
    write ";"
  | .breakStatement => do
    mark "break" (startOf node) node
    spacedChild emit node .label
    write ";"
  | .returnStatement => do
    mark "return" (startOf node) node
    spacedChild emit node .expression
    write ";"
  | .withStatement => do
    headed emit node "with" (startOf node)
    embedded emit (node.child? .statement)
  | .switchStatement => do
    headed emit node "switch" (startOf node)
    space
    child emit node .caseBlock
  | .labeledStatement => do
    child emit node .label
    mark ":" (childStop node .label) node
    space
    child emit node .statement
  | .throwStatement => do
    mark "throw" (startOf node) node
    spacedChild emit node .expression
    write ";"
  | .tryStatement => tryStatement emit node
  | .debuggerStatement => write "debugger;"
  | .variableDeclaration => do
    child emit node .name
    child emit node .exclamationToken
    typeAnnotation emit node
    initializer emit node
      (if (node.child? .type).isSome then childStop node .type else childStop node .name)
  | .variableDeclarationList => do
    write (if node.info.word == .awaitKeyword then "await using" else node.info.word.spelling)
    space
    series emit node .declarations .commas
  | .heritageClause => do
    write (" " ++ node.info.word.spelling ++ " ")
    series emit node .types .commas
  | .interfaceDeclaration => do
    let _ ← printModifiers emit node false
    write "interface "
    child emit node .name
    typeParameters emit node
    series emit node .heritageClauses { spaceBetween := true }
    write " \x7b"
    series emit node .members .members
    write "\x7d"
  | .typeAliasDeclaration => do
    let _ ← printModifiers emit node false
    write "type "
    child emit node .name
    typeParameters emit node
    write " = "
    child emit node .type
    write ";"
  | .enumDeclaration => do
    let _ ← printModifiers emit node false
    write "enum "
    child emit node .name
    write " \x7b"
    series emit node .members { Format.members with delimiter := .comma }
    write "\x7d"
  | .enumMember => do
    child emit node .name
    initializer emit node (childStop node .name)
  | .moduleDeclaration => do
    let _ ← printModifiers emit node false
    if node.info.word != .globalKeyword then write (node.info.word.spelling ++ " ")
    child emit node .name
    namespaceRest emit node.depth node
  | .moduleBlock => block emit node (← isEmptyBlock node)
  | .caseBlock => do
    mark "\x7b" (startOf node) node
    series emit node .clauses .members
    let _ ← printToken "\x7d" (listStop node .clauses) node true
  | .caseClause => do
    mark "case" (startOf node) node
    space
    child emit node .expression
    clauseRest emit node (childStop node .expression)
  | .defaultClause => do
    let pos ← printToken "default" (startOf node) node false
    clauseRest emit node pos
  | .catchClause => do
    let pos ← printToken "catch" (startOf node) node false
    space
    match node.child? .variableDeclaration with
    | some declaration =>
      mark "(" pos node
      emit .plain declaration
      mark ")" (stopOf declaration) node
      space
    | none => pure ()
    child emit node .block
  | .namespaceExportDeclaration => do
    let pos ← printToken "export" (startOf node) node false
    space
    let pos ← printToken "as" pos node false
    space
    mark "namespace" pos node
    space
    child emit node .name
    write ";"
  | .importEqualsDeclaration => do
    let _ ← printModifiers emit node false
    mark "import" ((listStop node .modifiers).or (startOf node)) node
    space
    if node.info.marks.typeOnly then
      mark "type" (startOf node) node
      space
    child emit node .name
    space
    mark "=" (childStop node .name) node
    space
    child emit node .moduleReference
    write ";"
  | .importDeclaration => importDeclaration emit node
  | .importClause => importClause emit node
  | .namespaceImport | .namespaceExport => starAs emit node
  | .namedImports | .namedExports => do
    write "\x7b"
    series emit node .elements .specifiers
    write "\x7d"
  | .importSpecifier | .exportSpecifier => specifier emit node
  | .exportAssignment => do
    let pos ← printToken "export" (startOf node) node false
    space
    mark (if node.info.marks.exportEquals then "=" else "default") pos node
    space
    child emit node .expression
    write ";"
  | .exportDeclaration => exportDeclaration emit node
  | .externalModuleReference => do
    write "require("
    child emit node .expression
    write ")"
  | .importAttributes => do
    mark node.info.word.spelling (startOf node) node
    space
    series emit node .elements .properties
  | .importAttribute => do
    child emit node .name
    write ": "
    match node.child? .value with
    | some value =>
      trailingAt (startOf value) .after
      emit .plain value
    | none => pure ()
  | .missingDeclaration => pure ()
  | _ => return false
  return true

end

end Codemod.Layout
