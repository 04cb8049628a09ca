import Codemod.Grammar.Directive
import Codemod.Grammar.Statements
import Codemod.Grammar.Untyped

/-!
# Whole texts

Reading a text gives its tree, with every node's place in it, or the first
complaint with its line and column. The reader of each construct may ask for any
other; the number of such requests within one another is bounded by the length
of the text.

In a module `await` is an operator outside functions too. A statement in which
it was read as a name is read again as part of a module.
-/
namespace Codemod.Grammar

open Syntax

/-- Reads what a goal asks for, with a reader for the goals inside it. -/
def production (parse : Goal → P Node) : Goal → P Node
  | .statement => parseStatement parse
  | .expression => parseExpression parse
  | .assignment allowReturnType => parseAssignment parse allowReturnType
  | .binary precedence => parseBinary parse precedence
  | .simpleUnary => parseSimpleUnary parse
  | .unary => parseUnary parse
  | .leftHandSide => parseLeftHandSide parse
  | .type => parseType parse
  | .typeOperator => parseTypeOperator parse
  | .plainType => parseNonArrayType parse
  | .bindingName privateMessage => parseBindingName parse privateMessage
  | .block ignoreMissing => parseBlock parse ignoreMissing none
  | .functionBlock yields awaits ignoreMissing message =>
    parseFunctionBlock parse yields awaits ignoreMissing message
  | .classExpression => parseClassExpression parse
  | .decorator => parseDecoratorExpression parse
  | .tag inExpression mustBeUnary first parent => parseTag parse inExpression mustBeUnary first parent

/-- Reads a goal with at most `fuel` goals within one another. -/
def reader : Nat → Goal → P Node
  | 0, _ => missing .identifier none
  | fuel + 1, goal => production (reader fuel) goal

/-- A bound on the goals within one another in a text of a length. -/
def depthBound (size : Nat) : Nat :=
  16 * size + 64

/-- Reading before the first token. -/
def State.initial (dialect : Dialect) (source : Source) : State :=
  { source, dialect, token := { kind := .unknown, fullStart := 0, start := 0, stop := 0 } }

/-- Whether a list of modifiers exports. -/
def isExported (node : Node) : Bool :=
  (node.items .modifiers).any (·.kind == .exportKeyword)

/-- Whether a statement makes its text a module. -/
def isModuleStatement (node : Node) : Bool :=
  match node.kind with
  | .importDeclaration | .exportAssignment | .exportDeclaration => true
  | .importEqualsDeclaration =>
    isExported node
      || (node.child? .moduleReference).any (·.kind == .externalModuleReference)
  | _ => isExported node

mutual

/-- Whether a tree refers to `import.meta`. -/
def mentionsModule : Node → Bool
  | .mk info children =>
    (info.kind == .metaProperty && info.word == .importKeyword
      && children.any (·.text == "meta")) || mentionsModuleList children

/-- Whether one of several trees refers to `import.meta`. -/
def mentionsModuleList : List Node → Bool
  | [] => false
  | node :: rest => mentionsModule node || mentionsModuleList rest

end

/-- Whether a plain name in this part of a node is never an operator. -/
def isFreeName (kind : Kind) (role : Role) : Bool :=
  match role with
  | .name =>
    match kind with
    | .parameter | .propertyDeclaration | .methodDeclaration | .getAccessor | .setAccessor
    | .bindingElement | .propertyAccessExpression | .functionDeclaration | .functionExpression
    | .classDeclaration | .classExpression | .variableDeclaration | .propertyAssignment
    | .shorthandPropertyAssignment => true
    | _ => false
  | .propertyName => true
  | _ => false

/-- Whether this part of a node is never at the top level or holds no expressions. -/
def isClosedPart (kind : Kind) (role : Role) : Bool :=
  match role with
  | .type | .typeArguments | .typeParameters => true
  | .body =>
    match kind with
    | .functionDeclaration | .methodDeclaration | .getAccessor | .setAccessor => true
    | _ => false
  | _ => false

/-- Whether `await` inside a node of this kind is an operator already or never at the top level. -/
def settlesAwait : Kind → Bool
  | .functionDeclaration | .functionExpression | .arrowFunction | .constructorDeclaration
  | .moduleDeclaration | .enumDeclaration | .interfaceDeclaration | .typeAliasDeclaration
  | .importDeclaration | .importEqualsDeclaration | .exportAssignment | .exportDeclaration
  | .namespaceExportDeclaration => true
  | _ => false

/-- Whether a declaration has no code: a function without a body, or anything declared only. -/
def lacksCode (node : Node) : Bool :=
  match node.kind with
  | .functionDeclaration => (node.child? .body).isNone || isDeclared
  | .methodDeclaration | .getAccessor | .setAccessor => (node.child? .body).isNone
  | .classDeclaration | .variableStatement => isDeclared
  | _ => false
where
  /-- Whether a modifier says that the declaration is made elsewhere. -/
  isDeclared : Bool := (node.items .modifiers).any (·.kind == .declareKeyword)

mutual

/-- Whether `await` is a name somewhere at the top level of a part of a statement. -/
def namesAwait : Node → Bool
  | .mk info children =>
    if info.kind == .identifier then info.text == "await"
    else if settlesAwait info.kind || lacksCode (.mk info children) then false
    else namesAwaitList info.kind info.layout children

/-- Whether `await` is a name at the top level of one of several children. -/
def namesAwaitList (kind : Kind) : List Role → List Node → Bool
  | role :: roles, node :: rest =>
    (!isClosedPart kind role && !(isFreeName kind role && node.kind == .identifier) && namesAwait node)
      || namesAwaitList kind roles rest
  | _, _ => false

end

/-- Whether a statement of a module is read again: `await` is a name at its top level, or before the
body of a function that it declares. -/
def readsAwait (statement : Node) : Bool :=
  if statement.kind == .functionDeclaration then
    !lacksCode statement
      && namesAwaitList statement.kind statement.info.layout statement.children
  else namesAwait statement

section

variable (parse : Goal → P Node)

/-- The statements of a text. -/
def parseStatements : P NodeList :=
  parseList .sourceElements (parse .statement)

/-- Moves to the token at a position. -/
def moveTo (pos : Nat) : P Unit := do
  modify fun state =>
    { state with token := { kind := .unknown, fullStart := pos, start := pos, stop := pos } }
  nextToken

/-- The end of a node. -/
def endOf (node : Node) : Nat :=
  (node.info.span.getD default).stop

/-- The start of a node, blanks and comments before it included. -/
def startOf (node : Node) : Nat :=
  (node.info.span.getD default).start

/-- Statements read again as part of a module up to where one of the remaining statements starts;
the result holds the new statements, last first, and the statements not reached. -/
def rereadStatements : Nat → List Node → List Node → P (List Node × List Node)
  | 0, read, rest => pure (read, rest)
  | fuel + 1, read, rest => do
    if ← at? .endOfFileToken then return (read, rest)
    let start ← nodePos
    let statement ← parse .statement
    if start == (← nodePos) then nextToken
    let rest := match rest with
      | next :: later => if endOf statement > startOf next then later.dropWhile readsAwait else rest
      | [] => []
    match rest with
    | next :: _ =>
      if endOf statement == startOf next then return (statement :: read, rest)
      rereadStatements fuel (statement :: read) rest
    | [] => rereadStatements fuel (statement :: read) rest

/-- The statements of a module: those in which `await` was read as a name are read again. The
complaints about them are dropped, those about the others kept. -/
def rereadModule (found : List Diagnostic) : Nat → List Node → List Node → P (List Node)
  | 0, done, rest => pure (done.reverse ++ rest)
  | fuel + 1, done, rest => do
    let plain := rest.takeWhile (!readsAwait ·)
    let later := rest.dropWhile (!readsAwait ·)
    let from? := (rest.head?.map startOf).getD 0
    match later with
    | [] =>
      let kept := if rest.isEmpty then [] else found.filter (·.start ≥ from?)
      modify fun state => { state with diagnostics := kept ++ state.diagnostics }
      return done.reverse ++ rest
    | first :: _ =>
      let kept := found.filter fun d => d.start ≥ from? && d.start < startOf first
      modify fun state => { state with diagnostics := kept ++ state.diagnostics }
      moveTo (startOf first)
      let unread := later.dropWhile readsAwait
      let (read, rest) ← withAllowance (fun a => { a with awaits := true })
        (rereadStatements parse (← loopBound) [] unread)
      rereadModule found fuel (read ++ plain.reverse ++ done) rest

/-- A whole text. -/
def parseSourceFile : P Node := do
  nextToken
  let statements ← parseStatements parse
  let last ← parseTokenNode
  let isModule := statements.nodes.any isModuleStatement || mentionsModuleList statements.nodes
  let nodes ←
    if isModule && statements.nodes.any namesAwait then do
      let found := (← get).diagnostics
      modify fun state => { state with diagnostics := [] }
      rereadModule parse found (← loopBound) [] statements.nodes
    else pure statements.nodes
  return Node.make
    { kind := .sourceFile, span := some { start := 0, stop := (← get).source.size } }
    [.many .statements { statements with nodes }, .one .endOfFileToken last]

end

/-- Why a text cannot be read. -/
inductive Failure where
  /-- The first complaint about the text. -/
  | complaint (position : Position) (detail : String)
  /-- A directive with a value that has no length. -/
  | emptyDirective
  /-- A decorated `await` that begins no declaration. -/
  | decoratedAwait
  deriving DecidableEq, Repr

/-- A text that was read, with its tree. -/
structure Parsed where
  source : Source
  root : Node
  deriving Inhabited

/-- Whether one complaint comes before another: by place, then by length. -/
def precedes (first second : Diagnostic) : Bool :=
  first.start < second.start || (first.start == second.start && first.length < second.length)

/-- The first of the complaints; of several at one place the one that is listed first. -/
def firstComplaint (diagnostics : List Diagnostic) : Option Diagnostic :=
  diagnostics.foldl
    (fun best diagnostic =>
      match best with
      | none => some diagnostic
      | some first => if precedes diagnostic first then some diagnostic else some first) none

/-- Reads a text. -/
def parse (dialect : Dialect) (text : String) : Except Failure Parsed :=
  let source := Source.ofString text
  let directives := Directive.ofSource source
  let (root, state) :=
    parseSourceFile (reader (depthBound source.size)) (State.initial dialect source)
  if state.derailed then .error .decoratedAwait
  else if directives.any (·.lacksValue) then .error .emptyDirective
  else
    let untyped := if dialect.untyped then Untyped.inside source root else []
    match firstComplaint (state.diagnostics ++ Directive.complaints directives ++ untyped) with
    | some first => .error (.complaint (source.positionAt first.start) first.message)
    | none => .ok { source, root := root.locate [] }

end Codemod.Grammar
