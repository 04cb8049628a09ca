import Codemod.Path
import Codemod.Syntax.Lexer
import Codemod.Syntax.Node

/-!
# The reader of the grammar

A reader walks over the tokens of a text with one token in hand. It carries
what the surrounding constructs allow, the kinds of lists it is inside of, and
the complaints so far. A complaint at the very place of the one before adds
nothing and is dropped. Looking ahead runs a reader and goes back; trying runs
one and goes back unless it succeeds.
-/
namespace Codemod.Grammar

open Syntax

/-- The dialect of a text. -/
structure Dialect where
  /-- Tags may stand where expressions may. -/
  jsx : Bool
  /-- Type syntax is not part of the language. -/
  untyped : Bool
  deriving DecidableEq, Repr, Inhabited

/-- The dialect that the ending of a path selects, in any case; types without tags by default. -/
def Dialect.ofPath (path : String) : Dialect :=
  match (Path.extension path).toLower with
  | ".tsx" => { jsx := true, untyped := false }
  | ".js" | ".mjs" | ".cjs" | ".jsx" => { jsx := true, untyped := true }
  | _ => { jsx := false, untyped := false }

/-- What the surrounding constructs allow or forbid. -/
structure Allowance where
  /-- `in` does not join operands here. -/
  noIn : Bool := false
  /-- `yield` is an operator here. -/
  yields : Bool := false
  /-- `await` is an operator here. -/
  awaits : Bool := false
  /-- The expression of a decorator is being read. -/
  decorating : Bool := false
  /-- A conditional type may not stand here. -/
  noConditional : Bool := false
  deriving DecidableEq, Repr, Inhabited

/-- The kinds of lists of a text. -/
inductive ListKind where
  | sourceElements | blockStatements | switchClauses | switchClauseStatements | typeMembers
  | classMembers | enumMembers | heritageClauseElement | variableDeclarations
  | objectBindingElements | arrayBindingElements | argumentExpressions | objectLiteralMembers
  | jsxAttributes | jsxChildren | arrayLiteralMembers | parameters | docParameters | typeParameters
  | typeArguments | tupleElementTypes | heritageClauses | importOrExportSpecifiers
  | importAttributes
  deriving DecidableEq, Repr

/-- Reading in progress. -/
structure State where
  source : Source
  dialect : Dialect
  token : Token
  allowance : Allowance := {}
  lists : List ListKind := []
  diagnostics : List Diagnostic := []
  /-- The text of the last token that has one: a name or a literal. -/
  lastText : String := ""
  /-- Places where a parenthesis is known not to begin the parameters of a function. -/
  notFunctions : List Nat := []
  /-- A decorated `await` begins no declaration. That is no complaint: the text cannot be read at
  all. -/
  derailed : Bool := false

/-- A reader of some part of the grammar. -/
abbrev P := StateM State

/-- The state to go back to after reading on: what is known for good is kept. -/
def State.after (state later : State) : State :=
  { state with notFunctions := later.notFunctions, derailed := later.derailed }

/-- Runs a reader and goes back to where it started. -/
def lookAhead {α : Type} (p : P α) : P α := fun state =>
  let (result, later) := p state
  (result, state.after later)

/-- Runs a reader and goes back to where it started unless it succeeds. -/
def tryParse {α : Type} (p : P (Option α)) : P (Option α) := fun state =>
  match p state with
  | (some result, later) => (some result, later)
  | (none, later) => (none, state.after later)

/-- Runs a test that moves on and goes back unless it holds. -/
def tryBool (p : P Bool) : P Bool := fun state =>
  match p state with
  | (true, later) => (true, later)
  | (false, later) => (false, state.after later)

/-- The second test counts only when the first fails. -/
def orM (first second : P Bool) : P Bool := do
  if ← first then pure true else second

/-- The second test counts only when the first holds. -/
def andM (first second : P Bool) : P Bool := do
  if ← first then second else pure false

/-- The negation of a test. -/
def notM (test : P Bool) : P Bool := do
  return !(← test)

/-- The kind of the token in hand. -/
def token : P Kind := do
  return (← get).token.kind

/-- Whether the token in hand has a kind. -/
def at? (kind : Kind) : P Bool := do
  return (← get).token.kind == kind

/-- Whether the token in hand has one of several kinds. -/
def atAny (kinds : List Kind) : P Bool := do
  return kinds.contains (← get).token.kind

/-- The start of the token in hand, blanks and comments before it included. -/
def nodePos : P Nat := do
  return (← get).token.fullStart

/-- The start of the token in hand itself. -/
def tokenStart : P Nat := do
  return (← get).token.start

/-- Whether a line break stands before the token in hand. -/
def hasNewline : P Bool := do
  return (← get).token.newline

/-- Records a complaint unless the last one is about the same place. -/
def report (diagnostic : Diagnostic) : P Unit := modify fun state =>
  match state.diagnostics with
  | last :: _ =>
    if last.start == diagnostic.start then state
    else { state with diagnostics := diagnostic :: state.diagnostics }
  | [] => { state with diagnostics := [diagnostic] }

/-- Records a complaint about a stretch of text. -/
def errorAt (start stop : Nat) (message : String) : P Unit :=
  report { start, length := stop - start, message }

/-- Records a complaint about the token in hand. -/
def errorHere (message : String) : P Unit := do
  let token := (← get).token
  errorAt token.start token.stop message

/-- The message that a fixed token is missing. -/
def expectedMessage (kind : Kind) : String :=
  "'" ++ kind.spelling ++ "' expected."

/-- Whether tokens of a kind have a text of their own. -/
def hasText : Kind → Bool
  | .privateIdentifier | .numericLiteral | .bigIntLiteral | .stringLiteral | .jsxText
  | .regularExpressionLiteral | .noSubstitutionTemplateLiteral | .templateHead | .templateMiddle
  | .templateTail => true
  | kind => kind.isName

/-- Takes a token with the complaints about it. -/
def take (result : Token × List Diagnostic) : P Unit := do
  result.2.reverse.forM report
  modify fun state =>
    { state with
      token := result.1
      lastText := if hasText result.1.kind then result.1.value else state.lastText }

/-- Moves to the next token without a look at the one in hand. -/
def advance : P Unit := do
  let state ← get
  take (state.source.scan state.dialect.jsx state.token.kind state.token.stop)

/-- Moves to the next token; a word of the language may not be spelled with escapes. -/
def nextToken : P Unit := do
  let token := (← get).token
  if token.escaped && token.kind.isWord then
    errorAt token.start token.stop "Keywords cannot contain escape characters."
  advance

/-- Reads the greater-than sign in hand together with the signs after it. -/
def rescanGreater : P Kind := do
  modify fun state => { state with token := state.source.joinGreater state.token }
  token

/-- Reads the token in hand again as a less-than sign when it begins with one. -/
def rescanLess : P Kind := do
  modify fun state =>
    if state.token.kind == .lessThanLessThanToken then
      { state with token := { state.token with kind := .lessThanToken, stop := state.token.start + 1 } }
    else state
  token

/-- Reads the token in hand again as its first sign alone. -/
def rescanFirstSign (kind : Kind) : P Unit :=
  modify fun state =>
    { state with token := { state.token with kind, stop := state.token.start + 1 } }

/-- Reads the token in hand again as a regular expression when it is a slash. -/
def rescanPattern : P Kind := do
  let state ← get
  take (state.source.rereadPattern state.token)
  token

/-- Reads the token in hand again as part of a template. -/
def rescanTemplate (tagged : Bool) : P Unit := do
  let state ← get
  take (state.source.rereadTemplate state.token tagged)

/-- Skips the token in hand if it has the kind. -/
def parseOptional (kind : Kind) : P Bool := do
  if ← at? kind then
    nextToken
    pure true
  else pure false

/-- Skips a token of the kind, or complains. -/
def parseExpectedWith (kind : Kind) (message : String) : P Bool := do
  if ← at? kind then
    nextToken
    pure true
  else
    errorHere message
    pure false

/-- Skips a token of the kind, or complains that it is missing. -/
def parseExpected (kind : Kind) : P Bool :=
  parseExpectedWith kind (expectedMessage kind)

/-- Skips a token of the kind, or complains that it is missing. -/
def expect (kind : Kind) : P Unit := do
  let _ ← parseExpected kind

/-- A node that ends where the token in hand begins. -/
def finish (info : Info) (pos : Nat) (parts : List Part) : P Node := do
  let stop ← nodePos
  return Node.make { info with span := some { start := pos, stop } } parts

/-- A node of a kind that ends where the token in hand begins. -/
def finishKind (kind : Kind) (pos : Nat) (parts : List Part) : P Node :=
  finish { kind } pos parts

/-- The token in hand as a node. -/
def parseTokenNode : P Node := do
  let pos ← nodePos
  let kind ← token
  nextToken
  finishKind kind pos []

/-- The token in hand as a node if it has the kind. -/
def parseOptionalToken (kind : Kind) : P (Option Node) := do
  if ← at? kind then
    return some (← parseTokenNode)
  else pure none

/-- A node that the text lacks, with a complaint about the token in hand. -/
def missing (kind : Kind) (message : Option String) : P Node := do
  match message with
  | some text => errorHere text
  | none => pure ()
  finishKind kind (← nodePos) []

/-- A token of the kind as a node, or a complaint that it is missing. -/
def parseExpectedToken (kind : Kind) : P Node := do
  match ← parseOptionalToken kind with
  | some node => pure node
  | none => missing kind (some (expectedMessage kind))

/-- A list that starts at a position and ends where the token in hand begins. -/
def finishList (pos : Nat) (nodes : List Node) (trailingComma : Bool) : P NodeList := do
  let stop ← nodePos
  return { nodes, info := { span := some { start := pos, stop }, trailingComma } }

/-- An empty list that the text lacks. -/
def missingList : P NodeList := do
  finishList (← nodePos) [] false

/-- Runs a reader under other allowances. -/
def withAllowance {α : Type} (change : Allowance → Allowance) (p : P α) : P α := do
  let saved := (← get).allowance
  modify fun state => { state with allowance := change state.allowance }
  let result ← p
  modify fun state => { state with allowance := saved }
  return result

/-- Runs a reader where `in` joins operands. -/
def allowIn {α : Type} (p : P α) : P α :=
  withAllowance (fun a => { a with noIn := false }) p

/-- Runs a reader where `in` does not join operands. -/
def disallowIn {α : Type} (p : P α) : P α :=
  withAllowance (fun a => { a with noIn := true }) p

/-- Runs a reader where conditional types may stand. -/
def allowConditional {α : Type} (p : P α) : P α :=
  withAllowance (fun a => { a with noConditional := false }) p

/-- Runs a reader where conditional types may not stand. -/
def disallowConditional {α : Type} (p : P α) : P α :=
  withAllowance (fun a => { a with noConditional := true }) p

/-- Whether `yield` is an operator here. -/
def inYield : P Bool := do
  return (← get).allowance.yields

/-- Whether `await` is an operator here. -/
def inAwait : P Bool := do
  return (← get).allowance.awaits

/-- Whether a statement may end at the token in hand. -/
def canParseSemicolon : P Bool := do
  let token := (← get).token
  return token.kind == .semicolonToken || token.kind == .closeBraceToken
    || token.kind == .endOfFileToken || token.newline

/-- Ends a statement if it may end here. -/
def tryParseSemicolon : P Bool := do
  if ← canParseSemicolon then
    let _ ← parseOptional .semicolonToken
    pure true
  else pure false

/-- Ends a statement, or complains that the semicolon is missing. -/
def parseSemicolon : P Unit := do
  if !(← tryParseSemicolon) then expect .semicolonToken

/-- Repeats a step until it gives a result; `fuel` bounds the repetitions. -/
def repeatUntil {σ α : Type} (step : σ → P (σ ⊕ α)) (last : σ → α) : Nat → σ → P α
  | 0, state => pure (last state)
  | fuel + 1, state => do
    match ← step state with
    | .inl next => repeatUntil step last fuel next
    | .inr result => pure result

/-- A number of repetitions that no loop over the tokens exceeds. -/
def loopBound : P Nat := do
  return 4 * (← get).source.size + 16

end Codemod.Grammar
