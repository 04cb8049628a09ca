import Codemod.Layout.Series

/-!
# Parts shared by many constructs

Names and literals as the text spells them, modifiers, type annotations, values
after an equals sign, signatures and the bodies of functions.
-/
namespace Codemod.Layout

open Syntax

/-- The reading of a node that differs from the one its kind alone gives. -/
inductive Manner where
  /-- As its kind says. -/
  | plain
  /-- The parameter of a mapped type. -/
  | mappedParameter
  /-- The attributes within an imported type. -/
  | importedType
  deriving DecidableEq

/-- A printer of nodes with the comments around them. -/
abbrev Emit := Manner → Node → W Unit

/-- The text that a node was read from, without the blanks and comments before it. -/
def sourceText (node : Node) : W String := do
  match node.info.span with
  | some span =>
    if span.start == span.stop then return ""
    let source := (← get).source
    return source.slice (source.skipTrivia span.start) span.stop
  | none => return ""

/-- The spelling of a name: that of the text it was read from, or its own. -/
def nameText (node : Node) : W String := do
  if node.info.origin.isSome && node.info.span.isSome then sourceText node else return node.text

/-- The spelling of a literal: that of the text it was read from. A number with separators and a
large integer are spelled by their values. -/
def literalText (node : Node) : W String := do
  if node.info.origin.isSome && node.kind != .bigIntLiteral && !node.info.marks.separated then
    sourceText node
  else if node.kind == .stringLiteral then return "\"" ++ node.text ++ "\""
  else return node.text

/-- The place of a node; new parentheses have the place of what they hold. -/
def placeOf : Node → Option Span
  | .mk info children =>
    match info.kind, info.span, children with
    | .parenthesizedExpression, none, [inner] => placeOf inner
    | _, span, _ => span

/-- Whether two nodes with a token between them break the line there; a new node never does. -/
def brokenBetween (parent : Node) (first second : Option Span) : W Bool := do
  match parent.info.span, first, second with
  | some _, some before, some after => return !(← endsWhereStarts before after)
  | _, _, _ => return false

/-- Starts an indented line, or leaves a space. -/
def breakOr (broken spaced : Bool) : W Unit := do
  if broken then
    deeper
    newline
  else if spaced then space

/-- Takes back the indentation of the lines that were started. -/
def unbreak (first second : Bool) : W Unit := do
  if first then shallower
  if second then shallower

section

variable (emit : Emit)

/-- Prints a child, if there is one. -/
def child (node : Node) (role : Role) : W Unit :=
  match node.child? role with
  | some inner => emit .plain inner
  | none => pure ()

/-- Prints a child after a space, if there is one. -/
def spacedChild (node : Node) (role : Role) : W Unit :=
  match node.child? role with
  | some inner => do
    space
    emit .plain inner
  | none => pure ()

/-- Prints the list of a role. -/
def series (node : Node) (role : Role) (format : Format) : W Unit :=
  printList node (node.list? role) format (emit .plain)

/-- Where a child ends. -/
def childStop (node : Node) (role : Role) : Option Nat :=
  (node.child? role).bind stopOf

/-- The runs of decorators and of words among modifiers. -/
def modifierRuns : List Node → List (Bool × List Node)
  | [] => []
  | node :: rest =>
    let decorator := node.kind == .decorator
    match modifierRuns rest with
    | (kind, run) :: runs =>
      if kind == decorator then (kind, node :: run) :: runs else (decorator, [node]) :: (kind, run) :: runs
    | [] => [(decorator, [node])]

/-- Prints decorators and words before a declaration; gives the position after them. -/
def printModifiers (node : Node) (decorators : Bool) : W (Option Nat) := do
  match node.list? .modifiers with
  | none => return startOf node
  | some list =>
    let runs := modifierRuns list.nodes
    match runs with
    | [(false, _)] => printList node (some list) .modifiers (emit .plain)
    | [(true, _)] => if decorators then printList node (some list) .decorators (emit .plain)
    | _ =>
      runs.forM fun (decorator, run) => do
        if !decorator || decorators then
          printItems node (if decorator then .decorators else .modifiers) (emit .plain) run
            { span := none, trailingComma := false }
    match runs, decorators with
    | [(true, _)], false => return startOf node
    | _, _ => return ((list.nodes.getLast?).bind stopOf).or (startOf node)

/-- Prints the type after a colon, if there is one. -/
def typeAnnotation (node : Node) : W Unit :=
  match node.child? .type with
  | some type => do
    write ": "
    emit .plain type
  | none => pure ()

/-- Prints the value after an equals sign, if there is one; `pos` is where the sign is looked for. -/
def initializer (node : Node) (pos : Option Nat) : W Unit :=
  match node.child? .initializer with
  | some value => do
    space
    mark "=" pos node
    space
    emit .plain value
  | none => pure ()

/-- Prints type arguments. -/
def typeArguments (node : Node) : W Unit :=
  series emit node .typeArguments .inAngles

/-- Prints type parameters. -/
def typeParameters (node : Node) : W Unit :=
  series emit node .typeParameters
    { Format.inAngles with trailingComma := node.kind == .arrowFunction }

/-- Prints parameters in parentheses. -/
def parameters (node : Node) : W Unit :=
  series emit node .parameters .inParentheses

/-- Whether the parameter of an arrow function was written without parentheses. -/
def isBareParameter (node : Node) : Bool :=
  match node.items .parameters with
  | [parameter] =>
    startOf parameter == startOf node && node.kind == .arrowFunction
      && (node.child? .type).isNone && (node.items .modifiers).isEmpty
      && (node.items .typeParameters).isEmpty && parameter.info.layout == [.name]
      && (parameter.child? .name).any (·.kind == .identifier)
  | _ => false

/-- Prints the parameters of an arrow function or function type. -/
def arrowParameters (node : Node) : W Unit :=
  if isBareParameter node then series emit node .parameters .commas else parameters emit node

/-- Prints type parameters, parameters and result type. -/
def signature (node : Node) : W Unit := do
  typeParameters emit node
  parameters emit node
  typeAnnotation emit node

/-- Whether a statement is a literal text alone. -/
def isDirective (node : Node) : Bool :=
  node.kind == .expressionStatement && (node.child? .expression).any (·.kind == .stringLiteral)

/-- Prints the directives at the start of a body, each on a line; gives their number. -/
def directives (statements : List Node) : W Nat := do
  let found := statements.takeWhile isDirective
  found.forM fun statement => do
    newline
    emit .plain statement
  return found.length

/-- Whether some two neighbours among statements break the line between them. -/
def anyBreak : List Node → W Bool
  | first :: second :: rest => do
    if ← breakBetween first second { keepLines := true } then return true
    anyBreak (second :: rest)
  | _ => return false

/-- Whether the body of a function stays on one line. -/
def bodyOnOneLine (body : Node) : W Bool := do
  if body.info.marks.multiLine then return false
  match body.info.span with
  | some span => if !(← onOneLine span) then return false
  | none => pure ()
  let statements := body.items .statements
  if ← breakBeforeFirst body statements.head? { keepLines := true } then return false
  if ← breakAfterLast body statements.getLast? { keepLines := true } then return false
  return !(← anyBreak statements)

/-- Prints the body of a function. -/
def functionBody (body : Node) : W Unit := do
  write " \x7b"
  deeper
  let short ← bodyOnOneLine body
  let list := body.list? .statements
  withDetached (list.bind (·.info.span)) do
    let skipped ← directives emit (body.items .statements)
    if skipped == 0 && short then
      shallower
      printList body list .inlineStatements (emit .plain)
      deeper
    else printListFrom body list { multiLine := true } (emit .plain) skipped
  shallower
  write "\x7d"

/-- Prints a signature's head and its body, or a semicolon in place of a body. -/
def headAndBody (node : Node) (head : W Unit) : W Unit := do
  head
  match node.child? .body with
  | some body =>
    if body.kind == .block then functionBody emit body
    else
      space
      emit .plain body
  | none => write ";"

/-- Prints an embedded statement: a block on the line, anything else on its own. -/
def embedded (statement : Option Node) : W Unit :=
  match statement with
  | none => pure ()
  | some inner =>
    if inner.kind == .block then do
      space
      emit .plain inner
    else do
      newline
      deeper
      emit .plain inner
      shallower

end

end Codemod.Layout
