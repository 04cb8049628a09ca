import Codemod.Syntax.Lexer
import Codemod.Syntax.Node

/-!
# Type syntax where types are not part of the language

The grammar reads type syntax in every dialect. In an untyped dialect each use
of it is a complaint, and so is a decorator where none may stand. A construct
complained about is not looked into any further.
-/
namespace Codemod.Grammar.Untyped

open Syntax

/-- The message that a construct needs types. -/
def typedOnly (what : String) : String :=
  what ++ " can only be used in TypeScript files."

/-- The name at which a complaint about a declaration points. -/
def pointsAtName : Kind → Bool
  | .variableDeclaration | .bindingElement | .classDeclaration | .classExpression
  | .interfaceDeclaration | .moduleDeclaration | .enumDeclaration | .enumMember
  | .functionDeclaration | .functionExpression | .methodDeclaration | .getAccessor | .setAccessor
  | .typeAliasDeclaration | .propertyDeclaration | .propertySignature | .namespaceImport => true
  | _ => false

/-- The end of the word `constructor` from a position on. -/
def constructorStop (source : Source) : Nat → Nat → Nat
  | 0, pos => pos
  | fuel + 1, pos =>
    let token := (source.scan false .unknown pos).1
    if token.kind == .constructorKeyword || token.kind == .endOfFileToken then token.stop
    else constructorStop source fuel token.stop

/-- A complaint about a node: it points at the name of a declaration, at a constructor up to that word,
else at the whole node. -/
def complaint (source : Source) (node : Node) (message : String) : Diagnostic :=
  let span := node.info.span.getD default
  let (start, stop) :=
    if node.kind == .constructorDeclaration then
      (source.skipTrivia span.start, constructorStop source source.size.succ span.start)
    else
      let target := if pointsAtName node.kind then node.child? .name else some node
      match target with
      | some target =>
        let inner := target.info.span.getD default
        (if inner.start == inner.stop then inner.start else source.skipTrivia inner.start, inner.stop)
      | none =>
        let token := (source.scan false .unknown span.start).1
        (token.start, token.stop)
  { start, length := stop - start, message }

/-- A complaint about a list. -/
def listComplaint (list : NodeList) (message : String) : Diagnostic :=
  let span := list.info.span.getD default
  { start := span.start, length := span.stop - span.start, message }

/-- Whether a parent of this kind has a type that may be complained about. -/
def mayBeTyped : Kind → Bool
  | .parameter | .propertyDeclaration | .methodDeclaration | .methodSignature
  | .constructorDeclaration | .getAccessor | .setAccessor | .functionExpression
  | .functionDeclaration | .arrowFunction | .variableDeclaration => true
  | _ => false

/-- The complaint about a child as a part of its parent. -/
def asPart (source : Source) (parent : Kind) (role : Role) (node : Node) : Option Diagnostic :=
  match role with
  | .questionToken =>
    match parent with
    | .parameter | .propertyDeclaration | .methodDeclaration =>
      some (complaint source node (typedOnly "The '?' modifier"))
    | _ => none
  | .type =>
    if mayBeTyped parent then some (complaint source node (typedOnly "Type annotations")) else none
  | _ => none

/-- The complaint about a node as such. -/
def asNode (source : Source) (parent node : Node) : Option Diagnostic :=
  let at? (target : Node) (what : String) : Option Diagnostic :=
    some (complaint source target (typedOnly what))
  let marks := node.info.marks
  match node.kind with
  | .importClause => if marks.typeOnly then at? parent "'import type' declarations" else none
  | .exportDeclaration => if marks.typeOnly then at? node "'export type' declarations" else none
  | .importSpecifier => if marks.typeOnly then at? node "'import...type' declarations" else none
  | .exportSpecifier => if marks.typeOnly then at? node "'export...type' declarations" else none
  | .importEqualsDeclaration => at? node "'import ... ='"
  | .exportAssignment => if marks.exportEquals then at? node "'export ='" else none
  | .heritageClause =>
    if node.info.word == .implementsKeyword then at? node "'implements' clauses" else none
  | .interfaceDeclaration => at? node "'interface' declarations"
  | .moduleDeclaration =>
    at? node (if node.info.word == .namespaceKeyword then "'namespace' declarations"
      else "'module' declarations")
  | .typeAliasDeclaration => at? node "Type aliases"
  | .constructorDeclaration | .methodDeclaration | .functionDeclaration =>
    if (node.child? .body).isNone then at? node "Signature declarations" else none
  | .enumDeclaration => at? node "'enum' declarations"
  | .nonNullExpression => at? node "Non-null assertions"
  | .asExpression => (node.child? .type).bind (at? · "Type assertion expressions")
  | .satisfiesExpression => (node.child? .type).bind (at? · "Type satisfaction expressions")
  | _ => none

/-- Whether a decorator of a node of this kind is never valid. -/
def refusesDecorators : Kind → Bool
  | .propertyAssignment | .shorthandPropertyAssignment | .functionDeclaration
  | .constructorDeclaration | .indexSignature | .classStaticBlockDeclaration | .missingDeclaration
  | .variableStatement | .interfaceDeclaration | .typeAliasDeclaration | .enumDeclaration
  | .moduleDeclaration | .importEqualsDeclaration | .importDeclaration
  | .namespaceExportDeclaration | .exportDeclaration | .exportAssignment => true
  | _ => false

/-- The complaints about the decorators of a node. -/
def decoratorComplaints (source : Source) (node : Node) : List Diagnostic :=
  let modifiers := node.items .modifiers
  let isDecorator (child : Node) : Bool := child.kind == .decorator
  let misplaced (child : Node) : Diagnostic := complaint source child "Decorators are not valid here."
  match modifiers.find? isDecorator with
  | none => []
  | some decorator =>
    if refusesDecorators node.kind || node.kind == .parameter then [misplaced decorator]
    else if node.kind == .classDeclaration then
      match modifiers.findIdx? (·.kind == .exportKeyword) with
      | none => []
      | some exported =>
        let first := (modifiers.findIdx? isDecorator).getD 0
        let betweenDefault :=
          match modifiers.findIdx? (·.kind == .defaultKeyword) with
          | some default => exported < first && first < default
          | none => false
        if betweenDefault then [misplaced decorator]
        else if first < exported then
          match (modifiers.drop exported).find? isDecorator with
          | some trailing =>
            [complaint source trailing ("Decorators may not appear after 'export' or 'export default' "
              ++ "if they also appear before 'export'.")]
          | none => []
        else []
    else []

/-- The complaint about a modifier. -/
def modifierComplaint (source : Source) (modifier : Node) : Diagnostic :=
  complaint source modifier (typedOnly ("The '" ++ modifier.kind.spelling ++ "' modifier"))

/-- Whether a word modifies only declarations with types; `const` counts unless it is allowed. -/
def isTypedModifier (constant : Bool) : Kind → Bool
  | .constKeyword => !constant
  | .publicKeyword | .privateKeyword | .protectedKeyword | .readonlyKeyword | .declareKeyword
  | .abstractKeyword | .overrideKeyword | .inKeyword | .outKeyword => true
  | _ => false

/-- The complaints about a list of a node, and whether the list is not looked into. -/
def asList (source : Source) (node : Node) (role : Role) (list : NodeList) : List Diagnostic × Bool :=
  match role, node.kind with
  | .typeParameters, .classDeclaration | .typeParameters, .classExpression
  | .typeParameters, .methodDeclaration | .typeParameters, .constructorDeclaration
  | .typeParameters, .getAccessor | .typeParameters, .setAccessor
  | .typeParameters, .functionExpression | .typeParameters, .functionDeclaration
  | .typeParameters, .arrowFunction =>
    ([listComplaint list (typedOnly "Type parameter declarations")], true)
  | .modifiers, .classDeclaration | .modifiers, .classExpression | .modifiers, .methodDeclaration
  | .modifiers, .constructorDeclaration | .modifiers, .getAccessor | .modifiers, .setAccessor
  | .modifiers, .functionExpression | .modifiers, .functionDeclaration
  | .modifiers, .arrowFunction | .modifiers, .variableStatement =>
    ((list.nodes.filter fun modifier =>
      isTypedModifier (node.kind == .variableStatement) modifier.kind).map
      (modifierComplaint source), true)
  | .modifiers, .propertyDeclaration =>
    ((list.nodes.filter fun modifier =>
      modifier.kind != .decorator && modifier.kind != .staticKeyword
        && modifier.kind != .accessorKeyword).map (modifierComplaint source), true)
  | .modifiers, .parameter =>
    if list.nodes.any (·.kind != .decorator) then
      ([listComplaint list (typedOnly "Parameter modifiers")], true)
    else ([], false)
  | .typeArguments, .callExpression | .typeArguments, .newExpression
  | .typeArguments, .expressionWithTypeArguments | .typeArguments, .jsxSelfClosingElement
  | .typeArguments, .jsxOpeningElement | .typeArguments, .taggedTemplateExpression =>
    ([listComplaint list (typedOnly "Type arguments")], true)
  | _, _ => ([], false)

/-- The complaints about the lists of a node, and the roles that are not looked into. -/
def listComplaints (source : Source) (node : Node) : List Diagnostic × List Role :=
  node.info.lists.foldl
    (fun (found, closed) (role, info) =>
      let (more, skip) := asList source node role { nodes := node.items role, info }
      (found ++ more, if skip then role :: closed else closed))
    (if node.info.lists.isEmpty then [] else decoratorComplaints source node, [])

mutual

/-- All complaints about the parts of a node. -/
def inside (source : Source) : Node → List Diagnostic
  | .mk info children =>
    let node := Node.mk info children
    let (found, closed) := listComplaints source node
    found ++ insideList source node closed info.layout children

/-- All complaints about children of a node. -/
def insideList (source : Source) (parent : Node) (closed : List Role) :
    List Role → List Node → List Diagnostic
  | role :: roles, child :: rest =>
    let here :=
      if closed.contains role then []
      else
        match asPart source parent.kind role child with
        | some diagnostic => [diagnostic]
        | none =>
          match asNode source parent child with
          | some diagnostic => [diagnostic]
          | none => inside source child
    here ++ insideList source parent closed roles rest
  | _, _ => []

end

end Codemod.Grammar.Untyped
