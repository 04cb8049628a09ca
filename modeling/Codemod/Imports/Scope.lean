import Codemod.Syntax.Node

/-!
# Scopes

A name is shadowed where a construct around it, below the whole file, binds the
same name: a function by its parameters, its own name or a variable hoisted out
of its body; a class expression by its name; a block by what stands directly in
it; a handler and a loop by the variables in their heads.
-/
namespace Codemod.Imports

open Syntax

/-- Whether a node is a function or has the signature of one. -/
def isFunctionLike : Kind → Bool
  | .methodSignature | .callSignature | .constructSignature | .indexSignature | .functionType
  | .docFunctionType | .constructorType | .functionDeclaration | .methodDeclaration
  | .constructorDeclaration | .getAccessor | .setAccessor | .functionExpression
  | .arrowFunction => true
  | _ => false

/-- Whether a node is a class. -/
def isClassLike (kind : Kind) : Bool :=
  kind == .classDeclaration || kind == .classExpression

mutual

/-- Whether a name or pattern binds a name. -/
def binds (name : String) : Node → Bool
  | .mk info children =>
    match info.kind with
    | .identifier => info.text == name
    | .objectBindingPattern | .arrayBindingPattern => elementsBind name children
    | _ => false

/-- Whether a member of a pattern binds a name. -/
def elementsBind (name : String) : List Node → Bool
  | [] => false
  | .mk info children :: rest =>
    (info.kind == .bindingElement && namePartBinds name info.layout children)
      || elementsBind name rest

/-- Whether the name part of a member of a pattern binds a name. -/
def namePartBinds (name : String) : List Role → List Node → Bool
  | role :: roles, child :: rest =>
    if role == .name then binds name child else namePartBinds name roles rest
  | _, _ => false

end

/-- Whether the name part of a declaration binds a name. -/
def declares (name : String) (declaration : Node) : Bool :=
  (declaration.child? .name).any (binds name)

/-- Whether variables declared together bind a name. -/
def listDeclares (name : String) (list : Node) : Bool :=
  (list.items .declarations).any (declares name)

/-- Whether a statement itself binds a name in the block it stands in. -/
def statementDeclares (name : String) (statement : Node) : Bool :=
  match statement.kind with
  | .variableStatement => (statement.child? .declarationList).any (listDeclares name)
  | .functionDeclaration | .classDeclaration | .enumDeclaration =>
    (statement.child? .name).any (·.text == name)
  | _ => false

/-- Whether a node is a list of hoisted variables one of which binds a name. -/
def isHoistedList (name : String) (node : Node) : Bool :=
  node.kind == .variableDeclarationList && node.info.word == .varKeyword && listDeclares name node

mutual

/-- Whether a hoisted variable in a node, outside functions and classes in it, binds a name. -/
def hoistsIn (name : String) : Node → Bool
  | .mk info children =>
    if isFunctionLike info.kind || isClassLike info.kind then false
    else isHoistedList name (.mk info children) || hoistsInList name children

/-- Whether a hoisted variable in one of several nodes binds a name. -/
def hoistsInList (name : String) : List Node → Bool
  | [] => false
  | node :: rest => hoistsIn name node || hoistsInList name rest

end

/-- Whether a hoisted variable below a body binds a name. -/
def hoists (name : String) (body : Node) : Bool :=
  hoistsInList name body.children

/-- Whether a construct binds a name for what is inside it. -/
def scopeDeclares (name : String) (scope : Node) : Bool :=
  if isFunctionLike scope.kind then
    (scope.items .parameters).any (declares name)
      || (scope.kind == .functionExpression && (scope.child? .name).any (·.text == name))
      || (scope.child? .body).any (fun body => body.kind == .block && hoists name body)
  else
    match scope.kind with
    | .classExpression => (scope.child? .name).any (·.text == name)
    | .block | .moduleBlock => (scope.items .statements).any (statementDeclares name)
    | .caseBlock =>
      (scope.items .clauses).any fun clause => (clause.items .statements).any (statementDeclares name)
    | .catchClause => (scope.child? .variableDeclaration).any (declares name)
    | .forStatement | .forInStatement | .forOfStatement =>
      (scope.child? .initializer).any fun initializer =>
        initializer.kind == .variableDeclarationList && listDeclares name initializer
    | _ => false

/-- Whether a scope around an identifier, below the whole file, binds its name. `file` is the tree
that was read; an identifier that was not read with it has nothing around it. -/
def isShadowed (file identifier : Node) : Bool :=
  match identifier.info.origin with
  | none => false
  | some origin =>
    ((file.enclosing origin).filter (·.kind != .sourceFile)).any (scopeDeclares identifier.text)

end Codemod.Imports
