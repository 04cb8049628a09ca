import Codemod.Syntax.Expression

/-!
# What a file takes from a module

Three forms at the top level of a file bind names of a module: an import
declaration, an import that gives a name to a required module, and a variable
whose value is a required module. A local name stands for the whole module or
for one of its exports. Imports of types bind nothing that runs.
-/
namespace Codemod.Imports

open Syntax

/-- The local names that a file binds to a module. -/
structure Bindings where
  /-- Names of the whole module, in order of first appearance. -/
  namespaces : List String := []
  /-- Local names with the exported names they stand for, in order of first appearance. -/
  named : List (String × String) := []
  deriving DecidableEq, Repr, Inhabited

namespace Bindings

/-- Binds a name to the whole module. -/
def addNamespace (bindings : Bindings) (name : String) : Bindings :=
  if bindings.namespaces.contains name then bindings
  else { bindings with namespaces := bindings.namespaces ++ [name] }

/-- Binds a local name to an export; a name bound before keeps its place. -/
def addNamed (bindings : Bindings) (name exported : String) : Bindings :=
  { bindings with named := put bindings.named }
where
  /-- The entries with that of the name set. -/
  put : List (String × String) → List (String × String)
    | [] => [(name, exported)]
    | (key, value) :: rest => if key = name then (key, exported) :: rest else (key, value) :: put rest

/-- Whether no name is bound. -/
def isEmpty (bindings : Bindings) : Bool :=
  bindings.namespaces.isEmpty && bindings.named.isEmpty

end Bindings

/-- The module of a call that requires one by a text literal. -/
def requiredModule (expression : Node) : Option String :=
  if expression.kind == .callExpression then
    match expression.child? .expression, expression.items .arguments with
    | some callee, [argument] =>
      if callee.kind == .identifier && callee.text == "require" && argument.isText then
        some argument.text
      else none
    | _, _ => none
  else none

/-- The module that an import declaration names. -/
def importedModule (declaration : Node) : Option String :=
  (declaration.child? .moduleSpecifier).bind fun specifier =>
    if specifier.kind == .stringLiteral then some specifier.text else none

/-- The module that an import gives a name to. -/
def referencedModule (declaration : Node) : Option String :=
  if declaration.info.marks.typeOnly then none
  else
    (declaration.child? .moduleReference).bind fun reference =>
      if reference.kind == .externalModuleReference then
        (reference.child? .expression).bind fun expression =>
          if expression.kind == .stringLiteral then some expression.text else none
      else none

/-- The text of a child that is a name. -/
def nameOf (node : Node) (role : Role) : Option String :=
  (node.child? role).map (·.text)

/-- The export that a member of an object pattern takes, when its name is spelled out. -/
def takenExport (element : Node) (name : Node) : Option String :=
  match element.child? .propertyName with
  | none => some name.text
  | some property =>
    if property.kind == .identifier || property.kind == .stringLiteral then some property.text else none

/-- Adds what a member of an object pattern binds. -/
def addElement (bindings : Bindings) (element : Node) : Bindings :=
  match element.child? .name with
  | none => bindings
  | some name =>
    if (element.child? .dotDotDotToken).isSome || name.kind != .identifier then bindings
    else
      match takenExport element name with
      | some exported => bindings.addNamed name.text exported
      | none => bindings

/-- Adds what a variable with a required module as its value binds. -/
def addVariable (bindings : Bindings) (declaration : Node) : Bindings :=
  match declaration.child? .name with
  | none => bindings
  | some name =>
    if name.kind == .identifier then bindings.addNamespace name.text
    else if name.kind == .objectBindingPattern then (name.items .elements).foldl addElement bindings
    else bindings

/-- The variables that a statement declares. -/
def variablesOf (statement : Node) : List Node :=
  match statement.child? .declarationList with
  | some list => list.items .declarations
  | none => []

/-- Whether the value of a variable is a required module of this name. -/
def requires (moduleName : String) (declaration : Node) : Bool :=
  (declaration.child? .initializer).bind requiredModule == some moduleName

/-- Adds what an imported name binds. -/
def addSpecifier (bindings : Bindings) (specifier : Node) : Bindings :=
  if specifier.info.marks.typeOnly then bindings
  else
    match nameOf specifier .name with
    | none => bindings
    | some name => bindings.addNamed name ((nameOf specifier .propertyName).getD name)

/-- Adds what the names of an import declaration bind. -/
def addClause (bindings : Bindings) (clause : Node) : Bindings :=
  if clause.info.marks.typeOnly then bindings
  else
    let bindings := match nameOf clause .name with
      | some name => bindings.addNamespace name
      | none => bindings
    match clause.child? .namedBindings with
    | none => bindings
    | some inner =>
      if inner.kind == .namespaceImport then
        match nameOf inner .name with
        | some name => bindings.addNamespace name
        | none => bindings
      else if inner.kind == .namedImports then (inner.items .elements).foldl addSpecifier bindings
      else bindings

/-- Adds what a statement at the top level binds to a module. -/
def addStatement (moduleName : String) (bindings : Bindings) (statement : Node) : Bindings :=
  match statement.kind with
  | .importEqualsDeclaration =>
    if referencedModule statement == some moduleName then
      match nameOf statement .name with
      | some name => bindings.addNamespace name
      | none => bindings
    else bindings
  | .variableStatement =>
    ((variablesOf statement).filter (requires moduleName)).foldl addVariable bindings
  | .importDeclaration =>
    if importedModule statement == some moduleName then
      match statement.child? .importClause with
      | some clause => addClause bindings clause
      | none => bindings
    else bindings
  | _ => bindings

/-- The names that the top level of a file binds to a module. -/
def collect (root : Node) (moduleName : String) : Bindings :=
  (root.items .statements).foldl (addStatement moduleName) {}

/-- Whether a statement at the top level loads a module, even if it binds nothing. -/
def loads (moduleName : String) (statement : Node) : Bool :=
  match statement.kind with
  | .importDeclaration =>
    importedModule statement == some moduleName
      && !(statement.child? .importClause).any (·.info.marks.typeOnly)
  | .importEqualsDeclaration => referencedModule statement == some moduleName
  | .variableStatement => (variablesOf statement).any (requires moduleName)
  | .expressionStatement =>
    (statement.child? .expression).bind requiredModule == some moduleName
  | _ => false

/-- Whether a file loads a module for its values. -/
def importsModule (root : Node) (moduleName : String) : Bool :=
  (root.items .statements).any (loads moduleName)

end Codemod.Imports
