import Codemod.Syntax.Kind

/-!
# Trees

A node has a kind, the data that its kind needs, and children. Each child has a
role; several children in a row may share a role and then form a list. Children
stand in the order in which their parent defines them, which is the order of
every traversal.

A node that was read from a text has the span of the text it came from, blanks
and comments before it included, and its origin: its place in the tree that was
read. A node made by a fix has neither.
-/
namespace Codemod.Syntax

/-- What a child is to its parent. -/
inductive Role where
  | modifiers | name | propertyName | expression | argumentExpression | left | operator | right
  | typeName | type | typeArguments | typeParameters | typeParameter | parameters | parameterName
  | constraint | defaultType | elementType | types | checkType | extendsType | trueType | falseType
  | objectType | indexType | nameType | literal | argument | attributes | qualifier | exprName
  | asserts | initializer | body | statements | statement | members | elements | properties
  | arguments | tag | template | head | spans | condition | whenTrue | whenFalse | operand
  | declarationList | declarations | thenStatement | elseStatement | incrementor | label
  | caseBlock | clauses | tryBlock | catchClause | finallyBlock | variableDeclaration | block
  | heritageClauses | moduleReference | importClause | namedBindings | moduleSpecifier
  | exportClause | value | openingElement | children | closingElement | tagName | jsxNamespace
  | objectAssignmentInitializer
  | questionToken | exclamationToken | dotDotDotToken | asteriskToken | questionDotToken
  | equalsGreaterThanToken | equalsToken | colonToken | awaitModifier | readonlyToken
  | endOfFileToken
  deriving DecidableEq, Repr

/-- Whether children of this role are fixed tokens. -/
def Role.isToken : Role → Bool
  | .operator | .questionToken | .exclamationToken | .dotDotDotToken | .asteriskToken
  | .questionDotToken | .equalsGreaterThanToken | .equalsToken | .colonToken | .awaitModifier
  | .readonlyToken | .endOfFileToken => true
  | _ => false

/-- Whether children of this role are out of place in a node of this kind: they can be read, but mean
nothing there. -/
def Role.isStray (kind : Kind) (role : Role) : Bool :=
  match kind with
  | .constructorDeclaration | .setAccessor => role == .typeParameters || role == .type
  | .getAccessor => role == .typeParameters
  | .propertySignature => role == .initializer
  | .typeParameter => role == .expression
  | .classStaticBlockDeclaration | .propertyAssignment | .shorthandPropertyAssignment
  | .namespaceExportDeclaration => role == .modifiers
  | _ => false

/-- Whether a node of this kind is a type in the notation of documentation, which is left alone. -/
def Kind.isDocType : Kind → Bool
  | .docAllType | .docUnknownType | .docNullableType | .docNonNullableType | .docFunctionType
  | .docVariadicType | .docOptionalType | .docNamePathType => true
  | _ => false

/-- Whether a transformation looks at children of this role in a node of this kind. Fixed tokens and
what is out of place are left alone. -/
def Role.isVisited (kind : Kind) (role : Role) : Bool :=
  !role.isToken && !role.isStray kind && !kind.isDocType

/-- A stretch of text from `start` up to `stop`. -/
structure Span where
  start : Nat
  stop : Nat
  deriving DecidableEq, Repr, Inhabited

/-- Where a list of children stood in the text, and whether a comma followed the last of them. -/
structure ListInfo where
  span : Option Span
  trailingComma : Bool
  deriving DecidableEq, Repr, Inhabited

/-- Properties that a node has or lacks. -/
structure Marks where
  /-- An import or export of types only. -/
  typeOnly : Bool := false
  /-- A line break follows the opening bracket. -/
  multiLine : Bool := false
  /-- Part of an optional chain. -/
  chain : Bool := false
  /-- An export assignment written with an equals sign. -/
  exportEquals : Bool := false
  /-- An import type after `typeof`. -/
  typeOf : Bool := false
  /-- A number with separators between its digits. -/
  separated : Bool := false
  /-- Text between tags that is blank and holds a line break. -/
  blankText : Bool := false
  deriving DecidableEq, Repr, Inhabited

/-- The data of a node apart from its children. -/
structure Info where
  kind : Kind
  /-- The name of an identifier, the value of a literal. -/
  text : String := ""
  /-- The operator or word that distinguishes nodes of one kind. -/
  word : Kind := .unknown
  marks : Marks := {}
  span : Option Span := none
  /-- The place in the tree that was read, innermost child number first. -/
  origin : Option (List Nat) := none
  /-- A part below was replaced after the text was read. -/
  rebuilt : Bool := false
  /-- The roles of the children, in order. -/
  layout : List Role := []
  lists : List (Role × ListInfo) := []
  deriving DecidableEq, Repr, Inhabited

/-- A tree. -/
inductive Node where
  | mk (info : Info) (children : List Node)
  deriving Repr, Inhabited

/-- Several children that share a role, with their place in the text. -/
structure NodeList where
  nodes : List Node
  info : ListInfo
  deriving Inhabited

/-- Children to put into a node under a role. -/
inductive Part where
  | one (role : Role) (node : Node)
  | opt (role : Role) (node : Option Node)
  | many (role : Role) (list : NodeList)
  | optMany (role : Role) (list : Option NodeList)

namespace Part

/-- The role of a part. -/
def role : Part → Role
  | .one role _ | .opt role _ | .many role _ | .optMany role _ => role

/-- The children of a part. -/
def nodes : Part → List Node
  | .one _ node => [node]
  | .opt _ node => node.toList
  | .many _ list => list.nodes
  | .optMany _ (some list) => list.nodes
  | .optMany _ none => []

/-- The list data of a part, when it is a list. -/
def lists : Part → List (Role × ListInfo)
  | .many role list => [(role, list.info)]
  | .optMany role (some list) => [(role, list.info)]
  | _ => []

end Part

namespace Node

/-- The data of a node. -/
def info : Node → Info
  | mk info _ => info

/-- The children of a node. -/
def children : Node → List Node
  | mk _ children => children

/-- The kind of a node. -/
def kind (node : Node) : Kind :=
  node.info.kind

/-- The text of a node: a name or the value of a literal. -/
def text (node : Node) : String :=
  node.info.text

/-- The children of a node with their roles. -/
def parts (node : Node) : List (Role × Node) :=
  node.info.layout.zip node.children

/-- The first child with a role. -/
def child? (node : Node) (role : Role) : Option Node :=
  (node.parts.find? (·.1 == role)).map (·.2)

/-- The children with a role. -/
def items (node : Node) (role : Role) : List Node :=
  (node.parts.filter (·.1 == role)).map (·.2)

/-- The list of children with a role, if the node has such a list. -/
def list? (node : Node) (role : Role) : Option NodeList :=
  (node.info.lists.lookup role).map fun info => { nodes := node.items role, info }

/-- A node with the given data and parts. -/
def make (info : Info) (parts : List Part) : Node :=
  mk { info with
        layout := parts.flatMap fun part => part.nodes.map fun _ => part.role
        lists := parts.flatMap Part.lists }
    (parts.flatMap Part.nodes)

/-- A node without children. -/
def leaf (info : Info) : Node :=
  mk info []

/-- A new identifier that no text holds. -/
def identifier (name : String) : Node :=
  leaf { kind := .identifier, text := name }

/-- Whether a node is an identifier with a name. -/
def isNamed (name : String) (node : Node) : Bool :=
  node.kind == .identifier && node.text == name

mutual

/-- The number of nodes of a tree. -/
def size : Node → Nat
  | mk _ children => sizeList children + 1

/-- The number of nodes of several trees. -/
def sizeList : List Node → Nat
  | [] => 0
  | node :: rest => size node + sizeList rest

end

mutual

/-- The number of nodes on the longest path down a tree. -/
def depth : Node → Nat
  | mk _ children => depthList children + 1

/-- The greatest depth of several trees. -/
def depthList : List Node → Nat
  | [] => 0
  | node :: rest => max (depth node) (depthList rest)

end

mutual

/-- The tree with every node's origin set to its place, below the place `path`. -/
def locate (path : List Nat) : Node → Node
  | mk info children => mk { info with origin := some path } (locateList path 0 children)

/-- The trees with their origins set, numbered from `index` below the place `path`. -/
def locateList (path : List Nat) (index : Nat) : List Node → List Node
  | [] => []
  | node :: rest => locate (index :: path) node :: locateList path (index + 1) rest

end

/-- The nodes on the way down to a place, outermost first, the node there left out. -/
def pathTo (node : Node) : List Nat → List Node
  | [] => []
  | index :: rest =>
    match node.children[index]? with
    | some child => node :: pathTo child rest
    | none => []

/-- The nodes around a place, innermost first, the root included. -/
def enclosing (root : Node) (origin : List Nat) : List Node :=
  (root.pathTo origin.reverse).reverse

end Node

end Codemod.Syntax
