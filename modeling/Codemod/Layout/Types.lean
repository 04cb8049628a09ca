import Codemod.Layout.Parts

/-!
# Printing types and members

Types, the members of object types and classes, parameters and patterns.
-/
namespace Codemod.Layout

open Syntax

section

variable (emit : Emit)

/-- Prints a function or constructor type. -/
def functionType (node : Node) : W Unit := do
  typeParameters emit node
  arrowParameters emit node
  write " =>"
  spacedChild emit node .type

/-- Prints a mapped type. -/
def mappedType (node : Node) : W Unit := do
  write "\x7b"
  newline
  deeper
  match node.child? .readonlyToken with
  | some token =>
    emit .plain token
    if token.kind != .readonlyKeyword then write "readonly"
    space
  | none => pure ()
  write "["
  match node.child? .typeParameter with
  | some parameter => emit .mappedParameter parameter
  | none => pure ()
  match node.child? .nameType with
  | some name =>
    write " as "
    emit .plain name
  | none => pure ()
  write "]"
  match node.child? .questionToken with
  | some token =>
    emit .plain token
    if token.kind != .questionToken then write "?"
  | none => pure ()
  write ": "
  child emit node .type
  write ";"
  newline
  shallower
  series emit node .members { keepLines := true }
  write "\x7d"

/-- Prints an imported type. -/
def importedType (node : Node) : W Unit := do
  if node.info.marks.typeOf then write "typeof "
  write "import("
  child emit node .argument
  match node.child? .attributes with
  | some attributes =>
    write ", "
    emit .importedType attributes
  | none => pure ()
  write ")"
  match node.child? .qualifier with
  | some qualifier =>
    write "."
    emit .plain qualifier
  | none => pure ()
  typeArguments emit node

/-- Prints a parameter. -/
def parameter (node : Node) : W Unit := do
  let _ ← printModifiers emit node true
  child emit node .dotDotDotToken
  child emit node .name
  child emit node .questionToken
  if (node.child? .name).isSome then typeAnnotation emit node else child emit node .type
  initializer emit node <|
    if (node.child? .type).isSome then childStop node .type
    else if (node.child? .questionToken).isSome then childStop node .questionToken
    else childStop node .name

/-- Prints a type parameter. -/
def typeParameter (node : Node) : W Unit := do
  let _ ← printModifiers emit node false
  child emit node .name
  match node.child? .constraint with
  | some constraint =>
    write " extends "
    emit .plain constraint
  | none => pure ()
  match node.child? .defaultType with
  | some type =>
    write " = "
    emit .plain type
  | none => pure ()

/-- Prints a property of a class. -/
def propertyDeclaration (node : Node) : W Unit := do
  let _ ← printModifiers emit node true
  child emit node .name
  child emit node .questionToken
  child emit node .exclamationToken
  typeAnnotation emit node
  initializer emit node <|
    if (node.child? .type).isSome then childStop node .type
    else if (node.child? .questionToken).isSome then childStop node .questionToken
    else childStop node .name
  write ";"

/-- Prints an accessor. -/
def accessor (node : Node) (word : String) : W Unit := do
  let pos ← printModifiers emit node true
  mark word pos node
  space
  child emit node .name
  headAndBody emit node (signature emit node)

/-- Prints a member of a binding pattern. -/
def bindingElement (node : Node) : W Unit := do
  child emit node .dotDotDotToken
  match node.child? .propertyName with
  | some name =>
    emit .plain name
    write ": "
  | none => pure ()
  child emit node .name
  initializer emit node (childStop node .name)

/-- Prints a type, a member of a type or class, a parameter or a pattern; false for other nodes. -/
def printType (node : Node) : W Bool := do
  match node.kind with
  | .qualifiedName => do
    child emit node .left
    write "."
    child emit node .right
  | .typePredicate => do
    match node.child? .asserts with
    | some asserts =>
      emit .plain asserts
      space
    | none => pure ()
    child emit node .parameterName
    match node.child? .type with
    | some type =>
      write " is "
      emit .plain type
    | none => pure ()
  | .typeReference => do
    child emit node .typeName
    typeArguments emit node
  | .functionType => functionType emit node
  | .constructorType => do
    let _ ← printModifiers emit node false
    write "new "
    functionType emit node
  | .typeQuery => do
    write "typeof "
    child emit node .exprName
    typeArguments emit node
  | .typeLiteral => do
    write "\x7b"
    series emit node .members { Format.members with optionalIfEmpty := true }
    write "\x7d"
  | .arrayType => do
    child emit node .elementType
    write "[]"
  | .restType => do
    write "..."
    child emit node .type
  | .tupleType => do
    mark "[" (startOf node) node
    series emit node .elements
      { multiLine := true, delimiter := .comma, indented := true, spaceBetween := true
        noSpaceIfEmpty := true }
    mark "]" ((node.list? .elements).bind (·.info.span.map (·.stop))) node
  | .namedTupleMember => do
    child emit node .dotDotDotToken
    child emit node .name
    child emit node .questionToken
    mark ":" (childStop node .name) node
    space
    child emit node .type
  | .optionalType => do
    child emit node .type
    write "?"
  | .docAllType => write "*"
  | .docUnknownType => write "?"
  | .docFunctionType => do
    write "function"
    parameters emit node
    write ":"
    child emit node .type
  | .docVariadicType => do
    write "..."
    child emit node .type
  | .docOptionalType => do
    child emit node .type
    write "="
  | .docNamePathType => pure ()
  | .docNullableType => do
    write "?"
    child emit node .type
  | .docNonNullableType => do
    write "!"
    child emit node .type
  | .unionType => series emit node .types { delimiter := .bar, spaceBetween := true }
  | .intersectionType => series emit node .types { delimiter := .ampersand, spaceBetween := true }
  | .conditionalType => do
    child emit node .checkType
    write " extends "
    child emit node .extendsType
    write " ? "
    child emit node .trueType
    write " : "
    child emit node .falseType
  | .inferType => do
    write "infer "
    child emit node .typeParameter
  | .parenthesizedType => do
    write "("
    child emit node .type
    write ")"
  | .thisType => write "this"
  | .typeOperator => do
    write node.info.word.spelling
    spacedChild emit node .type
  | .indexedAccessType => do
    child emit node .objectType
    write "["
    child emit node .indexType
    write "]"
  | .mappedType => mappedType emit node
  | .literalType => child emit node .literal
  | .templateLiteralType => do
    child emit node .head
    series emit node .spans { noComments := true }
  | .templateLiteralTypeSpan => do
    child emit node .type
    child emit node .literal
  | .importType => importedType emit node
  | .objectBindingPattern => do
    write "\x7b"
    series emit node .elements .specifiers
    write "\x7d"
  | .arrayBindingPattern => do
    write "["
    series emit node .elements { Format.commas with trailingComma := true, noSpaceIfEmpty := true }
    write "]"
  | .bindingElement => bindingElement emit node
  | .computedPropertyName => do
    write "["
    child emit node .expression
    write "]"
  | .typeParameter => typeParameter emit node
  | .parameter => parameter emit node
  | .decorator => do
    write "@"
    child emit node .expression
  | .propertySignature => do
    let _ ← printModifiers emit node false
    child emit node .name
    child emit node .questionToken
    typeAnnotation emit node
    write ";"
  | .propertyDeclaration => propertyDeclaration emit node
  | .methodSignature => do
    let _ ← printModifiers emit node false
    child emit node .name
    child emit node .questionToken
    headAndBody emit node (signature emit node)
  | .methodDeclaration => do
    let _ ← printModifiers emit node true
    child emit node .asteriskToken
    child emit node .name
    child emit node .questionToken
    headAndBody emit node (signature emit node)
  | .classStaticBlockDeclaration => do
    write "static"
    match node.child? .body with
    | some body => functionBody emit body
    | none => pure ()
  | .constructorDeclaration => do
    let _ ← printModifiers emit node false
    write "constructor"
    headAndBody emit node (signature emit node)
  | .getAccessor => accessor emit node "get"
  | .setAccessor => accessor emit node "set"
  | .callSignature => headAndBody emit node (signature emit node)
  | .constructSignature => do
    write "new "
    headAndBody emit node (signature emit node)
  | .indexSignature => do
    let _ ← printModifiers emit node false
    series emit node .parameters
      { Format.commas with indented := true, brackets := some ("[", "]") }
    typeAnnotation emit node
    write ";"
  | .semicolonClassElement => write ";"
  | _ => return false
  return true

end

end Codemod.Layout
