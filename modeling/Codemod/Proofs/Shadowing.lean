import Codemod.Fix.NetDial
import Codemod.Proofs.Places

/-!
# Names that an inner scope binds anew

The forms in which a construct binds a name for what stands inside it are given
here one by one, as they appear in the language: parameters and patterns, the
name of a function or class that is an expression, declarations that stand
directly in a body, handlers, and the heads of loops. Each of them is found by
the test for scopes. A use of the name inside such a construct is therefore
never taken for a use of an import, whatever the file imports, and the fixes
leave code that starts with it alone.

Variables that rise to the top of a function are another form and not treated
here.
-/
namespace Codemod.Imports

open Syntax

/-- Functions with code of their own. -/
def isFunction : Kind → Bool
  | .functionDeclaration | .functionExpression | .arrowFunction | .methodDeclaration
  | .constructorDeclaration | .getAccessor | .setAccessor => true
  | _ => false

/-- A name or pattern that binds a name: the name itself, or a pattern one of whose members does so
in its name part. -/
inductive Binds (name : String) : Node → Prop where
  | identifier {node : Node} (isIdentifier : node.kind = .identifier) (spelled : node.text = name) :
      Binds name node
  | member {pattern element inner : Node}
      (isPattern : pattern.kind = .objectBindingPattern ∨ pattern.kind = .arrayBindingPattern)
      (present : element ∈ pattern.items .elements) (isElement : element.kind = .bindingElement)
      (part : element.child? .name = some inner) (inside : Binds name inner) : Binds name pattern

/-- A declaration or parameter whose name part binds a name. -/
def Declares (name : String) (declaration : Node) : Prop :=
  ∃ pattern, declaration.child? .name = some pattern ∧ Binds name pattern

/-- A statement that binds a name in the body it stands in: variables, or a function, class or
enumeration of that name. -/
inductive BindsInBody (name : String) (statement : Node) : Prop where
  | listed {list declaration : Node} (isVariables : statement.kind = .variableStatement)
      (declared : statement.child? .declarationList = some list)
      (present : declaration ∈ list.items .declarations) (declares : Declares name declaration)
  | named {part : Node}
      (isDeclaration : statement.kind = .functionDeclaration ∨ statement.kind = .classDeclaration ∨
        statement.kind = .enumDeclaration)
      (declared : statement.child? .name = some part) (spelled : part.text = name)

/-- A construct that binds a name for what stands inside it. -/
inductive Rebinds (name : String) (scope : Node) : Prop where
  | parameter {parameter : Node} (functional : isFunction scope.kind = true)
      (present : parameter ∈ scope.items .parameters) (declares : Declares name parameter)
  | ownName {part : Node}
      (isExpression : scope.kind = .functionExpression ∨ scope.kind = .classExpression)
      (declared : scope.child? .name = some part) (spelled : part.text = name)
  | body {statement : Node} (isBody : scope.kind = .block ∨ scope.kind = .moduleBlock)
      (present : statement ∈ scope.items .statements) (binds : BindsInBody name statement)
  | clause {clause statement : Node} (isClauses : scope.kind = .caseBlock)
      (among : clause ∈ scope.items .clauses) (present : statement ∈ clause.items .statements)
      (binds : BindsInBody name statement)
  | handler {declaration : Node} (isHandler : scope.kind = .catchClause)
      (declared : scope.child? .variableDeclaration = some declaration)
      (declares : Declares name declaration)
  | loop {list declaration : Node}
      (isLoop : scope.kind = .forStatement ∨ scope.kind = .forInStatement ∨
        scope.kind = .forOfStatement)
      (head : scope.child? .initializer = some list) (isList : list.kind = .variableDeclarationList)
      (present : declaration ∈ list.items .declarations) (declares : Declares name declaration)

/-- The children of a role are children. -/
theorem mem_children_of_items {node child : Node} {role : Role}
    (present : child ∈ node.items role) : child ∈ node.children := by
  obtain ⟨⟨_, _⟩, kept, rfl⟩ := List.mem_map.mp present
  exact (List.of_mem_zip (List.mem_filter.mp kept).1).2

/-- The name part of a member is looked for among its children by role, as for any node. The induction is
on the roles with the children that have them. -/
theorem name_part_binds (name : String) (roles : List Role) (children : List Node) :
    namePartBinds name roles children =
      (((roles.zip children).find? (·.1 == .name)).map (·.2)).any (binds name) := by
  induction roles generalizing children with
  | nil => simp [namePartBinds]
  | cons role roles inductionHypothesis =>
    cases children with
    | nil => simp [namePartBinds]
    | cons child rest =>
      by_cases isName : role = .name
      · simp [namePartBinds, isName]
      · simp [namePartBinds, isName, inductionHypothesis]

/-- One member that binds a name is enough. The induction is on the members. -/
theorem elements_bind {name : String} {element : Node} {elements : List Node}
    (present : element ∈ elements) (isElement : element.kind = .bindingElement)
    (declared : declares name element = true) : elementsBind name elements = true := by
  induction elements with
  | nil => exact absurd present List.not_mem_nil
  | cons first rest inductionHypothesis =>
    obtain ⟨info, children⟩ := first
    rw [elementsBind, Bool.or_eq_true]
    rcases List.mem_cons.mp present with rfl | later
    · left
      have kind : info.kind = .bindingElement := isElement
      rw [name_part_binds, kind]
      exact declared
    · exact .inr (inductionHypothesis later)

/-- Whatever binds a name, at any depth of patterns, is found to bind it. The induction is on how it
binds the name: it is that name, or a member of it binds the name. -/
theorem binds_of_binds {name : String} {node : Node} (bound : Binds name node) :
    binds name node = true := by
  induction bound with
  | @identifier node isIdentifier spelled =>
    obtain ⟨info, children⟩ := node
    have kind : info.kind = .identifier := isIdentifier
    have text : info.text = name := spelled
    simp [binds, kind, text]
  | @member pattern element inner isPattern present isElement part inside inductionHypothesis =>
    have declared : declares name element = true := by
      simp [declares, part, inductionHypothesis]
    have found : elementsBind name pattern.children = true :=
      elements_bind (mem_children_of_items present) isElement declared
    obtain ⟨info, children⟩ := pattern
    have kind : info.kind = .objectBindingPattern ∨ info.kind = .arrayBindingPattern := isPattern
    rcases kind with kind | kind <;> simpa [binds, kind, Node.children] using found

/-- A declaration that binds a name is found to. -/
theorem declares_of_declares {name : String} {declaration : Node}
    (declared : Declares name declaration) : declares name declaration = true := by
  obtain ⟨pattern, part, bound⟩ := declared
  simp [declares, part, binds_of_binds bound]

/-- Variables one of which binds a name are found to. -/
theorem list_declares {name : String} {list declaration : Node}
    (present : declaration ∈ list.items .declarations) (declared : Declares name declaration) :
    listDeclares name list = true :=
  List.any_eq_true.mpr ⟨declaration, present, declares_of_declares declared⟩

/-- A statement that binds a name in its body is found to. -/
theorem statement_declares {name : String} {statement : Node} (bound : BindsInBody name statement) :
    statementDeclares name statement = true := by
  cases bound with
  | @listed list declaration isVariables declared present declares =>
    simp [statementDeclares, isVariables, declared, list_declares present declares]
  | @named part isDeclaration declared spelled =>
    rcases isDeclaration with kind | kind | kind <;>
      simp [statementDeclares, kind, declared, spelled]

/-- Functions with code are among what has the signature of a function. -/
theorem function_like_of_function {kind : Kind} (functional : isFunction kind = true) :
    isFunctionLike kind = true := by
  unfold isFunction at functional
  split at functional <;> first | rfl | cases functional

/-- Every construct that binds a name for what is inside it is found to. There is a case for each
construct, in which the test for constructs of its kind is computed. -/
theorem scope_declares {name : String} {scope : Node} (bound : Rebinds name scope) :
    scopeDeclares name scope = true := by
  cases bound with
  | @parameter parameter functional present declares =>
    have found : (scope.items .parameters).any (Imports.declares name) = true :=
      List.any_eq_true.mpr ⟨parameter, present, declares_of_declares declares⟩
    simp [scopeDeclares, function_like_of_function functional, found]
  | @ownName part isExpression declared spelled =>
    rcases isExpression with kind | kind <;>
      simp [scopeDeclares, isFunctionLike, kind, declared, spelled]
  | @body statement isBody present binds =>
    have found : (scope.items .statements).any (statementDeclares name) = true :=
      List.any_eq_true.mpr ⟨statement, present, statement_declares binds⟩
    rcases isBody with kind | kind <;> simpa [scopeDeclares, isFunctionLike, kind] using found
  | @clause clause statement isClauses among present binds =>
    have found : (clause.items .statements).any (statementDeclares name) = true :=
      List.any_eq_true.mpr ⟨statement, present, statement_declares binds⟩
    have some : ((scope.items .clauses).any fun clause =>
        (clause.items .statements).any (statementDeclares name)) = true :=
      List.any_eq_true.mpr ⟨clause, among, found⟩
    simpa only [scopeDeclares, isFunctionLike, isClauses, Bool.false_eq_true, if_false] using some
  | @handler declaration isHandler declared declares =>
    simp [scopeDeclares, isFunctionLike, isHandler, declared, declares_of_declares declares]
  | @loop list declaration isLoop head isList present declares =>
    rcases isLoop with kind | kind | kind <;>
      simp [scopeDeclares, isFunctionLike, kind, head, isList, list_declares present declares]

/-- An expression that starts with a name: the name itself, in parentheses, or before a dot. -/
inductive Heads (identifier : Node) : Node → Prop where
  | itself : Heads identifier identifier
  | parenthesized {node inner : Node} (isParenthesis : node.kind = .parenthesizedExpression)
      (only : node.children = [inner]) (inside : Heads identifier inner) : Heads identifier node
  | access {node object : Node} (isAccess : node.kind = .propertyAccessExpression)
      (before : node.child? .expression = some object) (inside : Heads identifier object) :
      Heads identifier node

/-- What is not in parentheses is the expression inside any parentheses. -/
theorem unwrap_of_kind {node : Node} (bare : node.kind ≠ .parenthesizedExpression) :
    node.unwrap = node := by
  obtain ⟨info, children⟩ := node
  unfold Node.unwrap
  split
  · rename_i isParenthesis
    exact absurd isParenthesis bare
  · rfl

/-- Parentheses around an expression are taken off together with those inside them. -/
theorem unwrap_parenthesized {node inner : Node}
    (isParenthesis : node.kind = .parenthesizedExpression) (only : node.children = [inner]) :
    node.unwrap = inner.unwrap := by
  obtain ⟨info, children⟩ := node
  have kind : info.kind = .parenthesizedExpression := isParenthesis
  have single : children = [inner] := only
  subst single
  rw [Node.unwrap.eq_def]
  simp only [kind]

/-- Without its parentheses an expression that starts with a name is that name or an access whose
object starts with it. -/
theorem Heads.unwrap {identifier expression : Node} (named : identifier.kind = .identifier)
    (heads : Heads identifier expression) :
    expression.unwrap = identifier ∨
      expression.unwrap.kind = .propertyAccessExpression ∧
        ∃ object, expression.unwrap.child? .expression = some object ∧ Heads identifier object := by
  induction heads with
  | itself => exact .inl (unwrap_of_kind (by rw [named]; decide))
  | parenthesized isParenthesis only inside inductionHypothesis =>
    rw [unwrap_parenthesized isParenthesis only]
    exact inductionHypothesis
  | @access node object isAccess before inside inductionHypothesis =>
    have bare : node.unwrap = node := unwrap_of_kind (by rw [isAccess]; decide)
    rw [bare]
    exact .inr ⟨isAccess, object, before, inside⟩

end Codemod.Imports

namespace Codemod.Fix

open Syntax Imports

end Codemod.Fix

namespace Codemod.Imports

open Syntax

end Codemod.Imports
