import Codemod.Proofs.Erasure
import Codemod.Proofs.Importing
import Mathlib.Data.List.Forall2

/-!
# Trees that agree in what fixes ask about

Fixes ask few things about a tree: what kinds of nodes stand where names are bound, which names
they are, which module is loaded, how tightly an expression binds. A relation between nodes is a
kinship when kin agree in this at the node itself and have kin for children wherever such a
question is passed on to a child. Then kin agree in the answers: what binds a name in one binds it
in the other, files that are kin take the same names from a module, and expressions that are kin
refer to the same export.

Children at other places are free. There, one tree may have parentheses where the other has none,
or other arguments in a call.
-/
namespace Codemod.Syntax.Node

/-- The first child with a role is the first of its items. -/
theorem child_eq_head (node : Node) (role : Role) : node.child? role = (node.items role).head? := by
  rw [child?, items, List.head?_map, List.head?_filter]

/-- What does not stand for one expression in parentheses is not unwrapped. -/
theorem unwrap_of_not_single {node : Node}
    (single : ¬(node.kind = .parenthesizedExpression ∧ ∃ inner, node.children = [inner])) :
    node.unwrap = node := by
  obtain ⟨info, children⟩ := node
  unfold unwrap
  split
  · rename_i inner isParenthesis
    exact absurd ⟨isParenthesis, inner, rfl⟩ single
  · rfl

end Codemod.Syntax.Node

namespace Codemod.Imports

open Syntax Node

/-- The roles through which questions are passed on, in a node of a kind. -/
def isClosed (kind : Kind) : Role → Bool
  | .name | .propertyName | .body | .statements | .parameters | .declarations | .clauses
  | .variableDeclaration | .declarationList | .importClause | .namedBindings | .moduleSpecifier
  | .moduleReference | .dotDotDotToken | .operator | .typeParameters => true
  | .elements => kind == .objectBindingPattern || kind == .namedImports
  | .initializer => kind == .forStatement || kind == .forInStatement || kind == .forOfStatement
  | .expression =>
    kind == .propertyAccessExpression || kind == .callExpression || kind == .externalModuleReference
  | .type => kind == .indexSignature
  | _ => false

/-- A relation between nodes that agree in what fixes ask about a node itself, with related children
wherever a question is passed on. -/
structure Likeness (R : Node → Node → Prop) : Prop where
  kind {a b : Node} : R a b → a.kind = b.kind
  text {a b : Node} : R a b → a.text = b.text
  word {a b : Node} : R a b → a.info.word = b.info.word
  typeOnly {a b : Node} : R a b → a.info.marks.typeOnly = b.info.marks.typeOnly
  chain {a b : Node} : R a b → a.info.marks.chain = b.info.marks.chain
  childless {a b : Node} : R a b → a.children.isEmpty = b.children.isEmpty
  listed {a b : Node} : R a b → a.kind = .newExpression →
    (a.list? .arguments).isSome = (b.list? .arguments).isSome
  items {a b : Node} {role : Role} : R a b → isClosed a.kind role = true →
    List.Forall₂ R (a.items role) (b.items role)
  within {a b : Node} : R a b →
    (a.kind = .parenthesizedExpression ∨ a.kind = .objectBindingPattern ∨
      a.kind = .arrayBindingPattern) → List.Forall₂ R a.children b.children

/-- A likeness between nodes that hoist the same names out of their bodies. -/
structure Shading (R : Node → Node → Prop) : Prop extends Likeness R where
  hoists {a b : Node} (name : String) : R a b → hoistsIn name a = hoistsIn name b

/-- A likeness between nodes that hoist the same names out of their bodies and require the same
modules. -/
structure Kin (R : Node → Node → Prop) : Prop extends Shading R where
  required {a b : Node} {role : Role} : R a b →
    (role = .initializer ∨ role = .expression ∧ a.kind = .expressionStatement) →
    (a.child? role).bind requiredModule = (b.child? role).bind requiredModule

/-- Lists that are related one by one have the same answer to whether a member passes a test, when
related members have. -/
theorem any_of_forall₂ {α β : Type} {R : α → β → Prop} {p : α → Bool} {q : β → Bool} {xs : List α}
    {ys : List β} (related : List.Forall₂ R xs ys) (agree : ∀ x ∈ xs, ∀ y, R x y → p x = q y) :
    xs.any p = ys.any q := by
  induction related with
  | nil => rfl
  | cons first _ inductionHypothesis =>
    rw [List.any_cons, List.any_cons, agree _ List.mem_cons_self _ first,
      inductionHypothesis fun x later => agree x (List.mem_cons_of_mem _ later)]

/-- A list has the same answer to two tests that agree on its members. -/
theorem any_of_mem {α : Type} {p q : α → Bool} {xs : List α} (agree : ∀ x ∈ xs, p x = q x) :
    xs.any p = xs.any q :=
  any_of_forall₂ (List.forall₂_same.mpr fun x _ => (rfl : x = x)) fun x present _ same =>
    same ▸ agree x present

/-- The names that constructs around a place bind anew. -/
abbrev Shade := String → Bool

/-- The names bound anew around what stands inside a node. -/
def Shade.under (shade : Shade) (node : Node) : Shade :=
  fun name => shade name || scopeDeclares name node

/-- The exported name that an expression refers to, where names are bound anew around it. -/
def resolveIn (shade : Shade) (bindings : Bindings) (expression : Node) : Option String :=
  let callee := expression.unwrap
  if callee.kind == .propertyAccessExpression then
    match callee.child? .expression, callee.child? .name with
    | some object, some member =>
      let target := object.unwrap
      if target.kind == .identifier && bindings.namespaces.contains target.text
          && member.kind == .identifier && !shade target.text then
        some member.text
      else none
    | _, _ => none
  else if callee.kind == .identifier && !shade callee.text then bindings.named.lookup callee.text
  else none

/-- Going through lists of nodes that are related one by one comes to the same when related nodes do. -/
theorem foldl_of_forall₂ {R : Node → Node → Prop} {f : Bindings → Node → Bindings} {xs ys : List Node}
    (related : List.Forall₂ R xs ys) (agree : ∀ bindings x y, R x y → f bindings x = f bindings y)
    (bindings : Bindings) : xs.foldl f bindings = ys.foldl f bindings := by
  induction related generalizing bindings with
  | nil => rfl
  | cons first _ inductionHypothesis =>
    rw [List.foldl_cons, List.foldl_cons, agree bindings _ _ first, inductionHypothesis]

variable {R : Node → Node → Prop} {a b : Node} {role : Role} {name : String}

namespace Likeness

/-- Related nodes have related children at a role through which questions are passed on, or both have
none there. -/
theorem child (like : Likeness R) (role : Role) (related : R a b) (closed : isClosed a.kind role = true) :
    a.child? role = none ∧ b.child? role = none ∨
      ∃ x y, a.child? role = some x ∧ b.child? role = some y ∧ R x y := by
  rw [child_eq_head, child_eq_head]
  have paired := like.items related closed
  cases first : a.items role with
  | nil =>
    rw [first, List.forall₂_nil_left_iff] at paired
    exact .inl ⟨rfl, by rw [paired]; rfl⟩
  | cons x xs =>
    rw [first, List.forall₂_cons_left_iff] at paired
    obtain ⟨y, ys, inner, _, second⟩ := paired
    exact .inr ⟨x, y, rfl, by rw [second]; rfl, inner⟩

/-- Kin agree in a question to the child in a role, when related children agree in it and the role is one
through which questions are passed on. -/
theorem child_any (like : Likeness R) (related : R a b) (closed : isClosed a.kind role = true)
    {p q : Node → Bool} (agree : ∀ x ∈ a.children, ∀ y, R x y → p x = q y) :
    (a.child? role).any p = (b.child? role).any q := by
  rcases like.child role related closed with ⟨noneA, noneB⟩ | ⟨x, y, someA, someB, inner⟩
  · rw [noneA, noneB]
    rfl
  · rw [someA, someB]
    exact agree x (mem_of_child someA) y inner

/-- The same of a question to all children in such a role. -/
theorem items_any (like : Likeness R) (related : R a b) (closed : isClosed a.kind role = true)
    {p q : Node → Bool} (agree : ∀ x y, R x y → p x = q y) :
    (a.items role).any p = (b.items role).any q :=
  any_of_forall₂ (like.items related closed) fun x _ y => agree x y

/-- Like nodes bind the same names. The induction follows the pattern through its members. An identifier
binds by its text alone; in a pattern the elements correspond one by one, and so do the names inside
them. -/
theorem binds (like : Likeness R) : ∀ {a b : Node}, R a b → Imports.binds name a = Imports.binds name b
  | .mk info children, .mk other others, related => by
    have kind : info.kind = other.kind := like.kind related
    have text : info.text = other.text := like.text related
    have members (isPattern : info.kind = .objectBindingPattern ∨ info.kind = .arrayBindingPattern) :
        elementsBind name children = elementsBind name others := by
      rw [elements_bind_iff, elements_bind_iff]
      refine any_of_forall₂ (like.within related (.inr isPattern)) fun x present y inner => ?_
      rw [like.kind inner]
      congr 1
      refine like.child_any inner rfl fun z deeper w innermost => ?_
      have smaller : z.size < (Node.mk info children).size :=
        Nat.lt_trans (size_lt_of_mem deeper) (size_lt_of_mem present)
      exact like.binds innermost
    rw [Imports.binds, Imports.binds, ← kind]
    split
    · rw [text]
    · rename_i isObject
      exact members (.inl isObject)
    · rename_i isArray
      exact members (.inr isArray)
    · rfl
termination_by a => a.size

/-- Whether a declaration binds a name is asked of its name or pattern, so like nodes agree in it. -/
theorem declares (like : Likeness R) (related : R a b) :
    Imports.declares name a = Imports.declares name b :=
  like.child_any related rfl fun _ _ _ => like.binds

/-- Like lists of variables bind the same names, declaration by declaration. -/
theorem list_declares (like : Likeness R) (related : R a b) :
    listDeclares name a = listDeclares name b :=
  like.items_any related rfl fun _ _ => like.declares

/-- Nodes that are alike have the same name, since names are among the roles that are passed on. -/
theorem named (like : Likeness R) (related : R a b) :
    (a.child? .name).any (·.text == name) = (b.child? .name).any (·.text == name) :=
  like.child_any related rfl fun _ _ _ inner => by rw [like.text inner]

/-- Whether a statement binds a name is decided by its kind, and then by its name or by the list of its
variables. In all of these like statements agree. -/
theorem statement_declares (like : Likeness R) (related : R a b) :
    statementDeclares name a = statementDeclares name b := by
  unfold statementDeclares
  rw [← like.kind related]
  split
  · exact like.child_any related rfl fun _ _ _ => like.list_declares
  · exact like.named related
  · exact like.named related
  · exact like.named related
  · rfl

/-- Like nodes are alike without their parentheses. Both are parentheses around one expression, and then
the induction goes on inside them, or neither is. -/
theorem unwrap (like : Likeness R) {a b : Node} (related : R a b) : R a.unwrap b.unwrap := by
  by_cases single : a.kind = .parenthesizedExpression ∧ ∃ inner, a.children = [inner]
  · obtain ⟨isParenthesis, inner, only⟩ := single
    have paired := like.within related (.inl isParenthesis)
    rw [only, List.forall₂_cons_left_iff] at paired
    obtain ⟨other, rest, inside, none, others⟩ := paired
    rw [List.forall₂_nil_left_iff] at none
    subst none
    have smaller : inner.size < a.size := size_lt_of_mem (by rw [only]; exact List.mem_cons_self)
    rw [unwrap_parenthesized isParenthesis only,
      unwrap_parenthesized ((like.kind related).symm.trans isParenthesis) others]
    exact like.unwrap inside
  · have otherwise : ¬(b.kind = .parenthesizedExpression ∧ ∃ inner, b.children = [inner]) := by
      rintro ⟨isParenthesis, inner, only⟩
      have kind := (like.kind related).trans isParenthesis
      have paired := like.within related (.inl kind)
      rw [only, List.forall₂_cons_right_iff] at paired
      obtain ⟨other, rest, _, none, others⟩ := paired
      rw [List.forall₂_nil_right_iff] at none
      exact single ⟨kind, other, by rw [others, none]⟩
    rw [unwrap_of_not_single single, unwrap_of_not_single otherwise]
    exact related
termination_by a.size

/-- Like expressions refer to the same export. Without their parentheses both are names, or accesses of
like members of like objects. -/
theorem resolve_in (like : Likeness R) (related : R a b) (shade : Shade) (bindings : Bindings) :
    resolveIn shade bindings a = resolveIn shade bindings b := by
  have callee := like.unwrap related
  unfold resolveIn
  dsimp only
  rw [like.kind callee, like.text callee]
  split
  · rename_i isAccess
    have kind : a.unwrap.kind = .propertyAccessExpression :=
      (like.kind callee).trans (eq_of_beq isAccess)
    rcases like.child .expression callee (by rw [kind]; rfl) with
      ⟨noneA, noneB⟩ | ⟨object, other, someA, someB, before⟩
    · rw [noneA, noneB]
    · rcases like.child .name callee rfl with
        ⟨lackA, lackB⟩ | ⟨member, further, memberA, memberB, after⟩
      · rw [someA, someB, lackA, lackB]
      · rw [someA, someB, memberA, memberB]
        have target := like.unwrap before
        simp only [like.kind target, like.text target, like.kind after, like.text after]
  · rfl

/-- Like nodes are literals without holes or are not: this is a matter of kind and of having children. -/
theorem is_text (like : Likeness R) (related : R a b) : a.isText = b.isText := by
  rw [isText, isText, like.kind related, like.childless related]

/-- Like literals are empty or not, since their texts are the same. -/
theorem is_empty_text (like : Likeness R) (related : R a b) : a.isEmptyText = b.isEmptyText := by
  rw [isEmptyText, isEmptyText, like.is_text related, like.text related]

/-- And they have the zero value of their type or have not. -/
theorem is_zero (like : Likeness R) (related : R a b) : a.isZero = b.isZero := by
  rw [isZero, isZero, like.kind related, like.childless related, like.text related,
    like.is_empty_text related]

/-- Like expressions have the same operator among their parts. -/
theorem operator (like : Likeness R) (related : R a b) : a.operator = b.operator := by
  rw [Node.operator, Node.operator]
  rcases like.child .operator related rfl with ⟨noneA, noneB⟩ | ⟨x, y, someA, someB, inner⟩
  · rw [noneA, noneB]
  · rw [someA, someB, Option.map_some, Option.map_some, like.kind inner]

/-- Like nodes bind equally tightly. -/
theorem strength (like : Likeness R) (related : R a b) : a.strength = b.strength := by
  have kind := like.kind related
  by_cases isNew : a.kind = .newExpression
  · rw [Node.strength, Node.strength, ← kind, isNew]
    dsimp only
    rw [like.listed related isNew]
  · rw [Node.strength, Node.strength, ← kind, like.operator related]
    split
    all_goals first | rfl | exact absurd (by assumption) isNew

/-- Like expressions are links of a chain or are not. -/
theorem is_link (like : Likeness R) (related : R a b) : a.isLink = b.isLink := by
  rw [isLink, isLink, like.kind related, like.chain related]

/-- Like constructions have a list of arguments or have none. -/
theorem lacks_arguments (like : Likeness R) (related : R a b) : a.lacksArguments = b.lacksArguments := by
  rw [lacksArguments, lacksArguments, ← like.kind related]
  by_cases isNew : a.kind = .newExpression
  · simp only [← Option.not_isSome, like.listed related isNew]
  · rw [beq_false_of_ne isNew, Bool.false_and, Bool.false_and]

end Likeness

namespace Shading

/-- In a block a hoisted variable is found below it exactly when one is found in it. -/
theorem hoists_of_block {body : Node} (isBlock : body.kind = .block) :
    Imports.hoists name body = hoistsIn name body := by
  obtain ⟨info, children⟩ := body
  have kind : info.kind = .block := isBlock
  have notList : isHoistedList name (.mk info children) = false := by
    simp [isHoistedList, Node.kind, Node.info, kind]
  rw [hoistsIn, notList, kind]
  rfl

/-- Related nodes bind the same names for what stands inside them. There is a case for each kind of
construct; the parts in which it declares names are among those that are related. -/
theorem scope_declares (shading : Shading R) (related : R a b) :
    scopeDeclares name a = scopeDeclares name b := by
  have statements {x y : Node} (inner : R x y) :
      (x.items .statements).any (statementDeclares name) =
        (y.items .statements).any (statementDeclares name) :=
    shading.items_any inner rfl fun _ _ => shading.statement_declares
  have head (closed : isClosed a.kind .initializer = true) :
      (a.child? .initializer).any (fun list => list.kind == .variableDeclarationList &&
          listDeclares name list) =
        (b.child? .initializer).any (fun list => list.kind == .variableDeclarationList &&
          listDeclares name list) :=
    shading.child_any related closed fun _ _ _ inner => by
      rw [shading.kind inner, shading.list_declares inner]
  have body : (a.child? .body).any (fun body => body.kind == .block && Imports.hoists name body) =
      (b.child? .body).any (fun body => body.kind == .block && Imports.hoists name body) := by
    refine shading.child_any related rfl fun x _ y inner => ?_
    rw [shading.kind inner]
    by_cases isBlock : y.kind = .block
    · rw [hoists_of_block isBlock, hoists_of_block ((shading.kind inner).trans isBlock),
        shading.hoists name inner]
    · rw [beq_false_of_ne isBlock, Bool.false_and, Bool.false_and]
  unfold scopeDeclares
  rw [← shading.kind related, shading.items_any related rfl fun _ _ => shading.declares,
    shading.named related, body]
  split
  · rfl
  · split
    · rfl
    · exact statements related
    · exact statements related
    · exact shading.items_any related rfl fun _ _ => statements
    · exact shading.child_any related rfl fun _ _ _ => shading.declares
    · rename_i isLoop
      exact head (by rw [isLoop]; rfl)
    · rename_i isLoop
      exact head (by rw [isLoop]; rfl)
    · rename_i isLoop
      exact head (by rw [isLoop]; rfl)
    · rfl

/-- Below nodes that shade the same names, the same names are shaded. -/
theorem under (shading : Shading R) (related : R a b) (shade : Shade) : shade.under a = shade.under b := by
  funext name
  rw [Shade.under, Shade.under, shading.scope_declares related]

end Shading

namespace Kin

/-- The names in a role are the same for kin, when the role is one through which questions are passed on. -/
theorem name_of (kin : Kin R) (related : R a b) (closed : isClosed a.kind role = true) :
    nameOf a role = nameOf b role := by
  rw [nameOf, nameOf]
  rcases kin.child role related closed with ⟨noneA, noneB⟩ | ⟨x, y, someA, someB, inner⟩
  · rw [noneA, noneB]
  · rw [someA, someB, Option.map_some, Option.map_some, kin.text inner]

/-- Kin declarations import the same module, by the text that they hold. -/
theorem imported_module (kin : Kin R) (related : R a b) : importedModule a = importedModule b := by
  rw [importedModule, importedModule]
  rcases kin.child .moduleSpecifier related rfl with
    ⟨noneA, noneB⟩ | ⟨x, y, someA, someB, inner⟩
  · rw [noneA, noneB]
  · rw [someA, someB, Option.bind_some, Option.bind_some, kin.kind inner, kin.text inner]

/-- Kin references refer to the same module. The reference and the text in it have the same kind and text
on both sides, or are missing on both. -/
theorem referenced_module (kin : Kin R) (related : R a b) :
    referencedModule a = referencedModule b := by
  rw [referencedModule, referencedModule, kin.typeOnly related]
  rcases kin.child .moduleReference related rfl with
    ⟨noneA, noneB⟩ | ⟨x, y, someA, someB, inner⟩
  · rw [noneA, noneB]
  · rw [someA, someB, Option.bind_some, Option.bind_some, kin.kind inner]
    by_cases isExternal : y.kind = .externalModuleReference
    · rcases kin.child .expression inner
        (by rw [kin.kind inner, isExternal]; rfl) with
        ⟨lackA, lackB⟩ | ⟨z, w, givenA, givenB, innermost⟩
      · rw [lackA, lackB]
      · rw [givenA, givenB, Option.bind_some, Option.bind_some, kin.kind innermost,
          kin.text innermost]
    · rw [beq_false_of_ne isExternal, if_neg Bool.false_ne_true]
      rfl

/-- Kin declarations of variables require the same module. -/
theorem requires (kin : Kin R) (related : R a b) (moduleName : String) :
    Imports.requires moduleName a = Imports.requires moduleName b := by
  rw [Imports.requires, Imports.requires, kin.required related (.inl rfl)]

/-- Kin specifiers take the same export: the name before the word `as`, or the only name. -/
theorem taken_export (kin : Kin R) (related : R a b) {x y : Node} (name : R x y) :
    takenExport a x = takenExport b y := by
  rw [takenExport, takenExport]
  rcases kin.child .propertyName related rfl with ⟨noneA, noneB⟩ | ⟨z, w, someA, someB, inner⟩
  · rw [noneA, noneB]
    exact congrArg some (kin.text name)
  · rw [someA, someB]
    dsimp only
    rw [kin.kind inner, kin.text inner]

/-- Kin elements of a pattern add the same name to what is bound. Its name and the name of the export it
takes are compared, and the dots before it. -/
theorem add_element (kin : Kin R) (related : R a b) (bindings : Bindings) :
    addElement bindings a = addElement bindings b := by
  have token : (a.child? .dotDotDotToken).isSome = (b.child? .dotDotDotToken).isSome := by
    rcases kin.child .dotDotDotToken related rfl with ⟨noneA, noneB⟩ | ⟨x, y, someA, someB, _⟩
    · rw [noneA, noneB]
    · rw [someA, someB]
      rfl
  rw [addElement, addElement, token]
  rcases kin.child .name related rfl with ⟨noneA, noneB⟩ | ⟨x, y, someA, someB, inner⟩
  · rw [noneA, noneB]
  · rw [someA, someB]
    dsimp only
    rw [kin.kind inner, kin.text inner, kin.taken_export related inner]

/-- Kin variables add the same names, which is by their elements if they are patterns. The two have the
same kind of name, and the elements of a pattern are kin in turn. -/
theorem add_variable (kin : Kin R) (related : R a b) (bindings : Bindings) :
    addVariable bindings a = addVariable bindings b := by
  rw [addVariable, addVariable]
  rcases kin.child .name related rfl with ⟨noneA, noneB⟩ | ⟨x, y, someA, someB, inner⟩
  · rw [noneA, noneB]
  · rw [someA, someB]
    dsimp only
    rw [kin.kind inner, kin.text inner]
    split
    · rfl
    · split
      · rename_i isPattern
        have closed : isClosed x.kind .elements = true := by
          rw [kin.kind inner, eq_of_beq isPattern]
          rfl
        exact foldl_of_forall₂ (kin.items inner closed)
          (fun bindings _ _ member => kin.add_element member bindings) bindings
      · rfl

/-- Kin specifiers of an import add the same name. -/
theorem add_specifier (kin : Kin R) (related : R a b) (bindings : Bindings) :
    addSpecifier bindings a = addSpecifier bindings b := by
  rw [addSpecifier, addSpecifier, kin.typeOnly related, kin.name_of related rfl,
    kin.name_of related rfl]

/-- Kin clauses of an import add the same names: the default name, the namespace and the specifiers. Each
of the three is there on both sides or on neither. -/
theorem add_clause (kin : Kin R) (related : R a b) (bindings : Bindings) :
    addClause bindings a = addClause bindings b := by
  rw [addClause, addClause, kin.typeOnly related, kin.name_of related rfl]
  rcases kin.child .namedBindings related rfl with ⟨noneA, noneB⟩ | ⟨x, y, someA, someB, inner⟩
  · rw [noneA, noneB]
  · rw [someA, someB]
    dsimp only
    rw [kin.kind inner, kin.name_of inner rfl]
    by_cases isNames : y.kind = .namedImports
    · have closed : isClosed x.kind .elements = true := by
        rw [kin.kind inner, isNames]
        rfl
      simp only [foldl_of_forall₂ (kin.items inner closed)
        (fun bindings _ _ member => kin.add_specifier member bindings)]
    · simp only [beq_false_of_ne isNames]
      rfl

/-- The variables of statements that are kin are kin. -/
theorem variables_of (kin : Kin R) (related : R a b) :
    List.Forall₂ R (variablesOf a) (variablesOf b) := by
  rw [variablesOf, variablesOf]
  rcases kin.child .declarationList related rfl with ⟨noneA, noneB⟩ | ⟨x, y, someA, someB, inner⟩
  · rw [noneA, noneB]
    exact .nil
  · rw [someA, someB]
    exact kin.items inner rfl

/-- Kin statements add the same names to what is bound. Each form of import is looked at in turn, and in
each the questions go through roles that are passed on. -/
theorem add_statement (kin : Kin R) (related : R a b) (moduleName : String) (bindings : Bindings) :
    addStatement moduleName bindings a = addStatement moduleName bindings b := by
  unfold addStatement
  rw [← kin.kind related]
  split
  · rw [kin.referenced_module related, kin.name_of related rfl]
  · rw [List.foldl_filter, List.foldl_filter]
    refine foldl_of_forall₂ (kin.variables_of related) (fun bindings x y declared => ?_) bindings
    rw [kin.requires declared moduleName, kin.add_variable declared]
  · rw [kin.imported_module related]
    rcases kin.child .importClause related rfl with ⟨noneA, noneB⟩ | ⟨x, y, someA, someB, inner⟩
    · rw [noneA, noneB]
    · rw [someA, someB]
      dsimp only
      rw [kin.add_clause inner]
  · rfl

/-- Files that are kin take the same names from a module. -/
theorem collect (kin : Kin R) (related : R a b) (moduleName : String) :
    Imports.collect a moduleName = Imports.collect b moduleName :=
  foldl_of_forall₂ (kin.items related rfl)
    (fun bindings _ _ statement => kin.add_statement statement moduleName bindings) {}

/-- Kin statements load the same modules. The cases are those of the kind of the statement, which both
have. -/
theorem loads (kin : Kin R) (related : R a b) (moduleName : String) :
    Imports.loads moduleName a = Imports.loads moduleName b := by
  unfold Imports.loads
  rw [← kin.kind related]
  split
  · rw [kin.imported_module related]
    congr 2
    exact kin.child_any related rfl fun _ _ _ inner => by rw [kin.typeOnly inner]
  · rw [kin.referenced_module related]
  · exact any_of_forall₂ (kin.variables_of related) fun _ _ _ inner => kin.requires inner moduleName
  · rename_i isExpression
    rw [kin.required related (.inr ⟨rfl, isExpression⟩)]
  · rfl

end Kin

section

variable {trivia : Bool}

/-- The relation between a tree and what is left of it without positions. -/
def IsBare (trivia : Bool) (a b : Node) : Prop :=
  b = a.bare trivia

/-- Trees are related to themselves without positions, one by one. -/
theorem forall₂_bare (nodes : List Node) :
    List.Forall₂ (IsBare trivia) nodes (nodes.map (bare trivia)) := by
  rw [List.forall₂_map_right_iff]
  exact List.forall₂_same.mpr fun _ _ => rfl

/-- A tree without positions is like the tree: positions are none of the things asked about, and children
keep their roles. -/
theorem bare_like : Likeness (IsBare trivia) where
  kind := by rintro a _ rfl; exact (kind_bare a).symm
  text := by rintro a _ rfl; exact (text_bare a).symm
  word := by rintro a _ rfl; rw [info_bare, word_bare]
  typeOnly := by rintro a _ rfl; rw [info_bare, type_only_bare]
  chain := by rintro a _ rfl; rw [info_bare, chain_bare]
  childless := by rintro a _ rfl; rw [children_bare, List.isEmpty_map]
  listed := by rintro a _ rfl _; exact (listed_bare a .arguments).symm
  items := by rintro a _ role rfl _; rw [items_bare]; exact forall₂_bare _
  within := by rintro a _ rfl _; rw [children_bare]; exact forall₂_bare _

end

end Codemod.Imports
