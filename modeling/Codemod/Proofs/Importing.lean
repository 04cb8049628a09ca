import Codemod.Proofs.Hoisting

/-!
# Names that a file takes from a module

The forms in which a statement at the top of a file binds a local name to a module or to
one of its exports are given here one by one, and so are the declarations that may bind a name
anywhere in a file. A name that such an import binds and no other declaration does is
collected with the meaning that its form gives it, it is shadowed nowhere, and an expression
that reaches an export through it resolves to that export.

What a file collects is a fold over the entries of its statements. An entry keeps the declaration
it comes from, since a local name with two meanings would keep the last of them only.
-/
namespace Codemod.Syntax.Node

/-- A node of a tree, the root included. -/
def Inside (root node : Node) : Prop :=
  ∃ place, root.below? place = some node

/-- A node is inside the tree that it is the root of. -/
theorem Inside.itself (root : Node) : Inside root root :=
  ⟨[], rfl⟩

/-- What is inside a node is inside every tree around the node: the two ways down are one after the
other. -/
theorem Inside.trans {root middle node : Node} (outer : Inside root middle)
    (inner : Inside middle node) : Inside root node := by
  obtain ⟨first, middleAt⟩ := outer
  obtain ⟨second, nodeAt⟩ := inner
  exact ⟨first ++ second, by rw [below_append, middleAt]; exact nodeAt⟩

/-- A child is inside its node, one step down. -/
theorem Inside.child {node child : Node} (present : child ∈ node.children) : Inside node child := by
  obtain ⟨index, numbered⟩ := List.getElem?_of_mem present
  exact ⟨[index], by rw [below_cons, numbered]; rfl⟩

/-- So is the child in a role. -/
theorem Inside.part {node child : Node} {role : Role} (has : node.child? role = some child) :
    Inside node child :=
  .child (mem_of_child has)

/-- So is every child in a role. -/
theorem Inside.item {node child : Node} {role : Role} (present : child ∈ node.items role) :
    Inside node child :=
  .child (Imports.mem_children_of_items present)

mutual

/-- Whether a node and all nodes below it pass a test. -/
def everywhere (test : Node → Bool) : Node → Bool
  | .mk info children => test (.mk info children) && everywhereIn test children

/-- Whether several nodes and all nodes below them pass a test. -/
def everywhereIn (test : Node → Bool) : List Node → Bool
  | [] => true
  | node :: rest => everywhere test node && everywhereIn test rest

end

/-- A test holds everywhere in several trees when it does in each. -/
theorem everywhere_in (test : Node → Bool) (nodes : List Node) :
    everywhereIn test nodes = nodes.all (everywhere test) := by
  induction nodes with
  | nil => simp [everywhereIn]
  | cons first rest inductionHypothesis => simp [everywhereIn, inductionHypothesis]

/-- What passes everywhere in a tree passes at each node of it. The induction is on the way down to the
node: the test passes at the root and everywhere in each child. -/
theorem test_of_everywhere {test : Node → Bool} {root node : Node}
    (passed : everywhere test root = true) (inside : Inside root node) : test node = true := by
  obtain ⟨place, found⟩ := inside
  induction place generalizing root with
  | nil =>
    cases found
    obtain ⟨info, children⟩ := node
    rw [everywhere, Bool.and_eq_true] at passed
    exact passed.1
  | cons index rest inductionHypothesis =>
    obtain ⟨child, numbered, deeper⟩ := Option.bind_eq_some_iff.mp found
    obtain ⟨info, children⟩ := root
    rw [everywhere, everywhere_in, Bool.and_eq_true, List.all_eq_true] at passed
    exact inductionHypothesis (passed.2 child (List.mem_of_getElem? numbered)) deeper

end Codemod.Syntax.Node

namespace Codemod.Imports

open Syntax Node

/-- Nodes that declare a name in their name part wherever they stand. -/
def declaresByKind : Kind → Bool
  | .functionDeclaration | .functionExpression | .classDeclaration | .classExpression
  | .enumDeclaration | .bindingElement | .importClause | .namespaceImport
  | .importEqualsDeclaration => true
  | _ => false

/-- A node that stands in a tree as a declaration, by its kind or by its place: a parameter, a
declared variable, that of a handler, a member of an object pattern or of a list of imported
names. -/
inductive IsDeclaration (root : Node) : Node → Prop where
  | kind {declaration : Node} (inside : Inside root declaration)
      (isKind : declaresByKind declaration.kind = true) : IsDeclaration root declaration
  | place {parent declaration : Node} {role : Role} (inside : Inside root parent)
      (isRole : role = .parameters ∨ role = .declarations ∨ role = .variableDeclaration)
      (present : declaration ∈ parent.items role) : IsDeclaration root declaration
  | member {list declaration : Node} (inside : Inside root list)
      (isList : list.kind = .objectBindingPattern ∨ list.kind = .namedImports)
      (present : declaration ∈ list.items .elements) : IsDeclaration root declaration

/-- A declaration in a tree that introduces a name. -/
def Introduces (name : String) (root declaration : Node) : Prop :=
  IsDeclaration root declaration ∧ nameOf declaration .name = some name

/-- A declaration in a tree is inside it, by its own place or by that of the list it stands in. -/
theorem IsDeclaration.inside {root declaration : Node} (isDeclaration : IsDeclaration root declaration) :
    Inside root declaration := by
  cases isDeclaration with
  | kind inside _ => exact inside
  | place inside _ present => exact inside.trans (.item present)
  | member inside _ present => exact inside.trans (.item present)

/-- A declaration in a part of a tree is one in the tree. -/
theorem Introduces.within {name : String} {root part declaration : Node} (outer : Inside root part)
    (introduces : Introduces name part declaration) : Introduces name root declaration := by
  obtain ⟨isDeclaration, named⟩ := introduces
  refine ⟨?_, named⟩
  cases isDeclaration with
  | kind inside isKind => exact .kind (outer.trans inside) isKind
  | place inside isRole present => exact .place (outer.trans inside) isRole present
  | member inside isList present => exact .member (outer.trans inside) isList present

/-- A child with a role is among the items of the role. -/
theorem mem_items_of_child {node child : Node} {role : Role} (has : node.child? role = some child) :
    child ∈ node.items role := by
  obtain ⟨⟨other, _⟩, found, rfl⟩ := Option.map_eq_some_iff.mp has
  have isRole : (other == role) = true := List.find?_some (p := fun part : Role × Node => part.1 == role) found
  exact List.mem_map.mpr
    ⟨_, List.mem_filter.mpr ⟨List.mem_of_find?_eq_some found, isRole⟩, rfl⟩

/-- A member of a pattern that binds is one whose name part does. -/
theorem elements_bind_iff (name : String) (elements : List Node) :
    elementsBind name elements =
      elements.any fun element => element.kind == .bindingElement && declares name element := by
  induction elements with
  | nil => simp [elementsBind]
  | cons first rest inductionHypothesis =>
    obtain ⟨info, children⟩ := first
    rw [elementsBind, name_part_binds, inductionHypothesis, List.any_cons]
    rfl

/-- A name part that binds a name is that name, or a member inside it introduces the name. The induction
goes down the pattern: what an element binds, its own name part binds. -/
theorem introduces_of_binds {name : String} : ∀ node : Node, binds name node = true →
    node.text = name ∨ ∃ declaration, Introduces name node declaration
  | .mk info children, bound => by
    have inPattern (found : elementsBind name children = true) :
        ∃ declaration, Introduces name (.mk info children) declaration := by
      rw [elements_bind_iff, List.any_eq_true] at found
      obtain ⟨element, present, found⟩ := found
      rw [Bool.and_eq_true, beq_iff_eq, declares, Option.any_eq_true] at found
      obtain ⟨isElement, inner, has, innerBinds⟩ := found
      have smaller : inner.size < (Node.mk info children).size :=
        Nat.lt_trans (size_lt_of_mem (mem_of_child has)) (size_lt_of_mem present)
      have inside : Inside (.mk info children) element := .child present
      rcases introduces_of_binds inner innerBinds with spelled | ⟨declaration, introduces⟩
      · exact ⟨element, .kind inside (by rw [isElement]; rfl), by simp [nameOf, has, spelled]⟩
      · exact ⟨declaration, introduces.within (inside.trans (.part has))⟩
    rw [binds] at bound
    split at bound
    · exact .inl (eq_of_beq bound)
    · exact .inr (inPattern bound)
    · exact .inr (inPattern bound)
    · cases bound
termination_by node => node.size

/-- A declaration that binds a name introduces it, by itself or by a member of its pattern. -/
theorem introduces_of_declares {name : String} {root declaration : Node}
    (isDeclaration : IsDeclaration root declaration) (declared : declares name declaration = true) :
    ∃ other, Introduces name root other := by
  rw [declares, Option.any_eq_true] at declared
  obtain ⟨part, has, bound⟩ := declared
  rcases introduces_of_binds part bound with spelled | ⟨other, introduces⟩
  · exact ⟨declaration, isDeclaration, by simp [nameOf, has, spelled]⟩
  · exact ⟨other, introduces.within (isDeclaration.inside.trans (.part has))⟩

/-- A list of variables that declares a name has a variable in it that introduces the name. -/
theorem introduces_of_list {name : String} {list : Node} (declared : listDeclares name list = true) :
    ∃ declaration, Introduces name list declaration := by
  rw [listDeclares, List.any_eq_true] at declared
  obtain ⟨declaration, present, declares⟩ := declared
  exact introduces_of_declares (.place (.itself list) (.inr (.inl rfl)) present) declares

/-- A node whose kind makes it a declaration introduces its name. -/
theorem introduces_of_name {name : String} {node : Node} (isKind : declaresByKind node.kind = true)
    (named : (node.child? .name).any (·.text == name) = true) : Introduces name node node := by
  rw [Option.any_eq_true] at named
  obtain ⟨part, has, spelled⟩ := named
  exact ⟨.kind (.itself node) isKind, by simp [nameOf, has, eq_of_beq spelled]⟩

/-- A statement that declares a name introduces it: by its own name, or by a variable of its list. Only a
statement of variables has a list; every other kind that declares a name has it as its own. -/
theorem introduces_of_statement {name : String} {statement : Node}
    (declared : statementDeclares name statement = true) :
    ∃ declaration, Introduces name statement declaration := by
  unfold statementDeclares at declared
  split at declared
  · rw [Option.any_eq_true] at declared
    obtain ⟨list, has, declares⟩ := declared
    obtain ⟨declaration, introduces⟩ := introduces_of_list declares
    exact ⟨declaration, introduces.within (.part has)⟩
  · rename_i isKind
    exact ⟨statement, introduces_of_name (by rw [isKind]; rfl) declared⟩
  · rename_i isKind
    exact ⟨statement, introduces_of_name (by rw [isKind]; rfl) declared⟩
  · rename_i isKind
    exact ⟨statement, introduces_of_name (by rw [isKind]; rfl) declared⟩
  · cases declared

/-- A tree that hoists a name has a declaration in it that introduces the name. The recursion follows the
search, which ends at a list of variables. -/
theorem introduces_of_hoists_in {name : String} : ∀ node : Node, hoistsIn name node = true →
    ∃ declaration, Introduces name node declaration
  | .mk info children, found => by
    rw [hoistsIn] at found
    split at found
    · cases found
    · rcases (Bool.or_eq_true _ _).mp found with here | below
      · simp only [isHoistedList, Bool.and_eq_true] at here
        exact introduces_of_list here.2
      · rw [hoists_in_list, List.any_eq_true] at below
        obtain ⟨child, present, hoisted⟩ := below
        have smaller : child.size < (Node.mk info children).size := size_lt_of_mem present
        obtain ⟨declaration, introduces⟩ := introduces_of_hoists_in child hoisted
        exact ⟨declaration, introduces.within (.child present)⟩
termination_by node => node.size

/-- The same of a body, whose search starts below its root. -/
theorem introduces_of_hoists {name : String} {body : Node} (found : hoists name body = true) :
    ∃ declaration, Introduces name body declaration := by
  rw [hoists, hoists_in_list, List.any_eq_true] at found
  obtain ⟨child, present, hoisted⟩ := found
  obtain ⟨declaration, introduces⟩ := introduces_of_hoists_in child hoisted
  exact ⟨declaration, introduces.within (.child present)⟩

/-- Whatever is found to bind a name for what is inside it has a declaration that introduces the name,
itself included. -/
theorem introduces_of_scope {name : String} {scope : Node}
    (found : scopeDeclares name scope = true) : ∃ declaration, Introduces name scope declaration := by
  have placed {role : Role} (isRole : role = .parameters ∨ role = .declarations ∨
      role = .variableDeclaration) {declaration : Node} (present : declaration ∈ scope.items role)
      (declared : declares name declaration = true) : ∃ other, Introduces name scope other :=
    introduces_of_declares (.place (.itself scope) isRole present) declared
  have statements {body : Node} (inside : Inside scope body)
      (declared : (body.items .statements).any (statementDeclares name) = true) :
      ∃ other, Introduces name scope other := by
    obtain ⟨statement, present, declares⟩ := List.any_eq_true.mp declared
    obtain ⟨other, introduces⟩ := introduces_of_statement declares
    exact ⟨other, introduces.within (inside.trans (.item present))⟩
  have head (declared : (scope.child? .initializer).any (fun initializer =>
      initializer.kind == .variableDeclarationList && listDeclares name initializer) = true) :
      ∃ other, Introduces name scope other := by
    obtain ⟨list, has, declares⟩ := (Option.any_eq_true _ _).mp declared
    obtain ⟨other, introduces⟩ := introduces_of_list ((Bool.and_eq_true _ _).mp declares).2
    exact ⟨other, introduces.within (.part has)⟩
  unfold scopeDeclares at found
  split at found
  · simp only [Bool.or_eq_true, Bool.and_eq_true, beq_iff_eq] at found
    rcases found with (parameter | ⟨isKind, named⟩) | hoisted
    · obtain ⟨parameter, present, declared⟩ := List.any_eq_true.mp parameter
      exact placed (.inl rfl) present declared
    · exact ⟨scope, introduces_of_name (by rw [isKind]; rfl) named⟩
    · obtain ⟨body, has, rises⟩ := (Option.any_eq_true _ _).mp hoisted
      obtain ⟨other, introduces⟩ := introduces_of_hoists ((Bool.and_eq_true _ _).mp rises).2
      exact ⟨other, introduces.within (.part has)⟩
  · split at found
    · rename_i isKind
      exact ⟨scope, introduces_of_name (by rw [isKind]; rfl) found⟩
    · exact statements (.itself scope) found
    · exact statements (.itself scope) found
    · obtain ⟨clause, present, declared⟩ := List.any_eq_true.mp found
      exact statements (.item present) declared
    · obtain ⟨declaration, has, declared⟩ := (Option.any_eq_true _ _).mp found
      exact placed (.inr (.inr rfl)) (mem_items_of_child has) declared
    · exact head found
    · exact head found
    · exact head found
    · cases found

/-- Nodes of a kind that may bind a name for what stands inside them. -/
def isScope (kind : Kind) : Bool :=
  isFunctionLike kind || [.classExpression, .block, .moduleBlock, .caseBlock, .catchClause,
    .forStatement, .forInStatement, .forOfStatement].contains kind

/-- A node of any other kind binds nothing for what stands inside it. All kinds that can are those of the
table of scopes, so that the last case is left. -/
theorem scope_declares_of_kind {name : String} {node : Node} (isKind : isScope node.kind = false) :
    scopeDeclares name node = false := by
  rw [isScope, Bool.or_eq_false_iff] at isKind
  obtain ⟨notFunction, notListed⟩ := isKind
  unfold scopeDeclares
  rw [if_neg (by simp [notFunction])]
  split
  case h_9 => rfl
  all_goals
    rename_i listed
    rw [listed] at notListed
    cases notListed

/-- Nothing on the way to a node of a tree, the node included, binds a name for what stands inside
it. -/
def Clear (name : String) (root node : Node) : Prop :=
  ∀ scope, Inside root scope → Inside scope node → scopeDeclares name scope = false

section

variable {dialect : Grammar.Dialect} {text : String} {parsed : Grammar.Parsed}

/-- Nothing binds a name on the way to the root of a file, since a file is no scope of the kind that
binds names. -/
theorem Clear.root (read : Grammar.parse dialect text = .ok parsed) (name : String) :
    Clear name parsed.root parsed.root := by
  rintro scope ⟨outer, scopeAt⟩ ⟨inner, rootAt⟩
  have whole : parsed.root.below? (outer ++ inner) = some parsed.root := by
    rw [below_append, scopeAt]
    exact rootAt
  have nowhere : outer ++ inner = [] := Grammar.place_unique read whole rfl
  obtain ⟨rfl, rfl⟩ := List.append_eq_nil_iff.mp nowhere
  cases scopeAt
  exact scope_declares_of_kind (by rw [Grammar.kind_of_parse read]; rfl)

/-- The way to a child is the way to its parent and the child. A construct that encloses the child is the
child itself, which binds nothing, or encloses its parent. That places are unique in a file that was read
is what decides between the two. -/
theorem Clear.child (read : Grammar.parse dialect text = .ok parsed) {name : String}
    {node child : Node} (clear : Clear name parsed.root node) (inside : Inside parsed.root node)
    (present : child ∈ node.children) (isKind : isScope child.kind = false) :
    Clear name parsed.root child := by
  rintro scope ⟨outer, scopeAt⟩ ⟨inner, childAt⟩
  obtain ⟨place, nodeAt⟩ := inside
  obtain ⟨index, numbered⟩ := List.getElem?_of_mem present
  have direct : parsed.root.below? (place ++ [index]) = some child := by
    rw [below_append, nodeAt, Option.bind_some, below_cons, numbered]
    rfl
  have around : parsed.root.below? (outer ++ inner) = some child := by
    rw [below_append, scopeAt]
    exact childAt
  have same : outer ++ inner = place ++ [index] := Grammar.place_unique read around direct
  rcases List.eq_nil_or_concat inner with rfl | ⟨less, last, rfl⟩
  · cases childAt
    exact scope_declares_of_kind isKind
  · rw [List.concat_eq_append, ← List.append_assoc] at same
    obtain ⟨placed, _⟩ := List.append_inj' same rfl
    have nodeBelow : scope.below? less = some node := by
      rw [← placed, below_append, scopeAt] at nodeAt
      exact nodeAt
    exact clear scope ⟨outer, scopeAt⟩ ⟨less, nodeBelow⟩

/-- A name that only one declaration in a file introduces, with nothing on the way to it that would
bind the name for what stands inside, is shadowed nowhere: whatever bound it anew would hold a
declaration that introduces it, and that is this one. -/
theorem unshadowed (read : Grammar.parse dialect text = .ok parsed) {identifier declaration : Node}
    (inside : Inside parsed.root identifier) (clear : Clear identifier.text parsed.root declaration)
    (only : ∀ other, Introduces identifier.text parsed.root other → other = declaration) :
    isShadowed parsed.root identifier = false := by
  obtain ⟨place, identifierAt⟩ := inside
  rw [isShadowed, Grammar.origin_of_parse read identifierAt, Bool.eq_false_iff]
  intro shadowed
  simp only [enclosing, List.reverse_reverse, List.any_eq_true, List.mem_filter,
    List.mem_reverse] at shadowed
  obtain ⟨scope, ⟨passed, _⟩, found⟩ := shadowed
  have scopeInside : Inside parsed.root scope := below_of_mem_path passed
  obtain ⟨other, introduces⟩ := introduces_of_scope found
  obtain rfl := only other (introduces.within scopeInside)
  rw [clear scope scopeInside introduces.1.inside] at found
  cases found

end

/-- What a local name stands for. -/
inductive Meaning where
  | whole
  | exported (name : String)

/-- What a declaration adds to what a file binds. -/
structure Entry where
  declaration : Node
  name : String
  meaning : Meaning

/-- Binds the name of an entry to what it stands for. -/
def Bindings.enter (bindings : Bindings) (entry : Entry) : Bindings :=
  match entry.meaning with
  | .whole => bindings.addNamespace entry.name
  | .exported name => bindings.addNamed entry.name name

/-- The entry of a member of an object pattern. -/
def elementEntries (element : Node) : List Entry :=
  match element.child? .name with
  | none => []
  | some name =>
    if (element.child? .dotDotDotToken).isSome || name.kind != .identifier then []
    else (takenExport element name).toList.map fun exported => ⟨element, name.text, .exported exported⟩

/-- The entries of a variable. -/
def variableEntries (declaration : Node) : List Entry :=
  match declaration.child? .name with
  | none => []
  | some name =>
    if name.kind == .identifier then [⟨declaration, name.text, .whole⟩]
    else if name.kind == .objectBindingPattern then (name.items .elements).flatMap elementEntries
    else []

/-- The entry of an imported name. -/
def specifierEntries (specifier : Node) : List Entry :=
  if specifier.info.marks.typeOnly then []
  else (nameOf specifier .name).toList.map fun name =>
    ⟨specifier, name, .exported ((nameOf specifier .propertyName).getD name)⟩

/-- The entries of the names of an import declaration. -/
def clauseEntries (clause : Node) : List Entry :=
  if clause.info.marks.typeOnly then []
  else
    (nameOf clause .name).toList.map (fun name => ⟨clause, name, .whole⟩) ++
      match clause.child? .namedBindings with
      | none => []
      | some inner =>
        if inner.kind == .namespaceImport then
          (nameOf inner .name).toList.map fun name => ⟨inner, name, .whole⟩
        else if inner.kind == .namedImports then (inner.items .elements).flatMap specifierEntries
        else []

/-- The entries of a statement at the top level. -/
def statementEntries (moduleName : String) (statement : Node) : List Entry :=
  match statement.kind with
  | .importEqualsDeclaration =>
    if referencedModule statement == some moduleName then
      (nameOf statement .name).toList.map fun name => ⟨statement, name, .whole⟩
    else []
  | .variableStatement => ((variablesOf statement).filter (requires moduleName)).flatMap variableEntries
  | .importDeclaration =>
    if importedModule statement == some moduleName then
      (statement.child? .importClause).toList.flatMap clauseEntries
    else []
  | _ => []

/-- Adding one after another what each of several nodes adds is adding the entries of all of them. -/
theorem foldl_entries {add : Bindings → Node → Bindings} {entries : Node → List Entry}
    (one : ∀ bindings node, add bindings node = (entries node).foldl Bindings.enter bindings)
    (nodes : List Node) (bindings : Bindings) :
    nodes.foldl add bindings = (nodes.flatMap entries).foldl Bindings.enter bindings := by
  induction nodes generalizing bindings with
  | nil => rfl
  | cons node rest inductionHypothesis =>
    rw [List.foldl_cons, one, inductionHypothesis, List.flatMap_cons, List.foldl_append]

/-- What an element of a pattern adds to the bindings is its entry, if it has one. -/
theorem add_element_entries (bindings : Bindings) (element : Node) :
    addElement bindings element = (elementEntries element).foldl Bindings.enter bindings := by
  unfold addElement elementEntries
  cases element.child? .name with
  | none => rfl
  | some name =>
    dsimp only
    split
    · rfl
    · cases takenExport element name <;> rfl

/-- What a variable adds is its entries, one after another. A name of its own stands for the whole
module, and a pattern has the entries of its members. -/
theorem add_variable_entries (bindings : Bindings) (declaration : Node) :
    addVariable bindings declaration =
      (variableEntries declaration).foldl Bindings.enter bindings := by
  unfold addVariable variableEntries
  cases declaration.child? .name with
  | none => rfl
  | some name =>
    dsimp only
    split
    · rfl
    · split
      · exact foldl_entries add_element_entries _ _
      · rfl

/-- What an imported name adds is its entry. -/
theorem add_specifier_entries (bindings : Bindings) (specifier : Node) :
    addSpecifier bindings specifier =
      (specifierEntries specifier).foldl Bindings.enter bindings := by
  unfold addSpecifier specifierEntries
  split
  · rfl
  · cases nameOf specifier .name <;> rfl

/-- The name that a clause gives to the whole module is entered as a namespace. -/
theorem enter_namespace (bindings : Bindings) (clause : Node) :
    ((nameOf clause .name).toList.map fun name => (⟨clause, name, .whole⟩ : Entry)).foldl
        Bindings.enter bindings =
      match nameOf clause .name with
      | some name => bindings.addNamespace name
      | none => bindings := by
  cases nameOf clause .name <;> rfl

/-- What an import clause adds is the entries of its names, in order. The default name comes first, and
then the namespace or the specifiers. -/
theorem add_clause_entries (bindings : Bindings) (clause : Node) :
    addClause bindings clause = (clauseEntries clause).foldl Bindings.enter bindings := by
  unfold addClause clauseEntries
  split
  · rfl
  · rw [List.foldl_append]
    rw [enter_namespace]
    cases clause.child? .namedBindings with
    | none => rfl
    | some inner =>
      dsimp only
      split
      · cases nameOf inner .name <;> rfl
      · split
        · exact foldl_entries add_specifier_entries _ _
        · rfl

/-- What a statement at the top adds is its entries. There are several forms of import, and each adds
those of its own names only. -/
theorem add_statement_entries (moduleName : String) (bindings : Bindings) (statement : Node) :
    addStatement moduleName bindings statement =
      (statementEntries moduleName statement).foldl Bindings.enter bindings := by
  by_cases isAlias : statement.kind = .importEqualsDeclaration
  · simp only [addStatement, statementEntries, isAlias]
    split
    · cases nameOf statement .name <;> rfl
    · rfl
  by_cases isVariables : statement.kind = .variableStatement
  · simp only [addStatement, statementEntries, isVariables]
    exact foldl_entries add_variable_entries _ _
  by_cases isImport : statement.kind = .importDeclaration
  · simp only [addStatement, statementEntries, isImport]
    split
    · cases statement.child? .importClause with
      | none => rfl
      | some clause => simpa using add_clause_entries bindings clause
    · rfl
  have kept : addStatement moduleName bindings statement = bindings := by
    unfold addStatement
    split <;> first | rfl | contradiction
  have none : statementEntries moduleName statement = [] := by
    unfold statementEntries
    split <;> first | rfl | contradiction
  rw [kept, none, List.foldl_nil]

/-- What a file binds to a module is what the entries of its statements add. -/
theorem collect_entries (root : Node) (moduleName : String) :
    collect root moduleName =
      ((root.items .statements).flatMap (statementEntries moduleName)).foldl Bindings.enter {} :=
  foldl_entries (add_statement_entries moduleName) _ _

/-- Setting the export of a name sets it for that name only. The induction is on the entries: one that is
there is changed in its place, and else a new one comes last. -/
theorem lookup_put (name exported key : String) (named : List (String × String)) :
    (Bindings.addNamed.put name exported named).lookup key =
      if key = name then some exported else named.lookup key := by
  induction named with
  | nil =>
    by_cases same : key = name
    · simp [Bindings.addNamed.put, same]
    · simp [Bindings.addNamed.put, List.lookup_cons, same, beq_false_of_ne same]
  | cons first rest inductionHypothesis =>
    obtain ⟨other, value⟩ := first
    rw [Bindings.addNamed.put]
    by_cases set : other = name
    · subst set
      by_cases same : key = other
      · simp [same]
      · simp [List.lookup_cons, same, beq_false_of_ne same]
    · rw [if_neg set, List.lookup_cons, List.lookup_cons, inductionHypothesis]
      by_cases found : key = other
      · subst found
        simp [set]
      · simp [beq_false_of_ne found]

/-- A name entered for the whole module is kept, and so are those that were there. Entering anything else
takes nothing away. -/
theorem mem_namespaces {entries : List Entry} {bindings : Bindings} {name : String}
    (entered : name ∈ bindings.namespaces ∨
      ∃ entry ∈ entries, entry.name = name ∧ entry.meaning = .whole) :
    name ∈ (entries.foldl Bindings.enter bindings).namespaces := by
  induction entries generalizing bindings with
  | nil => simpa using entered
  | cons first rest inductionHypothesis =>
    refine inductionHypothesis ?_
    have grows : bindings.namespaces ⊆ (bindings.enter first).namespaces := by
      unfold Bindings.enter
      split
      · unfold Bindings.addNamespace
        split
        · exact List.Subset.refl _
        · exact List.subset_append_left _ _
      · exact List.Subset.refl _
    rcases entered with already | ⟨entry, present, rfl, isWhole⟩
    · exact .inl (grows already)
    · rcases List.mem_cons.mp present with rfl | later
      · left
        simp only [Bindings.enter, isWhole, Bindings.addNamespace]
        split
        · rename_i contained
          simpa using contained
        · simp
      · exact .inr ⟨entry, later, rfl, isWhole⟩

/-- An entry for an export binds its name to it and changes no other. An entry for the whole module goes
into another list. -/
theorem lookup_enter (bindings : Bindings) (entry : Entry) (name : String) :
    (bindings.enter entry).named.lookup name =
      match entry.meaning with
      | .exported exported => if name = entry.name then some exported else bindings.named.lookup name
      | .whole => bindings.named.lookup name := by
  unfold Bindings.enter
  cases entry.meaning with
  | whole =>
    dsimp only
    unfold Bindings.addNamespace
    split <;> rfl
  | exported exported => exact lookup_put entry.name exported name bindings.named

/-- A name whose entries for exports are all for one export is bound to it, when it was or there is
such an entry. -/
theorem lookup_named {entries : List Entry} {bindings : Bindings} {name exported : String}
    (agree : ∀ entry ∈ entries, entry.name = name → ∀ other, entry.meaning = .exported other →
      other = exported)
    (entered : bindings.named.lookup name = some exported ∨
      ∃ entry ∈ entries, entry.name = name ∧ entry.meaning = .exported exported) :
    (entries.foldl Bindings.enter bindings).named.lookup name = some exported := by
  induction entries generalizing bindings with
  | nil => simpa using entered
  | cons first rest inductionHypothesis =>
    refine inductionHypothesis (fun entry later => agree entry (List.mem_cons_of_mem first later)) ?_
    rcases entered with already | ⟨entry, present, named, isExported⟩
    · left
      rw [lookup_enter]
      split
      · rename_i other isExported
        split
        · rename_i same
          rw [agree first List.mem_cons_self same.symm other isExported]
        · exact already
      · exact already
    · rcases List.mem_cons.mp present with rfl | later
      · left
        simp [lookup_enter, isExported, named]
      · exact .inr ⟨entry, later, named, isExported⟩

/-- A call that requires a module by its name. -/
inductive Requires (moduleName : String) (call : Node) : Prop where
  | call {callee argument : Node} (isCall : call.kind = .callExpression)
      (has : call.child? .expression = some callee) (isName : callee.kind = .identifier)
      (spelled : callee.text = "require") (given : call.items .arguments = [argument])
      (isText : argument.isText = true) (names : argument.text = moduleName) :
      Requires moduleName call

/-- The export that a declaration of a local name stands for: the one that it renames, or the one of
the same name. -/
inductive StandsFor (declaration : Node) (name : String) : String → Prop where
  | same (own : declaration.child? .propertyName = none) : StandsFor declaration name name
  | renamed {property : Node} (has : declaration.child? .propertyName = some property)
      (isPlain : property.kind = .identifier ∨ property.kind = .stringLiteral) :
      StandsFor declaration name property.text

/-- An import declaration at the top of a file that takes values from a module. -/
structure ImportsFrom (moduleName : String) (root statement clause : Node) : Prop where
  top : statement ∈ root.items .statements
  isImport : statement.kind = .importDeclaration
  source : ∃ specifier, statement.child? .moduleSpecifier = some specifier ∧
    specifier.kind = .stringLiteral ∧ specifier.text = moduleName
  has : statement.child? .importClause = some clause
  isClause : clause.kind = .importClause
  ofValues : clause.info.marks.typeOnly = false

/-- A variable at the top of a file whose value is a required module. -/
structure RequiresFrom (moduleName : String) (root statement list declaration : Node) : Prop where
  top : statement ∈ root.items .statements
  isVariables : statement.kind = .variableStatement
  has : statement.child? .declarationList = some list
  isList : list.kind = .variableDeclarationList
  present : declaration ∈ list.items .declarations
  isVariable : declaration.kind = .variableDeclaration
  required : ∃ call, declaration.child? .initializer = some call ∧ Requires moduleName call

/-- A declaration at the top of a file that binds a local name to a module or to an export of it. -/
inductive Imported (moduleName : String) (root : Node) : Node → String → Meaning → Prop where
  | default {statement clause name : Node} (imports : ImportsFrom moduleName root statement clause)
      (named : clause.child? .name = some name) : Imported moduleName root clause name.text .whole
  | everything {statement clause names name : Node}
      (imports : ImportsFrom moduleName root statement clause)
      (has : clause.child? .namedBindings = some names) (isAll : names.kind = .namespaceImport)
      (named : names.child? .name = some name) : Imported moduleName root names name.text .whole
  | specifier {statement clause names specifier name : Node} {exported : String}
      (imports : ImportsFrom moduleName root statement clause)
      (has : clause.child? .namedBindings = some names) (isNames : names.kind = .namedImports)
      (present : specifier ∈ names.items .elements) (isSpecifier : specifier.kind = .importSpecifier)
      (ofValue : specifier.info.marks.typeOnly = false) (named : specifier.child? .name = some name)
      (stands : StandsFor specifier name.text exported) :
      Imported moduleName root specifier name.text (.exported exported)
  | reference {statement reference specifier name : Node} (top : statement ∈ root.items .statements)
      (isReference : statement.kind = .importEqualsDeclaration)
      (ofValues : statement.info.marks.typeOnly = false)
      (has : statement.child? .moduleReference = some reference)
      (isExternal : reference.kind = .externalModuleReference)
      (given : reference.child? .expression = some specifier)
      (isText : specifier.kind = .stringLiteral) (names : specifier.text = moduleName)
      (named : statement.child? .name = some name) :
      Imported moduleName root statement name.text .whole
  | declared {statement list declaration name : Node}
      (required : RequiresFrom moduleName root statement list declaration)
      (named : declaration.child? .name = some name) (isName : name.kind = .identifier) :
      Imported moduleName root declaration name.text .whole
  | member {statement list declaration pattern element name : Node} {exported : String}
      (required : RequiresFrom moduleName root statement list declaration)
      (has : declaration.child? .name = some pattern)
      (isPattern : pattern.kind = .objectBindingPattern) (present : element ∈ pattern.items .elements)
      (isElement : element.kind = .bindingElement) (single : element.child? .dotDotDotToken = none)
      (named : element.child? .name = some name) (isName : name.kind = .identifier)
      (stands : StandsFor element name.text exported) :
      Imported moduleName root element name.text (.exported exported)

/-- An import from the module adds the entries of its clause. -/
theorem ImportsFrom.entries {moduleName : String} {root statement clause : Node}
    (imports : ImportsFrom moduleName root statement clause) :
    statementEntries moduleName statement = clauseEntries clause := by
  obtain ⟨specifier, has, isText, named⟩ := imports.source
  have source : importedModule statement = some moduleName := by
    simp [importedModule, has, isText, named]
  simp [statementEntries, imports.isImport, source, imports.has]

/-- A variable whose value is the required module passes the test for that. -/
theorem RequiresFrom.found {moduleName : String} {root statement list declaration : Node}
    (required : RequiresFrom moduleName root statement list declaration) :
    requires moduleName declaration = true := by
  obtain ⟨call, has, isCall, callee, isName, spelled, given, isText, names⟩ := required.required
  simp [Imports.requires, has, requiredModule, isCall, callee, isName, spelled, given, isText, names]

/-- The entries of such a variable are among those of its statement. -/
theorem RequiresFrom.entries {moduleName : String} {root statement list declaration : Node}
    (required : RequiresFrom moduleName root statement list declaration) {entry : Entry}
    (present : entry ∈ variableEntries declaration) :
    entry ∈ statementEntries moduleName statement := by
  have listed : declaration ∈ (variablesOf statement).filter (requires moduleName) := by
    simp [variablesOf, required.has, required.present, required.found]
  simp only [statementEntries, required.isVariables]
  exact List.mem_flatMap.mpr ⟨declaration, listed, present⟩

/-- Every import has its entry. There is a case for each form of import, in which the entries of its
statement are computed. -/
theorem Imported.entry {moduleName : String} {root declaration : Node} {name : String}
    {meaning : Meaning} (imported : Imported moduleName root declaration name meaning) :
    ∃ statement ∈ root.items .statements,
      ⟨declaration, name, meaning⟩ ∈ statementEntries moduleName statement := by
  cases imported with
  | @default statement clause part imports named =>
    refine ⟨statement, imports.top, ?_⟩
    simp [imports.entries, clauseEntries, imports.ofValues, nameOf, named]
  | @everything statement clause names part imports has isAll named =>
    refine ⟨statement, imports.top, ?_⟩
    simp [imports.entries, clauseEntries, imports.ofValues, has, isAll, nameOf, named]
  | @specifier statement clause names specifier part exported imports has isNames present isSpecifier
      ofValue named stands =>
    refine ⟨statement, imports.top, ?_⟩
    have entry : ⟨declaration, part.text, .exported exported⟩ ∈ specifierEntries declaration := by
      cases stands with
      | same own => simp [specifierEntries, ofValue, nameOf, named, own]
      | renamed has isPlain => simp [specifierEntries, ofValue, nameOf, named, has]
    rw [imports.entries, clauseEntries, imports.ofValues, has]
    simp only [isNames, Bool.false_eq_true, if_false]
    exact List.mem_append_right _ (List.mem_flatMap.mpr ⟨declaration, present, entry⟩)
  | @reference statement reference specifier part top isReference ofValues has isExternal given isText
      names named =>
    refine ⟨declaration, top, ?_⟩
    simp [statementEntries, isReference, referencedModule, ofValues, has, isExternal, given, isText,
      names, nameOf, named]
  | @declared statement list declaration part required named isName =>
    refine ⟨statement, required.top, required.entries ?_⟩
    simp [variableEntries, named, isName]
  | @member statement list holder pattern element part exported required has isPattern present
      isElement single named isName stands =>
    refine ⟨statement, required.top, required.entries ?_⟩
    have entry : ⟨declaration, part.text, .exported exported⟩ ∈ elementEntries declaration := by
      cases stands with
      | same own => simp [elementEntries, named, single, isName, takenExport, own]
      | @renamed property has isPlain =>
        have taken : takenExport declaration part = some property.text := by
          rcases isPlain with isPlain | isPlain <;> simp [takenExport, has, isPlain]
        simp [elementEntries, named, single, isName, taken]
    rw [variableEntries, has]
    simp only [isPattern]
    exact List.mem_flatMap.mpr ⟨declaration, present, entry⟩

/-- A file with an import loads the module. There is a case for each form of import: a clause that brings
values, a reference to another module, or a variable that is given what a call gives. -/
theorem Imported.loads {moduleName : String} {root declaration : Node} {name : String}
    {meaning : Meaning} (imported : Imported moduleName root declaration name meaning) :
    importsModule root moduleName = true := by
  have ofClause {statement clause : Node} (imports : ImportsFrom moduleName root statement clause) :
      importsModule root moduleName = true := by
    obtain ⟨specifier, has, isText, named⟩ := imports.source
    refine List.any_eq_true.mpr ⟨statement, imports.top, ?_⟩
    simp [Imports.loads, imports.isImport, importedModule, has, isText, named, imports.has,
      imports.ofValues]
  have ofVariable {statement list holder : Node}
      (required : RequiresFrom moduleName root statement list holder) :
      importsModule root moduleName = true := by
    refine List.any_eq_true.mpr ⟨statement, required.top, ?_⟩
    simp only [Imports.loads, required.isVariables]
    exact List.any_eq_true.mpr ⟨holder, by simp [variablesOf, required.has, required.present],
      required.found⟩
  cases imported with
  | default imports _ => exact ofClause imports
  | everything imports _ _ _ => exact ofClause imports
  | specifier imports _ _ _ _ _ _ _ => exact ofClause imports
  | reference top isReference ofValues has isExternal given isText names _ =>
    refine List.any_eq_true.mpr ⟨declaration, top, ?_⟩
    simp [Imports.loads, isReference, referencedModule, ofValues, has, isExternal, given, isText,
      names]
  | declared required _ _ => exact ofVariable required
  | member required _ _ _ _ _ _ _ _ => exact ofVariable required

/-- What the entry of a member of a pattern says. There is at most one, and none where the export cannot
be told. -/
theorem of_mem_element_entries {element : Node} {entry : Entry}
    (present : entry ∈ elementEntries element) :
    entry.declaration = element ∧ ∃ name exported, element.child? .name = some name ∧
      takenExport element name = some exported ∧ entry = ⟨element, name.text, .exported exported⟩ := by
  unfold elementEntries at present
  cases named : element.child? .name with
  | none => simp [named] at present
  | some name =>
    simp only [named] at present
    split at present
    · exact absurd present List.not_mem_nil
    · obtain ⟨exported, taken, rfl⟩ := List.mem_map.mp present
      exact ⟨rfl, name, exported, rfl, by simpa using taken, rfl⟩

/-- What the entry of an imported name says. -/
theorem of_mem_specifier_entries {specifier : Node} {entry : Entry}
    (present : entry ∈ specifierEntries specifier) :
    entry.declaration = specifier ∧ ∃ name, nameOf specifier .name = some name ∧
      entry = ⟨specifier, name, .exported ((nameOf specifier .propertyName).getD name)⟩ := by
  unfold specifierEntries at present
  split at present
  · exact absurd present List.not_mem_nil
  · obtain ⟨name, named, rfl⟩ := List.mem_map.mp present
    exact ⟨rfl, name, by simpa using named, rfl⟩

/-- An entry of a variable for an export is that of a member of its pattern. A plain name stands for the
whole module, and so it is a pattern that gives exports. -/
theorem exported_of_variable {declaration : Node} {entry : Entry} {exported : String}
    (present : entry ∈ variableEntries declaration) (isExported : entry.meaning = .exported exported) :
    ∃ pattern element, declaration.child? .name = some pattern ∧
      pattern.kind = .objectBindingPattern ∧ element ∈ pattern.items .elements ∧
      entry ∈ elementEntries element := by
  unfold variableEntries at present
  cases has : declaration.child? .name with
  | none => simp [has] at present
  | some pattern =>
    simp only [has] at present
    split at present
    · cases List.mem_singleton.mp present
      cases isExported
    · split at present
      · rename_i isPattern
        obtain ⟨element, isElement, entered⟩ := List.mem_flatMap.mp present
        exact ⟨pattern, element, rfl, eq_of_beq isPattern, isElement, entered⟩
      · exact absurd present List.not_mem_nil

/-- An entry of an import for an export is that of a name in braces. A default name is entered for the
whole module, and so is a name for everything. -/
theorem exported_of_clause {clause : Node} {entry : Entry} {exported : String}
    (present : entry ∈ clauseEntries clause) (isExported : entry.meaning = .exported exported) :
    ∃ inner specifier, clause.child? .namedBindings = some inner ∧
      inner.kind = .namedImports ∧ specifier ∈ inner.items .elements ∧
      entry ∈ specifierEntries specifier := by
  unfold clauseEntries at present
  split at present
  · exact absurd present List.not_mem_nil
  · rcases List.mem_append.mp present with own | rest
    · obtain ⟨name, _, rfl⟩ := List.mem_map.mp own
      cases isExported
    · cases named : clause.child? .namedBindings with
      | none => simp [named] at rest
      | some inner =>
        simp only [named] at rest
        split at rest
        · obtain ⟨name, _, rfl⟩ := List.mem_map.mp rest
          cases isExported
        · split at rest
          · rename_i isNames
            obtain ⟨specifier, isSpecifier, entered⟩ := List.mem_flatMap.mp rest
            exact ⟨inner, specifier, rfl, eq_of_beq isNames, isSpecifier, entered⟩
          · exact absurd rest List.not_mem_nil

/-- A variable of a statement is inside it: in its list, or in the list of its declaration. -/
theorem inside_of_variable {statement declaration : Node} (listed : declaration ∈ variablesOf statement) :
    Inside statement declaration := by
  unfold variablesOf at listed
  cases list : statement.child? .declarationList with
  | none => simp [list] at listed
  | some node =>
    simp only [list] at listed
    exact (Inside.part list).trans (.item listed)

/-- An entry for an export is that of a member of an object pattern or of an imported name, which
introduces the local name in its statement. -/
theorem exported_entry {moduleName exported : String} {statement : Node} {entry : Entry}
    (present : entry ∈ statementEntries moduleName statement)
    (isExported : entry.meaning = .exported exported) :
    Introduces entry.name statement entry.declaration ∧
      (statement.kind = .variableStatement ∧ entry ∈ elementEntries entry.declaration ∨
        statement.kind = .importDeclaration ∧ entry ∈ specifierEntries entry.declaration) := by
  unfold statementEntries at present
  split at present
  · split at present
    · obtain ⟨name, _, rfl⟩ := List.mem_map.mp present
      cases isExported
    · exact absurd present List.not_mem_nil
  · rename_i isVariables
    obtain ⟨declaration, listed, present⟩ := List.mem_flatMap.mp present
    obtain ⟨pattern, element, has, isPattern, isElement, entered⟩ :=
      exported_of_variable present isExported
    have inside := inside_of_variable (List.mem_filter.mp listed).1
    obtain ⟨isDeclaration, name, other, named, _, isEntry⟩ := of_mem_element_entries entered
    refine ⟨⟨?_, ?_⟩, .inl ⟨isVariables, isDeclaration ▸ entered⟩⟩
    · rw [isDeclaration]
      exact .member (inside.trans (.part has)) (.inl isPattern) isElement
    · simp [isEntry, nameOf, named]
  · rename_i isImport
    split at present
    · obtain ⟨clause, has, present⟩ := List.mem_flatMap.mp present
      rw [Option.mem_toList] at has
      obtain ⟨inner, specifier, named, isNames, isSpecifier, entered⟩ :=
        exported_of_clause present isExported
      obtain ⟨isDeclaration, name, spelled, isEntry⟩ := of_mem_specifier_entries entered
      refine ⟨⟨?_, ?_⟩, .inr ⟨isImport, isDeclaration ▸ entered⟩⟩
      · rw [isDeclaration]
        exact .member ((Inside.part has).trans (.part named)) (.inr isNames) isSpecifier
      · simp [isEntry, spelled]
    · exact absurd present List.not_mem_nil
  · exact absurd present List.not_mem_nil

section

variable {dialect : Grammar.Dialect} {text : String} {parsed : Grammar.Parsed}

/-- The way to a node of a tree that was read leads through one child of the root. The two ways lead to
the same node, and in a tree that was read each node is found in one way only. -/
theorem child_unique (read : Grammar.parse dialect text = .ok parsed) {first second node : Node}
    (isFirst : first ∈ parsed.root.children) (isSecond : second ∈ parsed.root.children)
    (inFirst : Inside first node) (inSecond : Inside second node) : first = second := by
  obtain ⟨index, firstAt⟩ := List.getElem?_of_mem isFirst
  obtain ⟨number, secondAt⟩ := List.getElem?_of_mem isSecond
  obtain ⟨inner, nodeInFirst⟩ := inFirst
  obtain ⟨deeper, nodeInSecond⟩ := inSecond
  have throughFirst : parsed.root.below? (index :: inner) = some node := by
    rw [below_cons, firstAt]
    exact nodeInFirst
  have throughSecond : parsed.root.below? (number :: deeper) = some node := by
    rw [below_cons, secondAt]
    exact nodeInSecond
  have same := Grammar.place_unique read throughFirst throughSecond
  obtain ⟨rfl, _⟩ := List.cons_eq_cons.mp same
  exact Option.some.inj (firstAt.symm.trans secondAt)

/-- Entries for exports that come from one declaration are for one export. A declaration stands in one
statement only, and the entries of a statement that it makes are for the export that it names. -/
theorem exported_agree (read : Grammar.parse dialect text = .ok parsed) {moduleName : String}
    {first second : Entry} {one other : Node} {exported further : String}
    (topFirst : one ∈ parsed.root.items .statements)
    (isFirst : first ∈ statementEntries moduleName one) (ofFirst : first.meaning = .exported exported)
    (topSecond : other ∈ parsed.root.items .statements)
    (isSecond : second ∈ statementEntries moduleName other)
    (ofSecond : second.meaning = .exported further)
    (same : first.declaration = second.declaration) : exported = further := by
  obtain ⟨introducesFirst, forms⟩ := exported_entry isFirst ofFirst
  obtain ⟨introducesSecond, otherForms⟩ := exported_entry isSecond ofSecond
  have together : one = other :=
    child_unique read (mem_children_of_items topFirst) (mem_children_of_items topSecond)
      introducesFirst.1.inside (same ▸ introducesSecond.1.inside)
  subst together
  rcases forms with ⟨isVariables, entered⟩ | ⟨isImport, entered⟩ <;>
    rcases otherForms with ⟨otherKind, otherEntered⟩ | ⟨otherKind, otherEntered⟩
  · obtain ⟨_, name, taken, named, takes, isEntry⟩ := of_mem_element_entries entered
    obtain ⟨_, again, takenAgain, namedAgain, takesAgain, isEntryAgain⟩ :=
      of_mem_element_entries otherEntered
    rw [same] at named takes
    cases named.symm.trans namedAgain
    cases takes.symm.trans takesAgain
    rw [isEntry] at ofFirst
    rw [isEntryAgain] at ofSecond
    cases ofFirst
    cases ofSecond
    rfl
  · cases isVariables.symm.trans otherKind
  · cases isImport.symm.trans otherKind
  · obtain ⟨_, name, named, isEntry⟩ := of_mem_specifier_entries entered
    obtain ⟨_, again, namedAgain, isEntryAgain⟩ := of_mem_specifier_entries otherEntered
    rw [same] at named isEntry
    cases named.symm.trans namedAgain
    rw [isEntry] at ofFirst
    rw [isEntryAgain] at ofSecond
    cases ofFirst
    cases ofSecond
    rfl

/-- A name that is imported as a whole module is collected as one. -/
theorem collect_whole {moduleName name : String} {root declaration : Node}
    (imported : Imported moduleName root declaration name .whole) :
    name ∈ (collect root moduleName).namespaces := by
  obtain ⟨statement, top, present⟩ := imported.entry
  rw [collect_entries]
  exact mem_namespaces (.inr ⟨_, List.mem_flatMap.mpr ⟨statement, top, present⟩, rfl, rfl⟩)

/-- A name that is imported for an export, and that no other declaration introduces, is collected with
that export. -/
theorem collect_exported (read : Grammar.parse dialect text = .ok parsed)
    {moduleName name exported : String} {declaration : Node}
    (imported : Imported moduleName parsed.root declaration name (.exported exported))
    (only : ∀ other, Introduces name parsed.root other → other = declaration) :
    (collect parsed.root moduleName).named.lookup name = some exported := by
  obtain ⟨statement, top, present⟩ := imported.entry
  rw [collect_entries]
  refine lookup_named ?_
    (.inr ⟨_, List.mem_flatMap.mpr ⟨statement, top, present⟩, rfl, rfl⟩)
  intro entry entered named other isExported
  obtain ⟨place, placeTop, placed⟩ := List.mem_flatMap.mp entered
  have introduces := (exported_entry placed isExported).1.within (Inside.item placeTop)
  have same : entry.declaration = declaration := only _ (named ▸ introduces)
  exact exported_agree read placeTop placed isExported top present rfl same

/-- Nothing binds a name on the way to a child that is no scope, if nothing does on the way to its
parent. -/
theorem Clear.item (read : Grammar.parse dialect text = .ok parsed) {name : String}
    {node child : Node} {role : Role} (clear : Clear name parsed.root node)
    (inside : Inside parsed.root node) (present : child ∈ node.items role)
    (isKind : isScope child.kind = false) :
    Clear name parsed.root child ∧ Inside parsed.root child :=
  ⟨clear.child read inside (mem_children_of_items present) isKind, inside.trans (.item present)⟩

/-- The same of the child in a role. -/
theorem Clear.part (read : Grammar.parse dialect text = .ok parsed) {name : String}
    {node child : Node} {role : Role} (clear : Clear name parsed.root node)
    (inside : Inside parsed.root node) (has : node.child? role = some child)
    (isKind : isScope child.kind = false) :
    Clear name parsed.root child ∧ Inside parsed.root child :=
  clear.item read inside (mem_items_of_child has) isKind

/-- No construct on the way to an import binds anything for what stands inside it. The statements of a
file, import clauses and declarations of variables are none of the constructs that bind names for what is
inside them, and the way goes through these only. -/
theorem Imported.clear (read : Grammar.parse dialect text = .ok parsed) {moduleName name : String}
    {declaration : Node} {meaning : Meaning}
    (imported : Imported moduleName parsed.root declaration name meaning) :
    Clear name parsed.root declaration ∧ Inside parsed.root declaration := by
  have top {statement : Node} (present : statement ∈ parsed.root.items .statements)
      (isKind : isScope statement.kind = false) :
      Clear name parsed.root statement ∧ Inside parsed.root statement :=
    (Clear.root read name).item read (.itself _) present isKind
  have inClause {statement clause : Node}
      (imports : ImportsFrom moduleName parsed.root statement clause) :
      Clear name parsed.root clause ∧ Inside parsed.root clause := by
    obtain ⟨clear, inside⟩ := top imports.top (by rw [imports.isImport]; rfl)
    exact clear.part read inside imports.has (by rw [imports.isClause]; rfl)
  have inVariable {statement list holder : Node}
      (required : RequiresFrom moduleName parsed.root statement list holder) :
      Clear name parsed.root holder ∧ Inside parsed.root holder := by
    obtain ⟨clear, inside⟩ := top required.top (by rw [required.isVariables]; rfl)
    obtain ⟨clear, inside⟩ := clear.part read inside required.has (by rw [required.isList]; rfl)
    exact clear.item read inside required.present (by rw [required.isVariable]; rfl)
  cases imported with
  | default imports named => exact inClause imports
  | everything imports has isAll named =>
    obtain ⟨clear, inside⟩ := inClause imports
    exact clear.part read inside has (by rw [isAll]; rfl)
  | specifier imports has isNames present isSpecifier ofValue named stands =>
    obtain ⟨clear, inside⟩ := inClause imports
    obtain ⟨clear, inside⟩ := clear.part read inside has (by rw [isNames]; rfl)
    exact clear.item read inside present (by rw [isSpecifier]; rfl)
  | reference present isReference ofValues has isExternal given isText names named =>
    exact top present (by rw [isReference]; rfl)
  | declared required named isName => exact inVariable required
  | member required has isPattern present isElement single named isName stands =>
    obtain ⟨clear, inside⟩ := inVariable required
    obtain ⟨clear, inside⟩ := clear.part read inside has (by rw [isPattern]; rfl)
    exact clear.item read inside present (by rw [isElement]; rfl)

end

/-- An expression inside any number of parentheses. -/
inductive Wraps (core : Node) : Node → Prop where
  | bare : Wraps core core
  | parenthesized {node inner : Node} (isParenthesis : node.kind = .parenthesizedExpression)
      (only : node.children = [inner]) (inside : Wraps core inner) : Wraps core node

/-- An expression that reaches an export through a local name: the name itself, or a member of the
whole module. -/
inductive Reaches (name exported : String) : Meaning → Node → Prop where
  | member {expression access object target part : Node} (outer : Wraps access expression)
      (isAccess : access.kind = .propertyAccessExpression)
      (before : access.child? .expression = some object) (inner : Wraps target object)
      (isName : target.kind = .identifier) (spelled : target.text = name)
      (after : access.child? .name = some part) (isMember : part.kind = .identifier)
      (names : part.text = exported) : Reaches name exported .whole expression
  | bare {expression target : Node} (outer : Wraps target expression)
      (isName : target.kind = .identifier) (spelled : target.text = name) :
      Reaches name exported (.exported exported) expression

/-- What is wrapped in parentheses is what is found when they are taken off, if it is no parentheses
itself. -/
theorem Wraps.unwrap {core node : Node} (wraps : Wraps core node)
    (isCore : core.kind ≠ .parenthesizedExpression) : node.unwrap = core := by
  induction wraps with
  | bare => exact unwrap_of_kind isCore
  | parenthesized isParenthesis only _ inductionHypothesis =>
    rw [unwrap_parenthesized isParenthesis only]
    exact inductionHypothesis

/-- It is inside them. -/
theorem Wraps.inside {core node : Node} (wraps : Wraps core node) : Inside node core := by
  induction wraps with
  | bare => exact .itself _
  | parenthesized _ only _ inductionHypothesis =>
    exact (Inside.child (by simp [only])).trans inductionHypothesis

/-- An expression that reaches an export through an imported name, which nothing else in the file
declares, resolves to that export: the name is collected with its meaning and is shadowed nowhere. -/
theorem resolve_reached {dialect : Grammar.Dialect} {text : String} {parsed : Grammar.Parsed}
    (read : Grammar.parse dialect text = .ok parsed) {moduleName name exported : String}
    {declaration callee : Node} {meaning : Meaning}
    (imported : Imported moduleName parsed.root declaration name meaning)
    (only : ∀ other, Introduces name parsed.root other → other = declaration)
    (reaches : Reaches name exported meaning callee) (inside : Inside parsed.root callee) :
    resolve parsed.root (collect parsed.root moduleName) callee = some exported := by
  have clear := (imported.clear read).1
  have visible {target : Node} (within : Inside callee target) (spelled : target.text = name) :
      isShadowed parsed.root target = false := by
    subst spelled
    exact unshadowed read (inside.trans within) clear only
  cases reaches with
  | @member _ access object target part outer isAccess before inner isName spelled after isMember
      names =>
    have core : callee.unwrap = access := outer.unwrap (by rw [isAccess]; decide)
    have object : object.unwrap = target := inner.unwrap (by rw [isName]; decide)
    have collected := collect_whole imported
    have shown := visible (outer.inside.trans ((Inside.part before).trans inner.inside)) spelled
    simp [resolve, core, isAccess, before, after, object, isName, spelled, collected, isMember, shown,
      names]
  | @bare _ target outer isName spelled =>
    have core : callee.unwrap = target := outer.unwrap (by rw [isName]; decide)
    have collected := collect_exported read imported only
    have shown := visible outer.inside spelled
    simp [resolve, core, isName, spelled, collected, shown]

end Codemod.Imports
