import Codemod.Grammar.SourceFile
import Codemod.Proofs.Places
import Codemod.Proofs.Spans.Expressions

/-!
# Spans of statements and whole texts

Every reader of the grammar gives nodes with spans when the reader it asks for
the goals inside it does. With no goals left it gives a name that the text lacks,
which has a span as well, so the bound on goals within one another plays no part
in the result: every node of a tree that was read has a span.
-/
namespace Codemod.Grammar

open Syntax

-- An instance has a part for each step of a reader and each part of a node that it makes.
set_option synthInstance.maxSize 2000

/-! ## Namespaces, imports and exports -/

open HasNodes

instance : HasNodes Specifier :=
  ⟨fun specifier => nodes specifier.name ++ nodes specifier.propertyName⟩

instance spanned_specifier (name : Node) (propertyName : Option Node) (typeOnly : Bool)
    (word : Option Span) [named : Spanned name] [renamed : Spanned propertyName] :
    Spanned ({ name, propertyName, typeOnly, word } : Specifier) :=
  ⟨by
    intro node present
    rcases List.mem_append.mp present with here | there
    · exact named.spans node here
    · exact renamed.spans node there⟩

instance spanned_specifier_name (specifier : Specifier) [spanned : Spanned specifier] :
    Spanned specifier.name :=
  ⟨fun node present => spanned.spans node (List.mem_append_left _ present)⟩

instance spanned_specifier_property_name (specifier : Specifier) [spanned : Spanned specifier] :
    Spanned specifier.propertyName :=
  ⟨fun node present => spanned.spans node (List.mem_append_right _ present)⟩

section

variable {parse : Goal → P Node} [∀ goal, Spanning (parse goal)]

instance spanning_module_export_name : Spanning parseModuleExportName := by
  unfold parseModuleExportName
  infer_instance

instance spanning_checked_export_name (before : Option Span) :
    Spanning (parseCheckedExportName before) := by
  unfold parseCheckedExportName
  infer_instance

instance spanning_type_specifier (first : Node) (word : Option Span) [Spanned first] :
    Spanning (parseTypeSpecifier first word) := by
  dsimp only [parseTypeSpecifier]
  infer_instance

instance spanning_specifier (kind : Kind) : Spanning (parseSpecifier kind) := by
  unfold parseSpecifier
  refine .bind inferInstance fun pos _ => ?_
  refine .bind inferInstance fun word _ => ?_
  refine .bind inferInstance fun first _ => ?_
  extract_lets complete afterFirst
  have completes (specifier : { specifier : Specifier // Spanned specifier }) :
      Spanning (complete specifier.1) := by
    obtain ⟨specifier, _⟩ := specifier
    dsimp only [complete]
    split
    · refine .bind inferInstance fun state _ => ?_
      refine .bind inferInstance fun _ _ => ?_
      refine .bind ⟨fun _ => spanned_leaf rfl⟩ fun name _ => ?_
      split <;> infer_instance
    · refine .bind inferInstance fun name _ => ?_
      split <;> infer_instance
  dsimp only [afterFirst]
  infer_instance

instance spanning_specifiers (kind specifier : Kind) : Spanning (parseSpecifiers kind specifier) := by
  unfold parseSpecifiers
  infer_instance

instance spanning_module_specifier : Spanning (parseModuleSpecifier parse) := by
  unfold parseModuleSpecifier
  infer_instance

instance spanning_try_import_attributes : Spanning (tryParseImportAttributes parse) := by
  unfold tryParseImportAttributes
  infer_instance

instance spanning_module_block : Spanning (parseModuleBlock parse) := by
  dsimp only [parseModuleBlock]
  infer_instance

/-- Names with dots between them, by induction on how many there may be. -/
instance spanning_namespace (word : Kind) (fuel pos : Nat) (modifiers : Option NodeList) (nested : Bool)
    [Spanned modifiers] : Spanning (parseNamespace parse word fuel pos modifiers nested) := by
  induction fuel generalizing pos modifiers nested with
  | zero => exact inferInstanceAs (Spanning (finishKind _ _ _))
  | succ fuel inductionHypothesis =>
    have (pos : Nat) := inductionHypothesis pos none true
    dsimp only [parseNamespace]
    infer_instance

instance spanning_ambient_module (pos : Nat) (modifiers : Option NodeList) [Spanned modifiers] :
    Spanning (parseAmbientModule parse pos modifiers) := by
  dsimp only [parseAmbientModule]
  infer_instance

instance spanning_module (pos : Nat) (modifiers : Option NodeList) [Spanned modifiers] :
    Spanning (parseModule parse pos modifiers) := by
  dsimp only [parseModule]
  infer_instance

instance spanning_import_clause (name : Option Node) (pos : Nat) (word : Kind) [Spanned name] :
    Spanning (parseImportClause name pos word) := by
  unfold parseImportClause
  extract_lets afterBindings afterMore
  have bindings (found : { found : Option Node // Spanned found }) :
      Spanning (afterBindings found.1) := by
    dsimp only [afterBindings]
    infer_instance
  have further (more : Bool) : Spanning (afterMore more) := by
    dsimp only [afterMore]
    infer_instance
  infer_instance

instance spanning_import_equals (pos : Nat) (modifiers : Option NodeList) (name : Node) (typeOnly : Bool)
    [Spanned modifiers] [Spanned name] :
    Spanning (parseImportEquals parse pos modifiers name typeOnly) := by
  unfold parseImportEquals
  refine .bind inferInstance fun _ _ => ?_
  refine .bind inferInstance fun required _ => ?_
  extract_lets afterReference
  have references (reference : { node : Node // Spanned node }) :
      Spanning (afterReference reference.1) := by
    dsimp only [afterReference]
    infer_instance
  infer_instance

instance spanning_import_phase (name : Option Node) [spanned : Spanned name] :
    Spanning (parseImportPhase name) := by
  cases name with
  | none => exact inferInstanceAs (Spanning (pure _))
  | some first =>
    dsimp only [parseImportPhase]
    infer_instance

instance spanning_import (pos : Nat) (modifiers : Option NodeList) [Spanned modifiers] :
    Spanning (parseImport parse pos modifiers) := by
  unfold parseImport
  refine .bind inferInstance fun _ _ => ?_
  refine .bind inferInstance fun afterImport _ => ?_
  refine .bind inferInstance fun starts _ => ?_
  extract_lets complete afterFirst
  have completes (clause : { clause : Option Node // Spanned clause }) :
      Spanning (complete clause.1) := by
    dsimp only [complete]
    infer_instance
  have afterwards (first : { first : Option Node // Spanned first }) :
      Spanning (afterFirst first.1) := by
    refine .bind_pair inferInstance fun word name _ spanned => ?_
    dsimp only
    cases name with
    | none => infer_instance
    | some name =>
      have := spanned.of_some
      infer_instance
  infer_instance

instance spanning_export (pos : Nat) (modifiers : Option NodeList) [Spanned modifiers] :
    Spanning (parseExport parse pos modifiers) := by
  unfold parseExport
  refine @Spanning.withAllowance _ _ _ _ ?_
  refine .bind inferInstance fun typeOnly _ => ?_
  refine .bind inferInstance fun start _ => ?_
  refine .bind inferInstance fun every _ => ?_
  extract_lets afterSpecifier afterClause
  have specifiers (pair : { pair : Option Node × Option Node // Spanned pair }) :
      Spanning (afterSpecifier pair.1) := by
    obtain ⟨⟨clause, specifier⟩, spanned⟩ := pair
    have : Spanned clause := spanned.fst
    have : Spanned specifier := spanned.snd
    dsimp only [afterSpecifier]
    infer_instance
  have clauses (clause : { found : Option Node // Spanned found }) :
      Spanning (afterClause clause.1) := by
    dsimp only [afterClause]
    infer_instance
  infer_instance

instance spanning_export_assignment (pos : Nat) (modifiers : Option NodeList) [Spanned modifiers] :
    Spanning (parseExportAssignment parse pos modifiers) := by
  dsimp only [parseExportAssignment]
  infer_instance

instance spanning_namespace_export (pos : Nat) (modifiers : Option NodeList) [Spanned modifiers] :
    Spanning (parseNamespaceExport pos modifiers) := by
  unfold parseNamespaceExport
  infer_instance

/-! ## Statements -/

instance spanning_head : Spanning (parseHead parse) := by
  unfold parseHead
  infer_instance

instance spanning_variable_declaration (allowExclamation : Bool) :
    Spanning (parseVariableDeclaration parse allowExclamation) := by
  dsimp only [parseVariableDeclaration]
  refine .bind inferInstance fun pos _ => ?_
  refine .bind inferInstance fun name _ => ?_
  infer_instance

instance spanning_variables (inHead : Bool) : Spanning (parseVariables parse inHead) := by
  unfold parseVariables
  refine .bind inferInstance fun pos _ => ?_
  refine .bind inferInstance fun word _ => ?_
  extract_lets bare afterDeclarations afterWord
  have declared (declarations : { list : NodeList // Spanned list }) :
      Spanning (afterDeclarations declarations.1) := by
    dsimp only [afterDeclarations]
    infer_instance
  infer_instance

instance spanning_variable_statement (pos : Nat) (modifiers : Option NodeList) [Spanned modifiers] :
    Spanning (parseVariableStatement parse pos modifiers) := by
  unfold parseVariableStatement
  infer_instance

instance spanning_if : Spanning (parseIf parse) := by
  dsimp only [parseIf]
  infer_instance

instance spanning_do : Spanning (parseDo parse) := by
  unfold parseDo
  infer_instance

instance spanning_headed (word kind : Kind) : Spanning (parseHeaded parse word kind) := by
  unfold parseHeaded
  infer_instance

instance spanning_loop_start : Spanning (parseLoopStart parse) := by
  unfold parseLoopStart
  infer_instance

instance spanning_for : Spanning (parseFor parse) := by
  unfold parseFor
  refine .bind inferInstance fun pos _ => ?_
  refine .bind inferInstance fun _ _ => ?_
  refine .bind inferInstance fun awaitModifier _ => ?_
  refine .bind inferInstance fun _ _ => ?_
  refine .bind inferInstance fun initializer _ => ?_
  extract_lets afterCondition afterOf
  have conditions (condition : { found : Option Node // Spanned found }) :
      Spanning (afterCondition condition.1) := by
    dsimp only [afterCondition]
    infer_instance
  have bodies (counts : Bool) : Spanning (afterOf counts) := by
    dsimp only [afterOf]
    infer_instance
  infer_instance

instance spanning_jump (word kind : Kind) : Spanning (parseJump word kind) := by
  dsimp only [parseJump]
  infer_instance

instance spanning_return : Spanning (parseReturn parse) := by
  dsimp only [parseReturn]
  infer_instance

instance spanning_clause : Spanning (parseClause parse) := by
  unfold parseClause
  infer_instance

instance spanning_switch : Spanning (parseSwitch parse) := by
  unfold parseSwitch
  infer_instance

instance spanning_throw : Spanning (parseThrow parse) := by
  dsimp only [parseThrow]
  infer_instance

instance spanning_catch : Spanning (parseCatch parse) := by
  dsimp only [parseCatch]
  infer_instance

instance spanning_try_statement : Spanning (parseTry parse) := by
  dsimp only [parseTry]
  refine .bind inferInstance fun pos _ => ?_
  refine .bind inferInstance fun _ _ => ?_
  refine .bind inferInstance fun tryBlock _ => ?_
  infer_instance

instance spanning_expression_statement : Spanning (parseExpressionStatement parse) := by
  dsimp only [parseExpressionStatement]
  infer_instance

instance spanning_declaration : Spanning (parseDeclaration parse) := by
  unfold parseDeclaration
  refine .bind inferInstance fun pos _ => ?_
  refine .bind inferInstance fun modifiers _ => ?_
  refine .bind inferInstance fun word _ => ?_
  split
  all_goals try infer_instance
  refine .bind inferInstance fun _ _ => ?_
  refine .bind inferInstance fun word _ => ?_
  split <;> infer_instance

instance spanning_statement : Spanning (parseStatement parse) := by
  dsimp only [parseStatement]
  refine .bind inferInstance fun pos _ => ?_
  refine .bind inferInstance fun word _ => ?_
  split <;> infer_instance

/-! ## Whole texts -/

/-- Some of the nodes of a list have spans when all do. -/
theorem Spanned.of_subset {values others : List Node} (spanned : Spanned values)
    (within : others ⊆ values) : Spanned others :=
  .of_mem fun _ present => spanned.mem (within present)

instance spanned_drop_while (test : Node → Bool) (values : List Node) [spanned : Spanned values] :
    Spanned (values.dropWhile test) :=
  spanned.of_subset (List.dropWhile_sublist test).subset

instance spanned_take_while (test : Node → Bool) (values : List Node) [spanned : Spanned values] :
    Spanned (values.takeWhile test) :=
  spanned.of_subset (List.takeWhile_sublist test).subset

instance spanned_append (first second : List Node) [before : Spanned first] [after : Spanned second] :
    Spanned (first ++ second) :=
  .of_mem fun _ present =>
    (List.mem_append.mp present).elim (fun here => before.mem here) (fun there => after.mem there)

/-- A reader of any goal spans what it gives when the readers of the goals inside do. -/
instance spanning_production (goal : Goal) : Spanning (production parse goal) := by
  cases goal <;> unfold production <;> infer_instance

instance spanning_statements : Spanning (parseStatements parse) := by
  unfold parseStatements
  infer_instance

instance spanning_move_to (pos : Nat) : Spanning (moveTo pos) :=
  inferInstance

/-- Statements that are read again, by induction on how many there may be. -/
instance spanning_reread_statements (fuel : Nat) (read rest : List Node) [Spanned read] [Spanned rest] :
    Spanning (rereadStatements parse fuel read rest) := by
  induction fuel generalizing read rest with
  | zero => exact inferInstanceAs (Spanning (pure _))
  | succ fuel inductionHypothesis =>
    unfold rereadStatements
    refine .bind inferInstance fun ended _ => ?_
    split
    · infer_instance
    · refine .bind inferInstance fun start _ => ?_
      refine .bind inferInstance fun statement _ => ?_
      refine .bind inferInstance fun place _ => ?_
      extract_lets unread goOn
      have : Spanned unread := by
        dsimp only [unread]
        split
        next first later spanned =>
          have := spanned.of_subset (List.subset_cons_self first later)
          infer_instance
        next => infer_instance
      have : Spanning (goOn ()) := by
        dsimp only [goOn]
        clear_value unread
        split <;> infer_instance
      infer_instance

/-- The statements of a module, by induction on how many times some are read again. -/
instance spanning_reread_module (found : List Diagnostic) (fuel : Nat) (done rest : List Node)
    [Spanned done]
    [Spanned rest] : Spanning (rereadModule parse found fuel done rest) := by
  induction fuel generalizing done rest with
  | zero => exact inferInstanceAs (Spanning (pure _))
  | succ fuel inductionHypothesis =>
    dsimp only [rereadModule]
    split <;> infer_instance

instance spanning_source_file : Spanning (parseSourceFile parse) := by
  unfold parseSourceFile
  refine .bind inferInstance fun _ _ => ?_
  refine .bind inferInstance fun statements _ => ?_
  refine .bind inferInstance fun last _ => ?_
  extract_lets isModule whole
  have : Spanned statements.nodes := .of_mem fun node listed =>
    .of_node ((inferInstance : Spanned statements).spans node listed)
  have wholes (nodes : { nodes : List Node // Spanned nodes }) : Spanning (whole nodes.1) := by
    obtain ⟨nodes, spanned⟩ := nodes
    have : Spanned ({ statements with nodes } : NodeList) :=
      ⟨fun node listed => (spanned.mem listed).node⟩
    exact ⟨fun _ => spanned_make rfl⟩
  infer_instance

end

/-- With no goals left a reader gives a name that the text lacks. -/
instance spanning_reader (fuel : Nat) (goal : Goal) : Spanning (reader fuel goal) := by
  induction fuel generalizing goal with
  | zero => exact inferInstanceAs (Spanning (missing .identifier none))
  | succ fuel inductionHypothesis => exact inferInstanceAs (Spanning (production (reader fuel) goal))

/-- Numbering the nodes of a tree keeps their spans. -/
theorem spanned_locate {node : Node} (spanned : node.Spanned) (path : List Nat) :
    (node.locate path).Spanned := by
  induction spanned generalizing path with
  | mk own arranged below inductionHypothesis =>
    refine .mk own arranged fun child present => ?_
    obtain ⟨index, found⟩ := List.mem_iff_getElem?.mp present
    rw [Node.locate_list_get] at found
    obtain ⟨inner, listed, rfl⟩ := Option.map_eq_some_iff.mp found
    exact inductionHypothesis inner (List.mem_of_getElem? listed) _

/-- Every node of a tree that was read has a span. -/
theorem spanned_of_parse {dialect : Dialect} {text : String} {parsed : Parsed}
    (read : parse dialect text = .ok parsed) : parsed.root.Spanned := by
  have whole : Spanning (parseSourceFile (reader (depthBound (Source.ofString text).size))) :=
    inferInstance
  rw [(parse_runs read).2]
  exact spanned_locate (whole.run _).node []

/-- A node of a tree with spans has a span wherever it is found. -/
theorem spanned_below {root node : Node} (spanned : root.Spanned) {place : List Nat}
    (found : root.below? place = some node) : node.Spanned := by
  induction place generalizing root with
  | nil =>
    cases found
    exact spanned
  | cons index rest inductionHypothesis =>
    rw [Node.below_cons] at found
    obtain ⟨child, numbered, further⟩ := Option.bind_eq_some_iff.mp found
    exact inductionHypothesis (spanned.child (List.mem_of_getElem? numbered)) further

end Codemod.Grammar
