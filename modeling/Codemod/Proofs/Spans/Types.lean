import Codemod.Grammar.Tags
import Codemod.Proofs.Spans.Readers

/-!
# Spans of names, bindings, types and tags

A closing tag that an inner element took from the element around it stands in the
inner one and has its span there.
-/
namespace Codemod.Grammar

open Syntax

-- An instance has a part for each step of a reader and each part of a node that it makes.
set_option synthInstance.maxSize 2000

/-! ## Names -/

instance spanning_take_identifier : Spanning takeIdentifier := by
  unfold takeIdentifier
  infer_instance

instance spanning_create_identifier (good : Bool) (message privateMessage : Option String) :
    Spanning (createIdentifier good message privateMessage) := by
  dsimp only [createIdentifier]
  infer_instance

instance spanning_binding_identifier : Spanning parseBindingIdentifier := by
  unfold parseBindingIdentifier
  infer_instance

instance spanning_identifier : Spanning parseIdentifier := by
  unfold parseIdentifier
  infer_instance

instance spanning_identifier_with (message : String) : Spanning (parseIdentifierWith message) := by
  unfold parseIdentifierWith
  infer_instance

instance spanning_identifier_name : Spanning parseIdentifierName := by
  unfold parseIdentifierName
  infer_instance

instance spanning_literal_node : Spanning parseLiteralNode := by
  dsimp only [parseLiteralNode]
  infer_instance

instance spanning_private_identifier : Spanning parsePrivateIdentifier := by
  dsimp only [parsePrivateIdentifier]
  infer_instance

section

variable {parse : Goal → P Node} [∀ goal, Spanning (parse goal)]

instance spanning_computed_property_name : Spanning (parseComputedPropertyName parse) := by
  unfold parseComputedPropertyName
  infer_instance

instance spanning_property_name : Spanning (parsePropertyName parse) := by
  unfold parsePropertyName
  refine .bind inferInstance fun word _ => ?_
  split <;> infer_instance

/-! ## Modifiers, bindings and parameters -/

instance spanning_try_modifier (place : ModifierPlace) (seenStatic : Bool) :
    Spanning (tryParseModifier place seenStatic) := by
  dsimp only [tryParseModifier]
  infer_instance

instance spanning_try_decorator : Spanning (tryParseDecorator parse) := by
  unfold tryParseDecorator
  infer_instance

instance spanning_decorators (nodes : List Node) [Spanned nodes] :
    Spanning (parseDecorators parse nodes) := by
  unfold parseDecorators
  extract_lets step
  have steps (state : { nodes : List Node // Spanned nodes }) : Spanning (step state.1) := by
    refine .bind_option inferInstance ?_ fun node _ => ?_
    · infer_instance
    · infer_instance
  infer_instance

instance spanning_words (place : ModifierPlace) (nodes : List Node) [Spanned nodes] :
    Spanning (parseWords place nodes) := by
  unfold parseWords
  extract_lets step
  have steps (state : { nodes : List Node // Spanned nodes }) : Spanning (step state.1) := by
    refine .bind_option inferInstance ?_ fun node _ => ?_
    · infer_instance
    · infer_instance
  infer_instance

instance spanning_modifiers (place : ModifierPlace) : Spanning (parseModifiers parse place) := by
  dsimp only [parseModifiers]
  infer_instance

instance spanning_initializer : Spanning (parseInitializer parse) := by
  unfold parseInitializer
  infer_instance

instance spanning_type_annotation : Spanning ( parseTypeAnnotation parse) := by
  unfold parseTypeAnnotation
  infer_instance

instance spanning_array_binding_element : Spanning (parseArrayBindingElement parse) := by
  unfold parseArrayBindingElement
  infer_instance

instance spanning_object_binding_element : Spanning (parseObjectBindingElement parse) := by
  unfold parseObjectBindingElement
  infer_instance

instance spanning_binding_name (privateMessage : Option String) :
    Spanning (parseBindingName parse privateMessage) := by
  unfold parseBindingName
  refine .bind inferInstance fun word _ => ?_
  split <;> infer_instance

instance spanning_parameter_with (outerAwait strict : Bool) :
    Spanning (parseParameterWith parse outerAwait strict) := by
  unfold parseParameterWith
  refine .bind inferInstance fun pos _ => ?_
  refine .bind inferInstance fun modifiers _ => ?_
  refine .bind inferInstance fun isThis _ => ?_
  split
  · refine .bind inferInstance fun name _ => ?_
    refine .bind inferInstance fun type _ => ?_
    split <;> infer_instance
  · refine .bind inferInstance fun dots _ => ?_
    refine .bind inferInstance fun bound _ => ?_
    split
    · infer_instance
    · refine .bind inferInstance fun start _ => ?_
      refine .bind inferInstance fun name _ => ?_
      infer_instance

instance spanning_parameter (outerAwait : Bool) : Spanning (parseParameter parse outerAwait) := by
  unfold parseParameter
  refine .bind_option inferInstance ?_ fun node _ => ?_
  · infer_instance
  · infer_instance

instance spanning_parameters_with (yields awaits strict : Bool) :
    Spanning (parseParametersWith parse yields awaits strict) := by
  unfold parseParametersWith
  infer_instance

instance spanning_parameters (yields awaits : Bool) :
    Spanning (parseParameters parse yields awaits) := by
  unfold parseParameters
  refine .bind inferInstance fun opened _ => ?_
  split
  · infer_instance
  · refine .bind inferInstance fun list _ => ?_
    refine .bind inferInstance fun _ _ => ?_
    cases list with
    | none => infer_instance
    | some parameters =>
      have : Spanned parameters := Spanned.of_some ‹_›
      infer_instance

/-! ## Types -/

instance spanning_right_side_of_dot (allowWords allowPrivate allowEscapes : Bool) :
    Spanning (parseRightSideOfDot allowWords allowPrivate allowEscapes) := by
  dsimp only [parseRightSideOfDot]
  infer_instance

instance spanning_entity_name (allowWords : Bool) (message : Option String) :
    Spanning (parseEntityName allowWords message) := by
  unfold parseEntityName
  refine .bind inferInstance fun pos _ => ?_
  extract_lets step afterFirst
  have steps (entity : { entity : Node // Spanned entity }) : Spanning (step entity.1) := by
    dsimp only [step]
    infer_instance
  infer_instance

instance spanning_template_head (tagged : Bool) : Spanning (parseTemplateHead tagged) := by
  dsimp only [parseTemplateHead]
  infer_instance

instance spanning_template_part (tagged : Bool) : Spanning (parseTemplatePart tagged) := by
  unfold parseTemplatePart
  infer_instance

instance spanning_type_argument_list : Spanning (parseTypeArgumentList parse) := by
  unfold parseTypeArgumentList
  infer_instance

instance spanning_reference_arguments : Spanning (parseReferenceArguments parse) := by
  unfold parseReferenceArguments
  infer_instance

instance spanning_type_reference : Spanning (parseTypeReference parse) := by
  unfold parseTypeReference
  infer_instance

instance spanning_type_parameter : Spanning (parseTypeParameter parse) := by
  unfold parseTypeParameter
  refine .bind inferInstance fun pos _ => ?_
  refine .bind inferInstance fun modifiers _ => ?_
  refine .bind inferInstance fun name _ => ?_
  refine .bind inferInstance fun bounded _ => ?_
  extract_lets rest
  have rests (bound : { bound : Option Node × Option Node // Spanned bound }) :
      Spanning (rest bound.1) := by
    obtain ⟨⟨constraint, expression⟩, spanned⟩ := bound
    have : Spanned constraint := spanned.fst
    have : Spanned expression := spanned.snd
    dsimp only [rest]
    infer_instance
  infer_instance

instance spanning_type_parameters : Spanning (parseTypeParameters parse) := by
  unfold parseTypeParameters
  infer_instance

instance spanning_type_or_predicate : Spanning (parseTypeOrPredicate parse) := by
  unfold parseTypeOrPredicate
  refine .bind inferInstance fun pos _ => ?_
  refine .bind inferInstance fun named _ => ?_
  extract_lets rest
  have rests (found : { found : Option Node // Spanned found }) : Spanning (rest found.1) := by
    obtain ⟨found, spanned⟩ := found
    refine .bind inferInstance fun type _ => ?_
    cases found with
    | none => infer_instance
    | some name =>
      have := spanned.of_some
      infer_instance
  infer_instance

instance spanning_return_type (mark : Kind) (inType : Bool) :
    Spanning (parseReturnType parse mark inType) := by
  dsimp only [parseReturnType]
  infer_instance

instance spanning_signature_member (kind : Kind) : Spanning (parseSignatureMember parse kind) := by
  dsimp only [parseSignatureMember]
  infer_instance

instance spanning_index_signature (pos : Nat) (modifiers : Option NodeList) [Spanned modifiers] :
    Spanning (parseIndexSignature parse pos modifiers) := by
  unfold parseIndexSignature
  infer_instance

instance spanning_property_or_method_signature (pos : Nat) (modifiers : Option NodeList)
    [Spanned modifiers] :
    Spanning (parsePropertyOrMethodSignature parse pos modifiers) := by
  unfold parsePropertyOrMethodSignature
  refine .bind inferInstance fun name _ => ?_
  refine .bind inferInstance fun question _ => ?_
  refine .bind inferInstance fun method _ => ?_
  split
  · refine .bind inferInstance fun typeParameters _ => ?_
    refine .bind inferInstance fun parameters _ => ?_
    infer_instance
  · refine .bind inferInstance fun type _ => ?_
    refine .bind inferInstance fun initialized _ => ?_
    extract_lets rest
    have rests (initializer : { found : Option Node // Spanned found }) :
        Spanning (rest initializer.1) := by
      dsimp only [rest]
      infer_instance
    infer_instance

instance spanning_function_block_or_semicolon (yields awaits inType : Bool) (message : Option String) :
    Spanning (parseFunctionBlockOrSemicolon parse yields awaits inType message) := by
  dsimp only [parseFunctionBlockOrSemicolon]
  infer_instance

instance spanning_accessor (pos : Nat) (modifiers : Option NodeList) (kind : Kind) (inType : Bool)
    [Spanned modifiers] : Spanning (parseAccessor parse pos modifiers kind inType) := by
  unfold parseAccessor
  infer_instance

instance spanning_type_member : Spanning (parseTypeMember parse) := by
  dsimp only [parseTypeMember]
  infer_instance

instance spanning_object_type_members : Spanning (parseObjectTypeMembers parse) := by
  unfold parseObjectTypeMembers
  infer_instance

instance spanning_signed_token (kind : Kind) : Spanning (parseSignedToken kind) := by
  dsimp only [parseSignedToken]
  infer_instance

instance spanning_mapped_type : Spanning (parseMappedType parse) := by
  unfold parseMappedType
  refine .bind inferInstance fun pos _ => ?_
  refine .bind inferInstance fun _ _ => ?_
  refine .bind inferInstance fun readonly _ => ?_
  refine .bind inferInstance fun _ _ => ?_
  refine .bind inferInstance fun parameterPos _ => ?_
  refine .bind inferInstance fun name _ => ?_
  refine .bind inferInstance fun _ _ => ?_
  refine .bind inferInstance fun constraint _ => ?_
  refine .bind inferInstance fun parameter _ => ?_
  refine .bind inferInstance fun renamed _ => ?_
  extract_lets rest
  have rests (nameType : { found : Option Node // Spanned found }) : Spanning (rest nameType.1) := by
    refine .bind inferInstance fun _ _ => ?_
    refine .bind inferInstance fun question _ => ?_
    infer_instance
  infer_instance

instance spanning_tuple_element_type : Spanning (parseTupleElementType parse) := by
  dsimp only [parseTupleElementType]
  refine .bind inferInstance fun pos _ => ?_
  refine .bind inferInstance fun isRest _ => ?_
  split
  · infer_instance
  · refine .bind inferInstance fun type spanned => ?_
    split
    next inner _ has =>
      have : Spanned (some inner) := has ▸ inferInstance
      have : Spanned inner := Spanned.of_some this
      have : Spanned (Node.make { kind := .optionalType, span := type.info.span } [.one .type inner]) :=
        spanned_make spanned.node.own
      infer_instance
    next => infer_instance

instance spanning_tuple_element : Spanning (parseTupleElement parse) := by
  dsimp only [parseTupleElement]
  infer_instance

instance spanning_this_type : Spanning parseThisType := by
  unfold parseThisType
  infer_instance

instance spanning_literal_type (negative : Bool) : Spanning (parseLiteralType negative) := by
  dsimp only [parseLiteralType]
  infer_instance

instance spanning_import_attribute : Spanning (parseImportAttribute parse) := by
  dsimp only [parseImportAttribute]
  infer_instance

instance spanning_import_attributes (word : Kind) (skipWord : Bool) :
    Spanning (parseImportAttributes parse word skipWord) := by
  dsimp only [parseImportAttributes]
  infer_instance

instance spanning_import_type : Spanning (parseImportType parse) := by
  unfold parseImportType
  refine .bind inferInstance fun pos _ => ?_
  refine .bind inferInstance fun typeOf _ => ?_
  refine .bind inferInstance fun _ _ => ?_
  refine .bind inferInstance fun _ _ => ?_
  refine .bind inferInstance fun argument _ => ?_
  refine .bind inferInstance fun attributed _ => ?_
  extract_lets rest
  have rests (attributes : { found : Option Node // Spanned found }) :
      Spanning (rest attributes.1) := by
    dsimp only [rest]
    infer_instance
  infer_instance

instance spanning_template_type : Spanning (parseTemplateType parse) := by
  dsimp only [parseTemplateType]
  infer_instance

instance spanning_type_query : Spanning (parseTypeQuery parse) := by
  dsimp only [parseTypeQuery]
  infer_instance

instance spanning_doc_type : Spanning (parseDocType parse) := by
  dsimp only [parseDocType]
  infer_instance

instance spanning_doc_parameter : Spanning (parseDocParameter parse) := by
  dsimp only [parseDocParameter]
  infer_instance

instance spanning_doc_function_type : Spanning (parseDocFunctionType parse) := by
  unfold parseDocFunctionType
  infer_instance

instance spanning_doc_question : Spanning (parseDocQuestion parse) := by
  unfold parseDocQuestion
  infer_instance

instance spanning_doc_any : Spanning parseDocAny := by
  unfold parseDocAny
  infer_instance

instance spanning_non_array_type : Spanning (parseNonArrayType parse) := by
  dsimp only [parseNonArrayType]
  refine .bind inferInstance fun word _ => ?_
  split
  all_goals try infer_instance
  all_goals try
    refine .bind_option inferInstance ?_ fun node _ => ?_
    · infer_instance
    · infer_instance
  refine .bind inferInstance fun asserting _ => ?_
  split
  · refine .bind inferInstance fun pos _ => ?_
    refine .bind inferInstance fun asserts _ => ?_
    infer_instance
  · infer_instance

instance spanning_postfix_type : Spanning (parsePostfixType parse) := by
  unfold parsePostfixType
  refine .bind inferInstance fun pos _ => ?_
  refine .bind inferInstance fun first _ => ?_
  extract_lets step
  have steps (type : { type : Node // Spanned type }) : Spanning (step type.1) := by
    refine .bind inferInstance fun broken _ => ?_
    split
    · infer_instance
    · refine .bind inferInstance fun word _ => ?_
      split <;> infer_instance
  infer_instance

instance spanning_type_operator : Spanning (parseTypeOperator parse) := by
  dsimp only [parseTypeOperator]
  refine .bind inferInstance fun word _ => ?_
  split <;> infer_instance

instance spanning_function_type : Spanning (parseFunctionType parse) := by
  dsimp only [parseFunctionType]
  infer_instance

instance spanning_stray_function_type (union : Bool) :
    Spanning (parseStrayFunctionType parse union) := by
  dsimp only [parseStrayFunctionType]
  infer_instance

instance spanning_joined_types (operator kind : Kind) (operand : P Node) [Spanning operand] :
    Spanning (parseJoinedTypes parse operator kind operand) := by
  unfold parseJoinedTypes
  extract_lets union constituent step
  have inner : Spanning constituent := by
    refine .bind_option inferInstance ?_ fun node _ => ?_
    · infer_instance
    · infer_instance
  dsimp only [step]
  infer_instance

instance spanning_union_type : Spanning (parseUnionType parse) := by
  unfold parseUnionType
  infer_instance

instance spanning_type : Spanning (parseType parse) := by
  unfold parseType
  refine @Spanning.withAllowance _ _ _ _ ?_
  refine .bind inferInstance fun function _ => ?_
  split
  · infer_instance
  · refine .bind inferInstance fun pos _ => ?_
    refine .bind inferInstance fun type _ => ?_
    refine .bind inferInstance fun state _ => ?_
    refine .bind inferInstance fun broken _ => ?_
    refine .bind inferInstance fun conditional _ => ?_
    split
    · refine .bind inferInstance fun _ _ => ?_
      refine .bind inferInstance fun extendsType _ => ?_
      infer_instance
    · infer_instance

/-! ## Tags -/

instance spanning_plain_name : Spanning parsePlainName := by
  dsimp only [parsePlainName]
  infer_instance

instance spanning_namespaced_name : Spanning parseNamespacedName := by
  unfold parseNamespacedName
  infer_instance

instance spanning_element_name : Spanning parseElementName := by
  dsimp only [parseElementName]
  refine .bind inferInstance fun pos _ => ?_
  refine .bind inferInstance fun _ _ => ?_
  refine .bind inferInstance fun isThis _ => ?_
  refine .bind inferInstance fun first spanned => ?_
  have : Spanned (Node.leaf { kind := .thisKeyword, span := first.info.span }) :=
    spanned_leaf spanned.node.own
  infer_instance

instance spanning_tag_expression (inExpression : Bool) :
    Spanning (parseTagExpression parse inExpression) := by
  unfold parseTagExpression
  refine .bind inferInstance fun pos _ => ?_
  refine .bind inferInstance fun opened _ => ?_
  extract_lets afterParts afterDots
  have parts (pair : { pair : Option Node × Option Node // Spanned pair }) :
      Spanning (afterParts pair.1) := by
    obtain ⟨⟨dots, expression⟩, spanned⟩ := pair
    have : Spanned dots := spanned.fst
    have : Spanned expression := spanned.snd
    dsimp only [afterParts]
    infer_instance
  infer_instance

instance spanning_attribute_value : Spanning (parseAttributeValue parse) := by
  dsimp only [parseAttributeValue]
  refine .bind inferInstance fun present _ => ?_
  split
  · infer_instance
  · refine .bind inferInstance fun state _ => ?_
    refine .bind inferInstance fun _ _ => ?_
    refine .bind inferInstance fun word _ => ?_
    split <;> infer_instance

instance spanning_attribute : Spanning (parseAttribute parse) := by
  unfold parseAttribute
  infer_instance

instance spanning_opening (inExpression : Bool) : Spanning (parseOpening parse inExpression) := by
  unfold parseOpening
  refine .bind inferInstance fun pos _ => ?_
  refine .bind inferInstance fun _ _ => ?_
  refine .bind inferInstance fun fragment _ => ?_
  split
  · infer_instance
  · refine .bind inferInstance fun name _ => ?_
    refine .bind inferInstance fun state _ => ?_
    refine .bind inferInstance fun generic _ => ?_
    extract_lets afterArguments
    have arguments (list : { list : Option NodeList // Spanned list }) :
        Spanning (afterArguments list.1) := by
      obtain ⟨arguments, _⟩ := list
      refine .bind inferInstance fun attributesPos _ => ?_
      refine .bind inferInstance fun properties _ => ?_
      refine .bind inferInstance fun attributes _ => ?_
      extract_lets parts
      have : Spanned parts := inferInstanceAs (Spanned [_, _, _])
      have : Arranged parts := inferInstanceAs (Arranged [_, _, _])
      clear_value parts
      infer_instance
    infer_instance

instance spanning_closing (openName : String) (inExpression : Bool) :
    Spanning (parseClosing openName inExpression) := by
  dsimp only [parseClosing]
  infer_instance

instance spanning_closing_fragment (inExpression : Bool) :
    Spanning (parseClosingFragment inExpression) := by
  dsimp only [parseClosingFragment]
  infer_instance

instance spanning_tag_child (opening : Node) (name : Option String) :
    Spanning (parseTagChild parse opening name) := by
  dsimp only [parseTagChild]
  refine .bind inferInstance fun word _ => ?_
  split
  · split <;> infer_instance
  all_goals infer_instance

instance spanning_tag_children (opening : Node) (name : Option String) :
    Spanning (parseTagChildren parse opening name) := by
  unfold parseTagChildren
  extract_lets step
  have steps (nodes : { nodes : List Node // Spanned nodes }) : Spanning (step nodes.1) := by
    refine .bind_option inferInstance ?_ fun child _ => ?_
    · infer_instance
    · infer_instance
  infer_instance

/-- A child that took the closing tag of the element around it has that tag. -/
theorem closing_of_stolen {name : Option String} {child : Node}
    (stole : stoleClosing name child = true) :
    ∃ closing, child.child? .closingElement = some closing := by
  unfold stoleClosing at stole
  split at stole
  next _ _ _ names =>
    unfold elementNames at names
    cases closing : child.child? .closingElement with
    | none => simp [closing] at names
    | some found => exact ⟨found, rfl⟩
  next => cases stole

instance spanning_element_rest (opening : Node) (inExpression : Bool) (parent : Option String) :
    Spanning (parseElementRest parse opening inExpression parent) := by
  dsimp only [parseElementRest]
  refine .bind inferInstance fun children spanned => ?_
  split
  next last listed =>
    split
    next stole =>
      obtain ⟨closing, has⟩ := closing_of_stolen stole
      have whole : Spanned last :=
        Spanned.of_node (spanned.spans last (List.mem_of_getLast? listed))
      have : Spanned (some closing) := has ▸ inferInstance
      have : Spanned closing := Spanned.of_some this
      rw [has, Option.getD_some]
      infer_instance
    next => infer_instance
  next => infer_instance

instance spanning_tag (inExpression mustBeUnary : Bool) (first : Option Nat) (parent : Option String) :
    Spanning (parseTag parse inExpression mustBeUnary first parent) := by
  unfold parseTag
  refine .bind inferInstance fun pos _ => ?_
  refine .bind inferInstance fun opening _ => ?_
  extract_lets place rest
  have rests (result : { result : Node // Spanned result }) : Spanning (rest result.1) := by
    obtain ⟨result, _⟩ := result
    dsimp only [rest]
    refine .bind inferInstance fun further _ => ?_
    split
    · refine .bind_option inferInstance ?_ fun second _ => ?_
      · infer_instance
      · have (edge : Nat) : Spanned (Node.leaf
            { kind := .commaToken, span := some { start := edge, stop := edge } }) :=
          spanned_leaf rfl
        infer_instance
    · infer_instance
  split <;> infer_instance

end

end Codemod.Grammar
