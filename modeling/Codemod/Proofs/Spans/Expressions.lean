import Codemod.Grammar.Classes
import Codemod.Proofs.Spans.Types

/-!
# Spans of expressions and classes

An expression that a link is attached to may be marked as part of a chain or
split from its type arguments; neither takes a span away.
-/
namespace Codemod.Grammar

open Syntax

-- An instance has a part for each step of a reader and each part of a node that it makes.
set_option synthInstance.maxSize 2000

/-! ## Links of a chain -/

/-- Marking an expression as part of a chain keeps the spans, by induction down the assertions of
presence. -/
theorem spans_marked_chain (expression : Node) (spanned : expression.Spanned) :
    (markedChain expression).Spanned := by
  induction spanned with
  | @mk info children own arranged below inductionHypothesis =>
    unfold markedChain
    split
    · refine .mk own arranged fun child present => ?_
      split at present
      next inner =>
        cases List.mem_singleton.mp present
        exact inductionHypothesis inner (List.mem_singleton.mpr rfl)
      next => exact below child present
    · exact .mk own arranged below

instance spanned_marked_chain (expression : Node) [spanned : Spanned expression] :
    Spanned (markedChain expression) :=
  .of_node (spans_marked_chain expression spanned.node)

instance spanned_linked (expression : Node) (dot : Option Node) [Spanned expression] :
    Spanned (linked expression dot) := by
  unfold linked
  infer_instance

instance spanned_split_arguments (expression : Node) [Spanned expression] :
    Spanned (splitArguments expression) := by
  unfold splitArguments
  infer_instance

section

variable {parse : Goal → P Node} [∀ goal, Spanning (parse goal)]

instance spanning_arrow_modifiers : Spanning parseArrowModifiers := by
  unfold parseArrowModifiers
  infer_instance

instance spanning_arrow_body (async allowReturnType : Bool) :
    Spanning (parseArrowBody parse async allowReturnType) := by
  dsimp only [parseArrowBody]
  infer_instance

instance spanning_simple_arrow (pos : Nat) (name : Node) (allowReturnType : Bool)
    (modifiers : Option NodeList)
    [Spanned name] [Spanned modifiers] :
    Spanning (parseSimpleArrow parse pos name allowReturnType modifiers) := by
  dsimp only [parseSimpleArrow]
  infer_instance

instance spanning_parenthesized_arrow (sure allowReturnType : Bool) :
    Spanning (parseParenthesizedArrow parse sure allowReturnType) := by
  unfold parseParenthesizedArrow
  refine .bind inferInstance fun pos _ => ?_
  refine .bind inferInstance fun modifiers _ => ?_
  refine .bind inferInstance fun typeParameters _ => ?_
  refine .bind inferInstance fun opened _ => ?_
  extract_lets rest
  have rests (parameters : { list : NodeList // Spanned list }) : Spanning (rest parameters.1) := by
    obtain ⟨parameters, _⟩ := parameters
    dsimp only [rest]
    refine .bind inferInstance fun colon _ => ?_
    refine .bind inferInstance fun type _ => ?_
    split <;> infer_instance
  split
  · refine .bind_option inferInstance ?_ fun list _ => ?_
    · infer_instance
    · infer_instance
  · infer_instance

instance : HasNodes Certainty := ⟨fun _ => []⟩
instance : Nodeless Certainty := ⟨fun _ => rfl⟩

instance spanning_try_arrow (allowReturnType : Bool) :
    Spanning (tryParseArrow parse allowReturnType) := by
  dsimp only [tryParseArrow]
  refine .bind inferInstance fun sure _ => ?_
  split <;> infer_instance

instance spanning_try_async_arrow (allowReturnType : Bool) :
    Spanning (tryParseAsyncArrow parse allowReturnType) := by
  dsimp only [tryParseAsyncArrow]
  infer_instance

instance spanning_yield : Spanning (parseYield parse) := by
  unfold parseYield
  infer_instance

instance spanning_make_binary (left operator right : Node) (pos : Nat) [Spanned left] [Spanned operator]
    [Spanned right] : Spanning (makeBinary left operator right pos) := by
  unfold makeBinary
  infer_instance

instance spanning_conditional_rest (condition : Node) (pos : Nat) (allowReturnType : Bool)
    [Spanned condition] :
    Spanning (parseConditionalRest parse condition pos allowReturnType) := by
  dsimp only [parseConditionalRest]
  refine .bind_option inferInstance ?_ fun question _ => ?_
  · infer_instance
  · infer_instance

instance spanning_assignment (allowReturnType : Bool) :
    Spanning (parseAssignment parse allowReturnType) := by
  dsimp only [parseAssignment]
  refine .bind inferInstance fun yields _ => ?_
  split
  · infer_instance
  · refine .bind_option inferInstance ?_ fun arrow _ => ?_
    · refine .bind_option inferInstance ?_ fun arrow _ => ?_
      · dsimp only
        infer_instance
      · infer_instance
    · infer_instance

instance spanning_expression : Spanning (parseExpression parse) := by
  unfold parseExpression
  refine @Spanning.withAllowance _ _ _ _ ?_
  refine .bind inferInstance fun pos _ => ?_
  refine .bind inferInstance fun first _ => ?_
  extract_lets step
  have steps (left : { left : Node // Spanned left }) : Spanning (step left.1) := by
    refine .bind_option inferInstance ?_ fun comma _ => ?_
    · infer_instance
    · infer_instance
  infer_instance

instance spanning_binary_rest (precedence : Nat) (first : Node) (pos : Nat) [Spanned first] :
    Spanning (parseBinaryRest parse precedence first pos) := by
  dsimp only [parseBinaryRest]
  infer_instance

instance spanning_binary (precedence : Nat) : Spanning (parseBinary parse precedence) := by
  unfold parseBinary
  infer_instance

instance spanning_update : Spanning (parseUpdate parse) := by
  dsimp only [parseUpdate]
  infer_instance

instance spanning_simple_unary : Spanning (parseSimpleUnary parse) := by
  dsimp only [parseSimpleUnary]
  refine .bind inferInstance fun pos _ => ?_
  refine .bind inferInstance fun operator _ => ?_
  split <;> infer_instance

instance spanning_unary : Spanning (parseUnary parse) := by
  dsimp only [parseUnary]
  infer_instance

instance spanning_expression_type_arguments : Spanning (parseExpressionTypeArguments parse) := by
  dsimp only [parseExpressionTypeArguments]
  infer_instance

instance spanning_template (tagged : Bool) : Spanning (parseTemplate parse tagged) := by
  dsimp only [parseTemplate]
  infer_instance

instance spanning_tagged_template (pos : Nat) (tag : Node) (dot : Option Node)
    (arguments : Option NodeList) [Spanned tag]
    [Spanned dot] [Spanned arguments] :
    Spanning (parseTaggedTemplate parse pos tag dot arguments) := by
  dsimp only [parseTaggedTemplate]
  infer_instance

instance spanning_property_access (pos : Nat) (expression : Node) (dot : Option Node)
    [Spanned expression] [Spanned dot] :
    Spanning (parsePropertyAccess pos expression dot) := by
  dsimp only [parsePropertyAccess]
  refine .bind inferInstance fun name _ => ?_
  split
  · refine .bind inferInstance fun _ _ => ?_
    split <;> infer_instance
  · split <;> infer_instance

instance spanning_element_access (pos : Nat) (expression : Node) (dot : Option Node)
    [Spanned expression] [Spanned dot] :
    Spanning (parseElementAccess parse pos expression dot) := by
  dsimp only [parseElementAccess]
  infer_instance

instance spanning_member_rest (pos : Nat) (first : Node) (allowChain : Bool) [Spanned first] :
    Spanning (parseMemberRest parse pos first allowChain) := by
  unfold parseMemberRest
  extract_lets step
  have steps (expression : { expression : Node // Spanned expression }) :
      Spanning (step expression.1) := by
    obtain ⟨expression, _⟩ := expression
    refine .bind inferInstance fun asked _ => ?_
    extract_lets finish afterAsked
    have afterwards (chained : Bool) : Spanning (afterAsked chained) := by
      dsimp -zeta only [afterAsked]
      extract_lets afterDot
      have afterDots (dot : { dot : Option Node // Spanned dot }) : Spanning (afterDot dot.1) := by
        obtain ⟨dot, _⟩ := dot
        dsimp -zeta only [afterDot]
        extract_lets afterBracket afterMember
        have : Spanning (afterBracket ()) := by
          refine .bind inferInstance fun template _ => ?_
          split
          · infer_instance
          · split
            · refine .bind inferInstance fun asserted _ => ?_
              refine .bind inferInstance fun broken _ => ?_
              split
              · infer_instance
              · refine .bind_option inferInstance ?_ fun arguments _ => ?_
                · infer_instance
                · infer_instance
            · infer_instance
        have afterMembers (member : Bool) : Spanning (afterMember member) := by
          dsimp only [afterMember]
          infer_instance
        infer_instance
      infer_instance
    infer_instance
  infer_instance

instance spanning_element : Spanning (parseElement parse) := by
  unfold parseElement
  refine .bind inferInstance fun word _ => ?_
  split <;> infer_instance

instance spanning_arguments : Spanning (parseArguments parse) := by
  unfold parseArguments
  infer_instance

instance spanning_call_rest (pos : Nat) (first : Node) [Spanned first] :
    Spanning (parseCallRest parse pos first) := by
  unfold parseCallRest
  extract_lets step
  have steps (expression : { expression : Node // Spanned expression }) :
      Spanning (step expression.1) := by
    obtain ⟨expression, _⟩ := expression
    refine .bind inferInstance fun expression _ => ?_
    refine .bind inferInstance fun dot _ => ?_
    extract_lets afterArguments
    have afterwards (arguments : { found : Option NodeList // Spanned found }) :
        Spanning (afterArguments arguments.1) := by
      dsimp only [afterArguments]
      infer_instance
    infer_instance
  infer_instance

instance spanning_method (pos : Nat) (modifiers : Option NodeList) (asterisk : Option Node) (name : Node)
    (question exclamation : Option Node) (message : Option String) [Spanned modifiers]
    [Spanned asterisk] [Spanned name] [Spanned question] [Spanned exclamation] :
    Spanning (parseMethod parse pos modifiers asterisk name question exclamation message) := by
  dsimp only [parseMethod]
  infer_instance

instance spanning_object_element : Spanning (parseObjectElement parse) := by
  unfold parseObjectElement
  refine .bind inferInstance fun pos _ => ?_
  refine .bind inferInstance fun spread _ => ?_
  split
  · infer_instance
  · refine .bind inferInstance fun modifiers _ => ?_
    refine .bind inferInstance fun gets _ => ?_
    split
    · infer_instance
    · refine .bind inferInstance fun sets _ => ?_
      split
      · infer_instance
      · refine .bind inferInstance fun asterisk _ => ?_
        refine .bind inferInstance fun plain _ => ?_
        refine .bind inferInstance fun name _ => ?_
        refine .bind inferInstance fun question _ => ?_
        refine .bind inferInstance fun exclamation _ => ?_
        refine .bind inferInstance fun method _ => ?_
        split
        · infer_instance
        · refine .bind inferInstance fun keyed _ => ?_
          split
          · refine .bind inferInstance fun equals _ => ?_
            split <;> infer_instance
          · infer_instance

instance spanning_object : Spanning (parseObject parse) := by
  dsimp only [parseObject]
  infer_instance

instance spanning_array : Spanning (parseArray parse) := by
  dsimp only [parseArray]
  infer_instance

instance spanning_function_expression : Spanning (parseFunctionExpression parse) := by
  dsimp only [parseFunctionExpression]
  refine @Spanning.withAllowance _ _ _ _ ?_
  refine .bind inferInstance fun pos _ => ?_
  refine .bind inferInstance fun modifiers _ => ?_
  refine .bind inferInstance fun _ _ => ?_
  refine .bind inferInstance fun asterisk _ => ?_
  infer_instance

instance spanning_parenthesized : Spanning (parseParenthesized parse) := by
  dsimp only [parseParenthesized]
  infer_instance

instance spanning_primary_with (construction : P Node) [Spanning construction] :
    Spanning (parsePrimaryWith parse construction) := by
  dsimp only [parsePrimaryWith]
  refine .bind inferInstance fun word _ => ?_
  split <;> infer_instance

/-- Constructions of constructions, by induction on how many may stand within one another. -/
instance spanning_new (fuel : Nat) : Spanning (parseNew parse fuel) := by
  induction fuel with
  | zero => exact inferInstanceAs (Spanning (missing _ _))
  | succ fuel inductionHypothesis =>
    unfold parseNew
    refine .bind inferInstance fun pos _ => ?_
    refine .bind inferInstance fun _ _ => ?_
    refine .bind inferInstance fun dotted _ => ?_
    split
    · infer_instance
    · refine .bind inferInstance fun start _ => ?_
      refine .bind inferInstance fun operand _ => ?_
      refine .bind inferInstance fun callee _ => ?_
      have parted : Spanned (splitArguments callee) := inferInstance
      generalize splitArguments callee = pair at parted
      obtain ⟨name, arguments⟩ := pair
      have : Spanned name := parted.fst
      have : Spanned arguments := parted.snd
      dsimp only
      infer_instance

instance spanning_primary : Spanning (parsePrimary parse) := by
  unfold parsePrimary
  infer_instance

instance spanning_super : Spanning (parseSuper parse) := by
  unfold parseSuper
  refine .bind inferInstance fun pos _ => ?_
  refine .bind inferInstance fun base _ => ?_
  refine .bind inferInstance fun typed _ => ?_
  extract_lets rest
  have rests (base : { base : Node // Spanned base }) : Spanning (rest base.1) := by
    dsimp only [rest]
    infer_instance
  split
  · refine .bind inferInstance fun start _ => ?_
    refine .bind_option inferInstance ?_ fun arguments _ => ?_
    · infer_instance
    · infer_instance
  · infer_instance

instance spanning_left_hand_side : Spanning (parseLeftHandSide parse) := by
  dsimp only [parseLeftHandSide]
  refine .bind inferInstance fun pos _ => ?_
  refine .bind inferInstance fun word _ => ?_
  split <;> infer_instance

instance spanning_decorator_expression : Spanning (parseDecoratorExpression parse) := by
  unfold parseDecoratorExpression
  infer_instance

/-! ## Functions, classes, interfaces and enumerations -/

instance spanning_missing_before (kind : Kind) (message : String) :
    Spanning (missingBefore kind message) := by
  unfold missingBefore
  infer_instance

instance spanning_missing_declaration (pos : Nat) (modifiers : Option NodeList) (message : String)
    [Spanned modifiers] :
    Spanning (missingDeclaration pos modifiers message) := by
  unfold missingDeclaration
  infer_instance

instance spanning_block (ignoreMissing : Bool) (message : Option String) :
    Spanning (parseBlock parse ignoreMissing message) := by
  dsimp only [parseBlock]
  infer_instance

instance spanning_function_block (yields awaits ignoreMissing : Bool) (message : Option String) :
    Spanning (parseFunctionBlock parse yields awaits ignoreMissing message) := by
  unfold parseFunctionBlock
  infer_instance

instance spanning_function_declaration (pos : Nat) (modifiers : Option NodeList) [Spanned modifiers] :
    Spanning (parseFunctionDeclaration parse pos modifiers) := by
  dsimp only [parseFunctionDeclaration]
  refine .bind inferInstance fun _ _ => ?_
  refine .bind inferInstance fun asterisk _ => ?_
  infer_instance

instance spanning_try_constructor (pos : Nat) (modifiers : Option NodeList) [Spanned modifiers] :
    Spanning (tryParseConstructor parse pos modifiers) := by
  unfold tryParseConstructor
  infer_instance

instance spanning_property_declaration (pos : Nat) (modifiers : Option NodeList) (name : Node)
    (question : Option Node)
    [Spanned modifiers] [Spanned name] [Spanned question] :
    Spanning (parsePropertyDeclaration parse pos modifiers name question) := by
  dsimp only [parsePropertyDeclaration]
  infer_instance

instance spanning_property_or_method (pos : Nat) (modifiers : Option NodeList) [Spanned modifiers] :
    Spanning (parsePropertyOrMethod parse pos modifiers) := by
  unfold parsePropertyOrMethod
  infer_instance

instance spanning_class_element : Spanning (parseClassElement parse) := by
  unfold parseClassElement
  refine .bind inferInstance fun pos _ => ?_
  refine .bind inferInstance fun ended _ => ?_
  split
  · infer_instance
  · refine .bind inferInstance fun modifiers _ => ?_
    refine .bind inferInstance fun static _ => ?_
    refine .bind inferInstance fun opened _ => ?_
    split
    · infer_instance
    · refine .bind inferInstance fun gets _ => ?_
      split
      · infer_instance
      · refine .bind inferInstance fun sets _ => ?_
        split
        · infer_instance
        · refine .bind inferInstance fun named _ => ?_
          extract_lets rest
          split
          · refine .bind_option inferInstance ?_ fun node _ => ?_
            · dsimp only [rest]
              infer_instance
            · infer_instance
          · dsimp only [rest]
            infer_instance

instance spanning_heritage_type : Spanning (parseHeritageType parse) := by
  dsimp only [parseHeritageType]
  infer_instance

instance spanning_heritage_clause : Spanning (parseHeritageClause parse) := by
  unfold parseHeritageClause
  infer_instance

instance spanning_heritage_clauses : Spanning (parseHeritageClauses parse) := by
  unfold parseHeritageClauses
  infer_instance

instance spanning_class (pos : Nat) (modifiers : Option NodeList) (kind : Kind) [Spanned modifiers] :
    Spanning (parseClass parse pos modifiers kind) := by
  unfold parseClass
  refine .bind inferInstance fun _ _ => ?_
  refine .bind inferInstance fun unnamed _ => ?_
  refine .bind inferInstance fun named _ => ?_
  extract_lets afterName
  have names (name : { found : Option Node // Spanned found }) : Spanning (afterName name.1) := by
    obtain ⟨name, _⟩ := name
    refine .bind inferInstance fun typeParameters _ => ?_
    refine @Spanning.withAllowance _ _ _ _ ?_
    refine .bind inferInstance fun heritage _ => ?_
    infer_instance
  infer_instance

instance spanning_class_expression : Spanning (parseClassExpression parse) := by
  unfold parseClassExpression
  infer_instance

instance spanning_interface (pos : Nat) (modifiers : Option NodeList) [Spanned modifiers] :
    Spanning (parseInterface parse pos modifiers) := by
  unfold parseInterface
  infer_instance

instance spanning_type_alias (pos : Nat) (modifiers : Option NodeList) [Spanned modifiers] :
    Spanning (parseTypeAlias parse pos modifiers) := by
  unfold parseTypeAlias
  refine .bind inferInstance fun _ _ => ?_
  refine .bind inferInstance fun broken _ => ?_
  extract_lets intrinsic rest
  have : Spanning (rest ()) := by
    refine .bind inferInstance fun name _ => ?_
    refine .bind inferInstance fun typeParameters _ => ?_
    refine .bind inferInstance fun _ _ => ?_
    refine .bind inferInstance fun asked _ => ?_
    extract_lets afterType afterWord
    have afterWords (word : { word : Option Node // Spanned word }) :
        Spanning (afterWord word.1) := by
      obtain ⟨word, spanned⟩ := word
      dsimp only [afterWord]
      cases word with
      | none => infer_instance
      | some node =>
        have := spanned.of_some
        infer_instance
    dsimp only [intrinsic]
    infer_instance
  infer_instance

instance spanning_enum_member : Spanning (parseEnumMember parse) := by
  unfold parseEnumMember
  infer_instance

instance spanning_enum (pos : Nat) (modifiers : Option NodeList) [Spanned modifiers] :
    Spanning (parseEnum parse pos modifiers) := by
  dsimp only [parseEnum]
  infer_instance

end

end Codemod.Grammar
