import Codemod.Proofs.Fitting
import Codemod.Proofs.Visiting

/-!
# The rules of the fixes

The two fixes that come with the program have one shape: at a node of a kind whose name before the
arguments refers to an export, other arguments are put into the node. What differs is the rule that
says which arguments.

Both rules obey the same laws. A rule asks no more of the arguments than what stays the same when
they are put in parentheses or changed inside; what it puts in their place holds what they hold, less
a literal; and it has nothing to do where it was applied.
-/
namespace Codemod.Fix

open Syntax Node Imports

/-- What a fix does to a node of a kind whose name before the arguments refers to an export. -/
structure Rule where
  kind : Kind
  /-- New arguments for a node, given whether it has a list of arguments, the export that it refers
  to, and the arguments. -/
  renew : Bool → String → List Node → Option (List Node)

/-- Calls of `dial` lose an empty second argument of three. -/
def dialRule : Rule where
  kind := .callExpression
  renew _ exported arguments :=
    if exported == "dial" then
      match arguments with
      | [network, localAddress, address] =>
        if localAddress.isEmptyText then some [network, address] else none
      | _ => none
    else none

/-- Constructions of addresses with one or two positional arguments are given their fields by key. -/
def keyedRule : Rule where
  kind := .newExpression
  renew listed exported arguments :=
    if !listed then none
    else
      (addressFields exported).bind fun fields =>
        if arguments.isEmpty || arguments.length > 2 || !arguments.all isPositional then none
        else some [keyedArguments fields arguments]

/-- The classes with fields that are given by key, with the names of the fields in the order of the
arguments that stand for them: these three rows and no others. -/
theorem address_fields_iff {exported : String} {fields : String × String} :
    addressFields exported = some fields ↔
      exported = "IPAddr" ∧ fields = ("IP", "Zone") ∨
        (exported = "TCPAddr" ∨ exported = "UDPAddr") ∧ fields = ("IP", "Port") := by
  constructor
  · intro known
    unfold addressFields at known
    split at known
    · exact .inl ⟨rfl, (Option.some.inj known).symm⟩
    · exact .inr ⟨.inl rfl, (Option.some.inj known).symm⟩
    · exact .inr ⟨.inr rfl, (Option.some.inj known).symm⟩
    · cases known
  · rintro (⟨rfl, rfl⟩ | ⟨rfl | rfl, rfl⟩) <;> rfl

/-- The new arguments of a node, if the rule has some for it. -/
def Rule.renewal (rule : Rule) (resolve : Node → Option String) (node : Node) : Option (List Node) :=
  if node.kind == rule.kind then
    ((node.child? .expression).bind resolve).bind fun exported =>
      rule.renew (node.list? .arguments).isSome exported (node.items .arguments)
  else none

/-- The fix for constructions gives the node the arguments of its rule. Both ask the same questions of
the node, in another order. -/
theorem keyed_eq (file : Node) (bindings : Bindings) (node : Node) :
    keyed file bindings node =
      (keyedRule.renewal (resolve file bindings) node).map (withArguments node) := by
  unfold keyed Rule.renewal keyedRule
  dsimp only
  by_cases isNew : node.kind = .newExpression
  · simp only [isNew, bne_self_eq_false, Bool.false_or, beq_self_eq_true, if_true]
    rcases (node.child? .expression).bind (resolve file bindings) with _ | exported
    · simp
    · rcases node.list? .arguments with _ | list
      · simp
      · rw [Option.bind_some]
        simp only [Option.isNone_some, Option.isSome_some, Option.bind_some]
        rcases addressFields exported with _ | fields
        · simp
        · simp only [Bool.false_eq_true, if_false, Bool.not_true, Option.bind_some]
          split <;> rfl
  · simp [isNew]

/-- The fix for calls gives the node the arguments of its rule. Both ask for a call of `dial` with three
arguments and an empty text in the middle. -/
theorem redialled_eq (file : Node) (bindings : Bindings) (node : Node) :
    redialled file bindings node =
      (dialRule.renewal (resolve file bindings) node).map (withArguments node) := by
  unfold redialled isDial Rule.renewal dialRule
  dsimp only
  by_cases isCall : node.kind = .callExpression
  · rcases (node.child? .expression).bind (resolve file bindings) with _ | exported
    · simp
    · simp only [isCall, beq_self_eq_true, Bool.true_and, if_true, Option.bind_some]
      by_cases dials : exported = "dial"
      · subst dials
        rcases node.items .arguments with _ | ⟨first, _ | ⟨second, _ | ⟨third, _ | ⟨fourth, rest⟩⟩⟩⟩
        · rfl
        · rfl
        · rfl
        · by_cases empty : second.isEmptyText = true <;> simp [empty]
        · simp
      · simp [dials]
  · simp [isCall]

/-- The object literal with these properties. -/
def objectOf (properties : List Node) : Node :=
  Node.make { kind := .objectLiteralExpression } [.many .properties (newList properties)]

/-- A question about trees that frames and keys do not matter to, and that is answered no by
literals. -/
structure Transparent (test : Node → Bool) : Prop where
  frame (frame : Frame) (node : Node) : test (frame.put node) = test node
  property (name : String) (value : Node) : test (property name value) = test value
  object (properties : List Node) : test (objectOf properties) = properties.any test
  literal {node : Node} : node.isZero = true → test node = false

/-- A node of the kinds that frames, keys and literals are made of, with parts that are all visited. -/
structure Plain (node : Node) : Prop where
  kinds : node.kind = .parenthesizedExpression ∨ node.kind = .parenthesizedType ∨
    node.kind = .objectLiteralExpression ∨ node.kind = .propertyAssignment ∨
    node.kind = .identifier ∨ node.kind = .numericLiteral ∨ node.kind = .stringLiteral ∨
    node.kind = .noSubstitutionTemplateLiteral
  visited : (node.parts.all fun part => part.1.isVisited node.kind) = true
  rest : node.children.drop node.info.layout.length = []

/-- An empty text is a literal in quotes, or a template without holes, with no character in it. -/
theorem is_empty_text_iff {node : Node} : node.isEmptyText = true ↔
    node.children = [] ∧
      (node.kind = .stringLiteral ∨ node.kind = .noSubstitutionTemplateLiteral) ∧ node.text = "" := by
  simp only [isEmptyText, isText, Bool.and_eq_true, Bool.or_eq_true, List.isEmpty_iff, beq_iff_eq,
    and_assoc]

/-- The zero values are the number zero, which reads `0` however it was spelled, and the empty texts. The
two tests are for the kind and for the text of a literal. -/
theorem is_zero_iff {node : Node} : node.isZero = true ↔
    node.children = [] ∧ (node.kind = .numericLiteral ∧ node.text = "0" ∨
      (node.kind = .stringLiteral ∨ node.kind = .noSubstitutionTemplateLiteral) ∧ node.text = "") := by
  rw [isZero]
  split
  · rename_i isNumber
    have kind : node.kind = .numericLiteral := eq_of_beq isNumber
    simp [kind]
  · rename_i noNumber
    have kind : node.kind ≠ .numericLiteral := fun same => noNumber (beq_iff_eq.mpr same)
    rw [is_empty_text_iff]
    simp [kind]

/-- A literal with the zero value of its type has no parts. -/
theorem of_zero {node : Node} (zero : node.isZero = true) :
    node.children = [] ∧ (node.kind = .numericLiteral ∨ node.kind = .stringLiteral ∨
      node.kind = .noSubstitutionTemplateLiteral) := by
  obtain ⟨none, ⟨isNumber, _⟩ | ⟨isText, _⟩⟩ := is_zero_iff.mp zero
  · exact ⟨none, .inl isNumber⟩
  · exact ⟨none, .inr isText⟩

/-- The node that an object literal is, with its parts and its layout. -/
theorem object_eq (properties : List Node) : objectOf properties =
    .mk { kind := .objectLiteralExpression
          layout := properties.map fun _ => .properties
          lists := [(.properties, { span := none, trailingComma := false })] } properties := by
  simp [objectOf, make, Part.nodes, Part.role, Part.lists, newList]

/-- The parts of an object literal are its properties. -/
theorem parts_object (properties : List Node) :
    (objectOf properties).parts = properties.map fun property => (.properties, property) := by
  have paired : (properties.map fun _ => Role.properties).zip properties =
      properties.map fun property => (.properties, property) := by
    induction properties with
    | nil => rfl
    | cons property properties inductionHypothesis =>
      rw [List.map_cons, List.zip_cons_cons, inductionHypothesis, List.map_cons]
  rw [object_eq]
  exact paired

/-- An object literal is plain: none of its parts is skipped, it binds no names and it is neither a call
nor a construction. -/
theorem plain_object (properties : List Node) : Plain (objectOf properties) where
  kinds := .inr (.inr (.inl rfl))
  visited := by
    rw [parts_object, List.all_map, List.all_eq_true]
    exact fun _ _ => rfl
  rest := by
    rw [object_eq]
    exact List.drop_eq_nil_of_le (Nat.le_of_eq (List.length_map _).symm)

/-- A zero literal is plain and has no parts. -/
theorem plain_of_zero {node : Node} (zero : node.isZero = true) : Plain node ∧ node.parts = [] := by
  obtain ⟨none, kinds⟩ := of_zero zero
  have parts : node.parts = [] := by rw [parts, none, List.zip_nil_right]
  refine ⟨⟨?_, by rw [parts]; rfl, by rw [none, List.drop_nil]⟩, parts⟩
  rcases kinds with kind | kind | kind <;> simp [kind]

/-- A test is transparent when frames, keys and literals pass it on to their parts. All these are plain
nodes; a key is an identifier, in which there is nothing to test, and a literal has no parts. -/
theorem transparent_of_parts {test : Node → Bool}
    (through : ∀ node, Plain node → test node = node.parts.any fun part => test part.2) :
    Transparent test := by
  have frame (frame : Frame) (node : Node) : test (frame.put node) = test node := by
    cases frame with
    | none => rfl
    | placed => exact (through _ ⟨.inl rfl, rfl, rfl⟩).trans (Bool.or_false _)
    | loose => exact (through _ ⟨.inl rfl, rfl, rfl⟩).trans (Bool.or_false _)
    | type => exact (through _ ⟨.inr (.inl rfl), rfl, rfl⟩).trans (Bool.or_false _)
  refine ⟨frame, ?_, ?_, ?_⟩
  · intro name value
    obtain ⟨put, member⟩ := (Fitting.as_member : Fitting false asMember).framed value
    have key : test (Node.identifier name) = false :=
      through _ ⟨.inr (.inr (.inr (.inr (.inl rfl)))), rfl, rfl⟩
    refine (through _ ⟨.inr (.inr (.inr (.inl rfl))), rfl, rfl⟩).trans ?_
    change (test (Node.identifier name) || (test value.asMember || false)) = _
    rw [key, member, frame, Bool.or_false, Bool.false_or]
  · intro properties
    rw [through _ (plain_object properties), parts_object, List.any_map]
    rfl
  · intro node zero
    obtain ⟨plain, none⟩ := plain_of_zero zero
    rw [through node plain, none]
    rfl

/-- A change of trees that goes into parentheses and keyed values and keeps what an expression is. -/
structure Faithful (change : Node → Node) : Prop where
  placed (node : Node) : change node.parenthesized = (change node).parenthesized
  property (name : String) (value : Node) :
    change (property name value) = property name (change value)
  object (properties : List Node) :
    change (objectOf properties) = objectOf (properties.map change)
  kind (node : Node) : (change node).kind = node.kind
  strength (node : Node) : (change node).strength = node.strength
  emptyText (node : Node) : (change node).isEmptyText = node.isEmptyText
  zero (node : Node) : (change node).isZero = node.isZero

/-- A property of trees, graded by a number, that parentheses, keys and object literals raise by no more
than one for each node that they add. -/
structure Graded (property : Nat → Node → Prop) : Prop where
  raise {grade : Nat} {node : Node} : property grade node → property (grade + 1) node
  placed {grade : Nat} {node : Node} : property grade node → property (grade + 1) node.parenthesized
  keyed {grade : Nat} {value : Node} (name : String) :
    property grade value.asMember → property (grade + 1) (Fix.property name value)
  object {grade : Nat} {properties : List Node} :
    (∀ member ∈ properties, property grade member) → property (grade + 1) (objectOf properties)

/-- What is required of the rule of a fix. -/
structure Rule.Lawful (rule : Rule) : Prop where
  kind : rule.kind = .callExpression ∨ rule.kind = .newExpression
  listed {exported : String} {arguments : List Node} :
    rule.kind = .newExpression → rule.renew false exported arguments = none
  several {listed : Bool} {exported : String} {arguments renewed : List Node} :
    rule.renew listed exported arguments = some renewed →
      arguments ≠ [] ∧ renewed ≠ [] ∧
        (rule.kind = .callExpression → arguments.length ≠ 1 ∧ renewed.length ≠ 1)
  kept {test : Node → Bool} {listed : Bool} {exported : String} {arguments renewed : List Node} :
    Transparent test → rule.renew listed exported arguments = some renewed →
      renewed.any test = arguments.any test
  carried {change : Node → Node} {listed : Bool} {exported : String} {arguments others : List Node} :
    Faithful change →
      List.Forall₂ (fun x y => y.asMember = (change x).asMember) arguments others →
      (rule.renew listed exported others).map (·.map asMember) =
        (rule.renew listed exported arguments).map (·.map fun argument => (change argument).asMember)
  built {property : Nat → Node → Prop} {grade : Nat} {listed : Bool} {exported : String}
    {arguments renewed : List Node} :
    Graded property → (∀ argument ∈ arguments, property grade argument) →
      rule.renew listed exported arguments = some renewed →
        ∀ argument ∈ renewed, property (grade + 3) argument.asMember
  settled {listed again : Bool} {exported : String} {arguments renewed : List Node} :
    rule.renew listed exported arguments = some renewed →
      rule.renew again exported (renewed.map asMember) = none

/-- An expression that binds more tightly than a comma stands in a list as it is. -/
theorem as_member_of_strength {node : Node} (binds : node.strength > 0) : node.asMember = node := by
  rw [asMember, inParensUnless, if_pos (by simpa using binds)]

/-- A member of a list needs no second pair of parentheses. -/
@[simp] theorem as_member_as_member (node : Node) : node.asMember.asMember = node.asMember :=
  (Fitting.as_member : Fitting false asMember).settled node

/-- What needs parentheses among arguments is no literal and no list. It binds less tightly than a comma
demands, whereas literals and lists bind more tightly; in parentheses it is no literal and no list
either. -/
theorem as_member_literal (node : Node) :
    node.asMember.isEmptyText = node.isEmptyText ∧ node.asMember.isZero = node.isZero ∧
      isPositional node.asMember = isPositional node := by
  by_cases binds : node.strength > 0
  · rw [as_member_of_strength binds]
    exact ⟨rfl, rfl, rfl⟩
  · have put : node.asMember = node.parenthesized := by
      rw [asMember, inParensUnless, if_neg (by simpa using binds)]
    have notKind (kind : Kind) (binding : ∀ other : Node, other.kind = kind → other.strength > 0) :
        (node.kind == kind) = false :=
      beq_false_of_ne fun same => binds (binding node same)
    have notText := notKind Kind.stringLiteral fun other same => by
      rw [strength, same]
      exact (by decide : (20 : Int) > 0)
    have notTemplate := notKind Kind.noSubstitutionTemplateLiteral fun other same => by
      rw [strength, same]
      exact (by decide : (20 : Int) > 0)
    have notNumber := notKind Kind.numericLiteral fun other same => by
      rw [strength, same]
      exact (by decide : (20 : Int) > 0)
    have notObject := notKind Kind.objectLiteralExpression fun other same => by
      rw [strength, same]
      exact (by decide : (20 : Int) > 0)
    have notSpread := notKind Kind.spreadElement fun other same => by
      rw [strength, same]
      exact (by decide : (1 : Int) > 0)
    have empty : node.isEmptyText = false := by simp [isEmptyText, isText, notText, notTemplate]
    refine ⟨?_, ?_, ?_⟩
    · rw [put, empty]
      rfl
    · have notZero : node.isZero = false := by
        rw [isZero, notNumber, empty, if_neg Bool.false_ne_true]
      rw [put, notZero]
      rfl
    · have positional : isPositional node = true := by
        simp only [isPositional, bne, notObject, notSpread, Bool.not_false, Bool.and_self]
      rw [put, positional]
      rfl

/-- A faithful change can be made before or after an expression is made a member of a list: it keeps how
tightly the expression binds and goes through the parentheses. -/
theorem Faithful.as_member {change : Node → Node} (faithful : Faithful change) (node : Node) :
    change node.asMember = (change node).asMember := by
  rw [asMember, asMember, inParensUnless, inParensUnless, faithful.strength]
  split
  · rfl
  · exact faithful.placed node

/-- The value of a property is a member of a list in any case. -/
theorem property_as_member (name : String) (value : Node) :
    property name value.asMember = property name value := by
  rw [property, property, as_member_as_member]

section

variable {change : Node → Node} {x y : Node}

/-- An argument that became another one, up to parentheses, is the empty text if that one was. -/
theorem empty_text_of_member (faithful : Faithful change) (same : y.asMember = (change x).asMember) :
    y.isEmptyText = x.isEmptyText := by
  rw [← (as_member_literal y).1, same, (as_member_literal _).1, faithful.emptyText]

/-- An argument that became another one, up to parentheses, is a zero value if that one was. -/
theorem zero_of_member (faithful : Faithful change) (same : y.asMember = (change x).asMember) :
    y.isZero = x.isZero := by
  rw [← (as_member_literal y).2.1, same, (as_member_literal _).2.1, faithful.zero]

/-- An argument that became another one, up to parentheses, counts as positional if that one did. -/
theorem positional_of_member (faithful : Faithful change)
    (same : y.asMember = (change x).asMember) : isPositional y = isPositional x := by
  rw [← (as_member_literal y).2.2, same, (as_member_literal _).2.2, isPositional, isPositional,
    faithful.kind]

/-- A property that holds an argument is changed with the argument: making the property puts the
parentheses that the argument may lack. -/
theorem property_of_member (faithful : Faithful change) (same : y.asMember = (change x).asMember)
    (name : String) : property name y = change (property name x) := by
  rw [← property_as_member, same, property_as_member, faithful.property]

end

/-- An empty text is the zero value of its type. -/
theorem zero_of_empty_text {node : Node} (empty : node.isEmptyText = true) : node.isZero = true := by
  obtain ⟨none, isText, blank⟩ := is_empty_text_iff.mp empty
  exact is_zero_iff.mpr ⟨none, .inr ⟨isText, blank⟩⟩

/-- What the rule for calls needs, and what it gives. The cases are those of the list of arguments, and
only one of them gives anything. -/
theorem dial_renews {listed : Bool} {exported : String} {arguments renewed : List Node}
    (renews : dialRule.renew listed exported arguments = some renewed) :
    exported = "dial" ∧ ∃ network localAddress address,
      arguments = [network, localAddress, address] ∧ localAddress.isEmptyText = true ∧
        renewed = [network, address] := by
  simp only [dialRule] at renews
  split at renews
  · rename_i dials
    split at renews
    · rename_i network localAddress address
      split at renews
      · rename_i empty
        cases renews
        exact ⟨eq_of_beq dials, network, localAddress, address, rfl, empty, rfl⟩
      · cases renews
    · cases renews
  · cases renews

/-- A member of a list needs one pair of parentheses at most. -/
theorem Graded.member {property : Nat → Node → Prop} (graded : Graded property) {grade : Nat}
    {node : Node} (holds : property grade node) : property (grade + 1) node.asMember := by
  rw [asMember, inParensUnless]
  split
  · exact graded.raise holds
  · exact graded.placed holds

/-- The rule for calls is lawful. It looks at one argument, whether this is the empty text, drops it and
leaves two arguments, to which it does not apply again. -/
theorem dial_lawful : dialRule.Lawful where
  kind := .inl rfl
  listed impossible := by cases impossible
  several renews := by
    obtain ⟨_, _, _, _, rfl, _, rfl⟩ := dial_renews renews
    exact ⟨List.cons_ne_nil _ _, List.cons_ne_nil _ _, fun _ => ⟨by simp, by simp⟩⟩
  kept transparent renews := by
    obtain ⟨_, _, _, _, rfl, empty, rfl⟩ := dial_renews renews
    simp [transparent.literal (zero_of_empty_text empty)]
  carried {change listed exported arguments others} faithful related := by
    simp only [dialRule]
    split
    · rcases related with _ | ⟨first, _ | ⟨second, _ | ⟨third, _ | ⟨fourth, rest⟩⟩⟩⟩
      · rfl
      · rfl
      · rfl
      · dsimp only
        rw [empty_text_of_member faithful second]
        split
        · simp only [Option.map_some, List.map_cons, List.map_nil, first, third]
        · rfl
      · rfl
    · rfl
  built graded holds renews := by
    obtain ⟨_, network, localAddress, address, rfl, _, rfl⟩ := dial_renews renews
    intro argument present
    have kept : argument ∈ [network, localAddress, address] := by
      rcases List.mem_cons.mp present with rfl | later
      · exact List.mem_cons_self
      · exact List.mem_cons_of_mem _ (List.mem_cons_of_mem _ later)
    exact graded.raise (graded.raise (graded.member (holds argument kept)))
  settled renews := by
    obtain ⟨rfl, _, _, _, rfl, _, rfl⟩ := dial_renews renews
    rfl

/-- What the rule for constructions needs, and what it gives. The cases are the export, the number of
arguments and whether all of them are positional. -/
theorem keyed_renews {listed : Bool} {exported : String} {arguments renewed : List Node}
    (renews : keyedRule.renew listed exported arguments = some renewed) :
    ∃ fields, addressFields exported = some fields ∧
      ((∃ first, arguments = [first]) ∨ ∃ first second, arguments = [first, second]) ∧
      renewed = [keyedArguments fields arguments] := by
  simp only [keyedRule] at renews
  split at renews
  · cases renews
  · obtain ⟨fields, known, given⟩ := Option.bind_eq_some_iff.mp renews
    split at given
    · cases given
    · rename_i included
      cases given
      refine ⟨fields, known, ?_, rfl⟩
      rcases arguments with _ | ⟨first, _ | ⟨second, _ | ⟨third, rest⟩⟩⟩
      · simp at included
      · exact .inl ⟨first, rfl⟩
      · exact .inr ⟨first, second, rfl⟩
      · simp at included

/-- The object literal that stands for arguments is one object, with the fields in order. -/
theorem keyed_arguments_eq (fields : String × String) (arguments : List Node) :
    keyedArguments fields arguments = objectOf (keyedProperties fields arguments) :=
  rfl

/-- Each property of a keyed construction holds one of the arguments. The first argument is keyed always,
and the second one unless it is zero. -/
theorem member_of_keyed {fields : String × String} {arguments : List Node} {member : Node}
    (present : member ∈ keyedProperties fields arguments) :
    ∃ name, ∃ value ∈ arguments, member = property name value := by
  rcases arguments with _ | ⟨first, _ | ⟨second, rest⟩⟩
  · cases present
  · rw [keyedProperties, List.mem_singleton] at present
    exact ⟨fields.1, first, List.mem_cons_self, present⟩
  · rw [keyedProperties, List.mem_cons] at present
    rcases present with rfl | later
    · exact ⟨fields.1, first, List.mem_cons_self, rfl⟩
    · split at later
      · cases later
      · exact ⟨fields.2, second, List.mem_cons_of_mem _ List.mem_cons_self, List.mem_singleton.mp later⟩

/-- A keyed object literal binds as tightly as any primary expression. -/
theorem strength_keyed (fields : String × String) (arguments : List Node) :
    (keyedArguments fields arguments).strength = 20 :=
  rfl

/-- A keyed object literal needs no parentheses among arguments. -/
theorem as_member_keyed (fields : String × String) (arguments : List Node) :
    (keyedArguments fields arguments).asMember = keyedArguments fields arguments :=
  as_member_of_strength (by rw [strength_keyed]; decide)

/-- A change of the arguments is the same change of the properties that hold them; none is left out for
it, since a change keeps which literals are zero. -/
theorem keyed_properties_of_members {change : Node → Node} (faithful : Faithful change)
    {arguments others : List Node}
    (related : List.Forall₂ (fun x y => y.asMember = (change x).asMember) arguments others)
    (fields : String × String) :
    keyedProperties fields others = (keyedProperties fields arguments).map change := by
  rcases related with _ | ⟨first, _ | ⟨second, rest⟩⟩
  · rfl
  · simp only [keyedProperties, List.map_cons, List.map_nil, property_of_member faithful first]
  · simp only [keyedProperties, List.map_cons, property_of_member faithful first,
      zero_of_member faithful second]
    split
    · rfl
    · simp only [List.map_cons, List.map_nil, property_of_member faithful second]

/-- Whether a construction keeps its arguments does not depend on their parentheses. There are as many of
them, and each is positional with or without parentheses of a member. -/
theorem excluded_of_members {change : Node → Node} (faithful : Faithful change)
    {arguments others : List Node}
    (related : List.Forall₂ (fun x y => y.asMember = (change x).asMember) arguments others) :
    (others.isEmpty || others.length > 2 || !others.all isPositional) =
      (arguments.isEmpty || arguments.length > 2 || !arguments.all isPositional) := by
  have all : others.all isPositional = arguments.all isPositional := by
    induction related with
    | nil => rfl
    | cons first _ inductionHypothesis =>
      rw [List.all_cons, List.all_cons, positional_of_member faithful first, inductionHypothesis]
  have length := related.length_eq
  have empty : others.isEmpty = arguments.isEmpty := by
    rw [Bool.eq_iff_iff, List.isEmpty_iff_length_eq_zero, List.isEmpty_iff_length_eq_zero, length]
  rw [all, empty, length]

/-- The rule for constructions is lawful. It puts one or two arguments into an object literal, which is
no positional argument, so that it does not apply again. -/
theorem keyed_lawful : keyedRule.Lawful where
  kind := .inr rfl
  listed _ := rfl
  several renews := by
    obtain ⟨_, _, ⟨_, rfl⟩ | ⟨_, _, rfl⟩, rfl⟩ := keyed_renews renews
    · exact ⟨List.cons_ne_nil _ _, List.cons_ne_nil _ _, fun impossible => by cases impossible⟩
    · exact ⟨List.cons_ne_nil _ _, List.cons_ne_nil _ _, fun impossible => by cases impossible⟩
  kept {test _ _ _ _} transparent renews := by
    obtain ⟨fields, _, ⟨first, rfl⟩ | ⟨first, second, rfl⟩, rfl⟩ := keyed_renews renews
    · simp [keyed_arguments_eq, transparent.object, keyedProperties, transparent.property]
    · by_cases zero : second.isZero = true
      · simp [keyed_arguments_eq, transparent.object, keyedProperties, transparent.property, zero,
          transparent.literal zero]
      · simp [keyed_arguments_eq, transparent.object, keyedProperties, transparent.property, zero]
  carried {change listed exported arguments others} faithful related := by
    simp only [keyedRule, excluded_of_members faithful related]
    split
    · rfl
    · rcases addressFields exported with _ | fields
      · rfl
      · rw [Option.bind_some, Option.bind_some]
        split
        · rfl
        · simp only [Option.map_some, List.map_singleton, keyed_arguments_eq,
            keyed_properties_of_members faithful related, faithful.object]
  built {property grade _ _ arguments _} graded holds renews := by
    obtain ⟨fields, _, _, rfl⟩ := keyed_renews renews
    intro argument present
    rw [List.mem_singleton.mp present, as_member_keyed, keyed_arguments_eq]
    refine graded.object fun member listed => ?_
    obtain ⟨name, value, given, rfl⟩ := member_of_keyed listed
    exact graded.keyed name (graded.member (holds value given))
  settled {listed again exported arguments renewed} renews := by
    obtain ⟨fields, _, _, rfl⟩ := keyed_renews renews
    rw [List.map_singleton, as_member_keyed]
    simp only [keyedRule]
    split
    · rfl
    · rcases addressFields exported with _ | others
      · rfl
      · rfl

end Codemod.Fix
