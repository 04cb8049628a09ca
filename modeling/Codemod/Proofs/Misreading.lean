import Codemod.Proofs.Stripping

/-!
# Misread arguments

A fix looks through the parentheses around the name before the arguments, but not through those around an
argument. Where that makes a difference to it, it misreads the arguments: an object literal in parentheses is
taken for an argument given by position, a zero in parentheses for a value to be kept, an empty text in
parentheses for an address.

Of arguments that are the same up to parentheses, the rule of a fix makes the same when it misreads neither,
and something else when it misreads one of them. Whether it does is not changed by mending.
-/
namespace Codemod.Fix

open Syntax Node Imports

/-- A test of arguments, given whether a node has a list of them and the export that it refers to. -/
abbrev Misreading :=
  Bool → String → List Node → Bool

/-- Arguments that are the same up to positions and the parentheses around them and inside them. -/
def SameCores : List Node → List Node → Prop :=
  List.Forall₂ fun x y => x.core.stripped = y.core.stripped

/-- Whether parentheses around an argument hide from a test what they hold. -/
def hides (test : Node → Bool) (argument : Node) : Bool :=
  test argument != test argument.core

/-- Whether the fix for calls takes such arguments otherwise than without their parentheses: the local address
is an empty text in parentheses. -/
def dialMisreads (_ : Bool) (exported : String) : List Node → Bool
  | [_, localAddress, _] => exported == "dial" && hides isEmptyText localAddress
  | _ => false

/-- Whether the fix for constructions takes such arguments otherwise than without their parentheses: all of
them are given by position only because an object literal is in parentheses, or the second is a zero in
parentheses. -/
def keyedMisreads (listed : Bool) (exported : String) (arguments : List Node) : Bool :=
  listed && (addressFields exported).isSome && decide (arguments.length ≤ 2) &&
    (arguments.all isPositional != (arguments.map core).all isPositional ||
      (arguments.all isPositional && arguments.tail.any (hides isZero)))

/-- A test tells the arguments that a rule misreads. Arguments that do not stand in parentheses are none. For
arguments that are the same up to parentheses the rule does the same when it misreads neither, and not when it
misreads one of them. A change inside the arguments changes nothing about the test. -/
structure Rule.Misreads (rule : Rule) (misreads : Misreading) : Prop where
  bare {listed : Bool} {exported : String} {arguments : List Node} :
    (∀ argument ∈ arguments, argument.core = argument) → misreads listed exported arguments = false
  renewed {listed : Bool} {exported : String} {xs ys : List Node} : SameCores xs ys →
    misreads listed exported xs = false → misreads listed exported ys = false →
      Option.Rel SameCores (rule.renew listed exported xs) (rule.renew listed exported ys)
  apart {listed : Bool} {exported : String} {xs ys : List Node} : SameCores xs ys →
    misreads listed exported xs = true → misreads listed exported ys = false →
      ¬Option.Rel SameCores (rule.renew listed exported xs) (rule.renew listed exported ys)
  carried {change : Node → Node} {listed : Bool} {exported : String} {xs ys : List Node} : Faithful change →
    (∀ node : Node, (change node).core = change node.core) →
      List.Forall₂ (fun x y => y.asMember = (change x).asMember) xs ys →
        misreads listed exported ys = misreads listed exported xs

section

variable {change : Node → Node} {x y : Node}

/-- Whether parentheses hide something from a test does not change with the parentheses that a list
demands, nor with a change that the test and the core do not depend on. -/
theorem hides_of_member {test : Node → Bool} (member : ∀ node, test node.asMember = test node)
    (changed : ∀ node, test (change node) = test node)
    (cored : ∀ node : Node, (change node).core = change node.core)
    (same : y.asMember = (change x).asMember) : hides test y = hides test x := by
  have core : y.core = change x.core := by
    rw [← core_as_member, same, core_as_member, cored]
  have bare : test y = test x := by
    rw [← member y, same, member, changed]
  rw [hides, hides, core, changed, bare]

/-- Cores that are the same when stripped are both empty texts or both not. -/
theorem empty_text_of_core (same : x.core.stripped = y.core.stripped) :
    x.core.isEmptyText = y.core.isEmptyText := by
  rw [stripped_like.is_empty_text (rfl : IsStripped x.core _), same,
    ← stripped_like.is_empty_text (rfl : IsStripped y.core _)]

/-- They both have the zero value of their type or both have not. -/
theorem zero_of_core (same : x.core.stripped = y.core.stripped) : x.core.isZero = y.core.isZero := by
  rw [stripped_like.is_zero (rfl : IsStripped x.core _), same,
    ← stripped_like.is_zero (rfl : IsStripped y.core _)]

/-- They are both given by position or both not. -/
theorem positional_of_core (same : x.core.stripped = y.core.stripped) :
    isPositional x.core = isPositional y.core := by
  rw [isPositional, isPositional, kind_of_stripped same]

/-- Of a value only the core counts. -/
theorem property_of_core (same : x.core.stripped = y.core.stripped) (name : String) :
    (property name x).stripped = (property name y).stripped := by
  have shape (value : Node) : (property name value).stripped =
      .mk { kind := .propertyAssignment, layout := [.name, .initializer] }
        [(Node.identifier name).stripped, value.asMember.stripped.core] := rfl
  rw [shape, shape, core_stripped, core_stripped, core_as_member, core_as_member, same]

end

/-- Parentheses hide nothing when the test says of the argument what it says of its core. -/
theorem hides_false {test : Node → Bool} {argument : Node} :
    hides test argument = false ↔ test argument = test argument.core := by
  rw [hides, bne_eq_false_iff_eq]

/-- They hide something when it says the opposite. -/
theorem hides_true {test : Node → Bool} {argument : Node} :
    hides test argument = true ↔ test argument = !test argument.core := by
  rw [hides, bne_iff_ne, Bool.eq_not]

/-- Where there are no parentheses, none hide anything. -/
theorem hides_bare {argument : Node} (bare : argument.core = argument) (test : Node → Bool) :
    hides test argument = false := by
  rw [hides_false, bare]

/-- Related options are both there or both missing. -/
theorem is_some_of_rel {α β : Type} {r : α → β → Prop} {x : Option α} {y : Option β}
    (related : Option.Rel r x y) : x.isSome = y.isSome := by
  cases related <;> rfl

/-- The rule for calls misreads a local address that is an empty text in parentheses, and nothing else:
it asks for nothing but whether that argument is an empty text. -/
theorem dial_misreads : dialRule.Misreads dialMisreads where
  bare {listed exported arguments} bare := by
    unfold dialMisreads
    split
    · rename_i localAddress _
      rw [hides_bare (bare localAddress (by simp)), Bool.and_false]
    · rfl
  renewed {listed exported xs ys} same readA readB := by
    simp only [dialRule]
    split
    · rename_i dials
      rcases same with _ | ⟨first, _ | ⟨second, _ | ⟨third, _ | ⟨_, _⟩⟩⟩⟩
      · exact .none
      · exact .none
      · exact .none
      · rw [dialMisreads, dials, Bool.true_and, hides_false] at readA readB
        dsimp only
        rw [readA, readB, empty_text_of_core second]
        split
        · exact .some (.cons first (.cons third .nil))
        · exact .none
      · exact .none
    · exact .none
  apart {listed exported xs ys} same misread read related := by
    rcases same with _ | @⟨_, _, _, _, first, _ | @⟨x, y, _, _, second, _ | ⟨third, _ | ⟨_, _⟩⟩⟩⟩
    · cases misread
    · cases misread
    · cases misread
    · rw [dialMisreads, Bool.and_eq_true, hides_true] at misread
      rw [dialMisreads, misread.1, Bool.true_and, hides_false] at read
      have some := is_some_of_rel related
      simp only [dialRule, misread.1, if_true, misread.2, read, empty_text_of_core second] at some
      cases empty : y.core.isEmptyText <;> simp [empty] at some
    · cases misread
  carried {change listed exported xs ys} faithful cored related := by
    rcases related with _ | ⟨first, _ | ⟨second, _ | ⟨third, _ | ⟨_, _⟩⟩⟩⟩
    · rfl
    · rfl
    · rfl
    · rw [dialMisreads, dialMisreads, hides_of_member (fun node => (as_member_literal node).1)
        faithful.emptyText cored second]
    · rfl

/-- Arguments that are the same up to parentheses become the same properties, up to parentheses, when a second
one is a zero in both or in neither. -/
theorem keyed_properties_of_cores {xs ys : List Node} (same : SameCores xs ys)
    (zero : ∀ x ∈ xs.tail, x.isZero = x.core.isZero) (zeroToo : ∀ y ∈ ys.tail, y.isZero = y.core.isZero)
    (fields : String × String) :
    (keyedProperties fields xs).map stripped = (keyedProperties fields ys).map stripped := by
  rcases same with _ | ⟨first, _ | ⟨second, rest⟩⟩
  · rfl
  · simp only [keyedProperties, List.map_cons, List.map_nil, property_of_core first]
  · have left := zero _ List.mem_cons_self
    have right := zeroToo _ List.mem_cons_self
    simp only [keyedProperties, List.map_cons, property_of_core first, left, right, zero_of_core second]
    split
    · rfl
    · simp only [List.map_cons, List.map_nil, property_of_core second]

/-- The object literal of a keyed construction stands in no parentheses. -/
theorem core_keyed (fields : String × String) (arguments : List Node) :
    (keyedArguments fields arguments).core = keyedArguments fields arguments :=
  core_of_bare fun _ encloses => (by cases encloses.kind)

/-- Object literals with the same properties up to stripping are the same up to it. -/
theorem keyed_arguments_of_cores {xs ys : List Node} {fields : String × String}
    (same : (keyedProperties fields xs).map stripped = (keyedProperties fields ys).map stripped) :
    (keyedArguments fields xs).core.stripped = (keyedArguments fields ys).core.stripped := by
  have roles := congrArg List.length same
  rw [List.length_map, List.length_map] at roles
  rw [core_keyed, core_keyed, keyed_arguments_eq, keyed_arguments_eq, object_eq, object_eq, List.map_const',
    List.map_const', roles]
  exact stripped_forgets.node _ same

/-- Objects that are the same up to parentheses have as many properties. -/
theorem length_of_cores {xs ys : List Node} {fields : String × String}
    (same : Option.Rel SameCores (some [keyedArguments fields xs]) (some [keyedArguments fields ys])) :
    (keyedProperties fields xs).length = (keyedProperties fields ys).length := by
  cases same with
  | some members =>
    cases members with
    | cons first _ =>
      have number := congrArg (fun node => node.children.length) first
      simp only [length_children_stripped, core_keyed] at number
      rwa [keyed_arguments_eq, keyed_arguments_eq, object_eq, object_eq] at number

/-- Lists that are related one by one have the same answer to whether all members pass a test, when related
members have. -/
theorem all_of_forall₂ {R : Node → Node → Prop} {p q : Node → Bool} {xs ys : List Node}
    (related : List.Forall₂ R xs ys) (agree : ∀ x y, R x y → p x = q y) : xs.all p = ys.all q := by
  induction related with
  | nil => rfl
  | cons first _ inductionHypothesis =>
    rw [List.all_cons, List.all_cons, agree _ _ first, inductionHypothesis]

/-- So many arguments may be those of an address: there is a list, of at most two, and the name is that of
an address with such fields. -/
structure MayKey (listed : Bool) (exported : String) (number : Nat) (fields : String × String) :
    Prop where
  listed : listed = true
  known : addressFields exported = some fields
  few : number ≤ 2

section

variable {listed : Bool} {exported : String} {fields : String × String} {xs ys : List Node}

/-- Other arguments are left alone, and nothing is misread in them. -/
theorem left_of_not (cannot : ¬∃ fields, MayKey listed exported xs.length fields) :
    keyedRule.renew listed exported xs = none ∧ keyedMisreads listed exported xs = false := by
  cases listed with
  | false => exact ⟨rfl, rfl⟩
  | true =>
    cases known : addressFields exported with
    | none => exact ⟨by simp [keyedRule, known], by simp [keyedMisreads, known]⟩
    | some fields =>
      have many : ¬xs.length ≤ 2 := fun few => cannot ⟨fields, rfl, known, few⟩
      exact ⟨by simp [keyedRule, known, Nat.lt_of_not_le many], by simp [keyedMisreads, many]⟩

/-- What the rule for constructions does with as many arguments as an address may have: it gives them
keys when there are some and all are given by position. -/
theorem MayKey.renew (may : MayKey listed exported xs.length fields) :
    keyedRule.renew listed exported xs =
      if !xs.isEmpty && xs.all isPositional then some [keyedArguments fields xs] else none := by
  obtain ⟨rfl, known, few⟩ := may
  have notMore : decide (xs.length > 2) = false := decide_eq_false (Nat.not_lt.mpr few)
  simp only [keyedRule, known, Bool.not_true, Bool.false_eq_true, if_false, Option.bind_some, notMore,
    Bool.or_false]
  cases xs.isEmpty <;> cases xs.all isPositional <;> rfl

/-- Nothing is misread when all are given by position just if they are without their parentheses, and then
the second one hides no zero. -/
theorem MayKey.read_iff (may : MayKey listed exported xs.length fields) :
    keyedMisreads listed exported xs = false ↔
      xs.all isPositional = (xs.map core).all isPositional ∧
        (xs.all isPositional = true → ∀ x ∈ xs.tail, x.isZero = x.core.isZero) := by
  obtain ⟨rfl, known, few⟩ := may
  simp only [keyedMisreads, known, few, Option.isSome_some, decide_true, Bool.true_and,
    Bool.or_eq_false_iff, bne_eq_false_iff_eq, Bool.and_eq_false_imp, List.any_eq_false, Bool.not_eq_true,
    hides_false]

/-- Arguments with the same cores have cores that are all given by position, or do not. -/
theorem positional_of_cores (same : SameCores xs ys) :
    (xs.map core).all isPositional = (ys.map core).all isPositional := by
  rw [List.all_map, List.all_map]
  exact all_of_forall₂ same fun _ _ => positional_of_core

/-- There are as many of them, so there are none of the one when there are none of the other. -/
theorem is_empty_of_cores (same : SameCores xs ys) : xs.isEmpty = ys.isEmpty := by
  cases same <;> rfl

/-- Arguments that are not misread are keyed alike. There are as many on both sides, and each is
positional or zero on both sides alike. -/
theorem keyed_renewed (same : SameCores xs ys) (readA : keyedMisreads listed exported xs = false)
    (readB : keyedMisreads listed exported ys = false) :
    Option.Rel SameCores (keyedRule.renew listed exported xs) (keyedRule.renew listed exported ys) := by
  by_cases can : ∃ fields, MayKey listed exported xs.length fields
  · obtain ⟨fields, may⟩ := can
    have mayToo : MayKey listed exported ys.length fields := same.length_eq ▸ may
    obtain ⟨positional, zero⟩ := may.read_iff.mp readA
    obtain ⟨positionalToo, zeroToo⟩ := mayToo.read_iff.mp readB
    have agree : xs.all isPositional = ys.all isPositional :=
      positional.trans ((positional_of_cores same).trans positionalToo.symm)
    rw [may.renew, mayToo.renew, agree, is_empty_of_cores same]
    split
    · rename_i keyed
      have all : ys.all isPositional = true := (Bool.and_eq_true_iff.mp keyed).2
      have properties := keyed_properties_of_cores same (zero (agree.trans all)) (zeroToo all) fields
      exact .some (.cons (keyed_arguments_of_cores properties) .nil)
    · exact .none
  · rw [(left_of_not can).1, (left_of_not (same.length_eq ▸ can)).1]
    exact .none

/-- Properties for a second argument that is a zero in one list and none in the other are not as many. -/
theorem number_of_second {first second other another : Node} {xs ys : List Node}
    (differ : second.isZero ≠ other.isZero) :
    (keyedProperties fields (first :: second :: xs)).length ≠
      (keyedProperties fields (another :: other :: ys)).length := by
  rw [keyedProperties, keyedProperties]
  cases one : second.isZero <;> cases two : other.isZero <;> simp [one, two] at differ ⊢

/-- Arguments that are misread are not keyed as those are that are not. If only one of the two is all
positional, only one is keyed. Else a zero value is hidden in parentheses in one of them, and only one is
given a second property. -/
theorem keyed_apart (same : SameCores xs ys) (misread : keyedMisreads listed exported xs = true)
    (read : keyedMisreads listed exported ys = false) :
    ¬Option.Rel SameCores (keyedRule.renew listed exported xs) (keyedRule.renew listed exported ys) := by
  intro related
  by_cases can : ∃ fields, MayKey listed exported xs.length fields
  · obtain ⟨fields, may⟩ := can
    have mayToo : MayKey listed exported ys.length fields := same.length_eq ▸ may
    obtain ⟨positional, zero⟩ := mayToo.read_iff.mp read
    have misread := mt may.read_iff.mpr (by rw [misread]; exact Bool.noConfusion)
    rw [positional_of_cores same, ← positional] at misread
    rw [may.renew, mayToo.renew, is_empty_of_cores same] at related
    cases same with
    | nil => simp at misread
    | @cons x y xs ys first rest =>
      rw [List.isEmpty_cons, Bool.not_false, Bool.true_and, Bool.true_and] at related
      have some := is_some_of_rel related
      by_cases agree : (x :: xs).all isPositional = (y :: ys).all isPositional
      · -- Then a zero is hidden, and a property is made of one of the second arguments only.
        obtain ⟨all, hidden⟩ := Classical.not_imp.mp (not_and.mp misread agree)
        rw [if_pos all, if_pos (agree ▸ all)] at related
        have few := may.few
        cases rest with
        | nil => simp at hidden
        | @cons second other xs ys same rest =>
          cases rest with
          | cons _ _ => simp at few
          | nil =>
            have kept := zero (agree ▸ all) other List.mem_cons_self
            have differs : second.isZero ≠ second.core.isZero := by simpa using hidden
            rw [zero_of_core same, ← kept] at differs
            exact number_of_second differs (length_of_cores related)
      · cases one : (x :: xs).all isPositional <;> cases two : (y :: ys).all isPositional <;>
          simp [one, two] at some agree
  · rw [(left_of_not can).2] at misread
    cases misread

end

/-- The rule for constructions misreads object literals in parentheses, which it takes to be given by
position, and a zero in parentheses, which it keeps. It asks for nothing else about single arguments. -/
theorem keyed_misreads : keyedRule.Misreads keyedMisreads where
  bare {listed exported arguments} bare := by
    have cores : arguments.map core = arguments := (List.map_congr_left bare).trans (List.map_id _)
    have zero : arguments.tail.any (hides isZero) = false :=
      List.any_eq_false.mpr fun argument present =>
        Bool.eq_false_iff.mp (hides_bare (bare argument (List.mem_of_mem_tail present)) _)
    rw [keyedMisreads, cores, zero, bne_self_eq_false, Bool.false_or, Bool.and_false, Bool.and_false]
  renewed := keyed_renewed
  apart := keyed_apart
  carried {change listed exported xs ys} faithful cored related := by
    have member (node : Node) := as_member_literal node
    have positional : ys.all isPositional = xs.all isPositional :=
      (all_of_forall₂ related fun x y same => (positional_of_member faithful same).symm).symm
    have cores : (ys.map core).all isPositional = (xs.map core).all isPositional := by
      rw [List.all_map, List.all_map]
      refine (all_of_forall₂ related fun x y same => ?_).symm
      rw [Function.comp, Function.comp, ← core_as_member y, same, core_as_member, cored, isPositional,
        isPositional, faithful.kind]
    have zero : ys.tail.any (hides isZero) = xs.tail.any (hides isZero) := by
      have tails : List.Forall₂ (fun x y => y.asMember = (change x).asMember) xs.tail ys.tail := by
        cases related with
        | nil => exact .nil
        | cons _ rest => exact rest
      refine (any_of_forall₂ tails fun x _ y same => ?_).symm
      exact (hides_of_member (fun node => (member node).2.1) faithful.zero cored same).symm
    rw [keyedMisreads, keyedMisreads, positional, cores, zero, related.length_eq]

/-! ## Nodes with misread arguments -/

namespace Rule

/-- Whether the rule misreads the arguments of a node that it is about. -/
def misreadsAt (rule : Rule) (misreads : Misreading) (resolve : Node → Option String)
    (node : Node) : Bool :=
  node.kind == rule.kind && ((node.child? .expression).bind resolve).any fun exported =>
    misreads (node.list? .arguments).isSome exported (node.items .arguments)

variable {rule : Rule} {misreads : Misreading} {bindings : Bindings} {shade : Shade}
  {root file node a b : Node}

/-- Mending goes into parentheses, whatever else is known of them. Parentheses are neither calls nor
constructions, so that they stay when what they hold is mended. -/
theorem mend_core (lawful : rule.Lawful) (bindings : Bindings) (shade : Shade) (node : Node) :
    (rule.mend bindings shade node).core = rule.mend bindings shade node.core := by
  have below {node : Node} (isParenthesis : node.kind = .parenthesizedExpression) :
      rule.mend bindings shade node = rule.below bindings shade node := by
    refine mend_eq_below fun same => ?_
    have isApplied := lawful.application
    rw [← same, isParenthesis] at isApplied
    cases isApplied
  refine core_change (fun _ => kind_mend) ?_ ?_ ?_ node
  · intro node isParenthesis
    rw [below isParenthesis, info_below]
  · intro node isParenthesis
    have parts := (parts_below rule bindings shade node).length_eq
    rw [below isParenthesis, congrArg List.length (children_eq (rule.below bindings shade node)),
      congrArg List.length (children_eq node), rest_below, List.length_append, List.length_append,
      List.length_map, List.length_map, parts]
  · intro node inner encloses
    have fits : fit node.info [rule.mend bindings shade inner] = [rule.mend bindings shade inner] := by
      have kind : node.info.kind = .parenthesizedExpression := encloses.kind
      rw [fit_eq, seats, encloses.layout, kind]
      simp [refusesGenericFirst, seated, fitted, kind]
    rw [mend_plain lawful encloses.plain, encloses.parts]
    split
    · rw [refit, Node.children, encloses.layout, encloses.children]
      exact congrArg (· ++ []) fits
    · rename_i unhit
      simp only [List.any_cons, List.any_nil, Bool.or_false, Bool.not_eq_true] at unhit
      rw [encloses.children, mend_unhit unhit]

/-- A rule hits a node in parentheses where it hits the core, since parentheses are no call or
construction. -/
theorem hits_core (lawful : rule.Lawful) (bindings : Bindings) (shade : Shade) (node : Node) :
    rule.hits bindings shade node.core = rule.hits bindings shade node :=
  test_core (fun _ => hits_plain lawful) node

/-- The arguments of a call or construction stand where parentheses are left out of account. -/
theorem shed_argument {kind : Kind} (isApplied : isApplication kind = true) (argument : Node) :
    shed kind .arguments argument = argument.core := by
  rw [shed, ignoresParens, isApplied]
  rfl

/-- Calls and constructions that are the same when they are stripped have the same arguments up to
parentheses. -/
theorem arguments_of_stripped (isApplied : isApplication a.kind = true)
    (same : a.stripped = b.stripped) : SameCores (a.items .arguments) (b.items .arguments) := by
  have paired := congrArg (Node.items · .arguments) same
  simp only [items_stripped, ← kind_of_stripped same, shed_argument isApplied] at paired
  rwa [← List.forall₂_eq_eq_eq, List.forall₂_map_left_iff, List.forall₂_map_right_iff] at paired

/-- The names before their arguments refer to the same export. Parentheses around a name are seen through
when it is looked up. -/
theorem callee_of_stripped (isApplied : isApplication a.kind = true) (same : a.stripped = b.stripped) :
    (a.child? .expression).bind (resolveIn shade bindings) =
      (b.child? .expression).bind (resolveIn shade bindings) := by
  have kept : ignoresParens a.kind .expression = false := by
    rw [ignoresParens, isApplied]
    exact Bool.and_false _
  have bare {node : Node} (keeps : ignoresParens node.kind .expression = false) :
      (node.stripped.child? .expression).bind (resolveIn shade bindings) =
        (node.child? .expression).bind (resolveIn shade bindings) := by
    simp only [child_eq_head, items_stripped, shed_kept keeps, List.head?_map]
    rcases (node.items .expression).head? with _ | callee
    · rfl
    · exact (stripped_like.resolve_in rfl shade bindings).symm
  rw [← bare kept, same, bare (kind_of_stripped same ▸ kept)]

/-- A rule has the same for such nodes, when it does not misread the arguments of one, exactly when it does
not misread those of the other. -/
theorem renewal_of_stripped (lawful : rule.Lawful) (reads : rule.Misreads misreads)
    (same : a.stripped = b.stripped)
    (read : rule.misreadsAt misreads (resolveIn shade bindings) b = false) :
    Option.Rel SameCores (rule.renewal (resolveIn shade bindings) a)
        (rule.renewal (resolveIn shade bindings) b) ↔
      rule.misreadsAt misreads (resolveIn shade bindings) a = false := by
  have kind := kind_of_stripped same
  rw [misreadsAt, ← kind] at read
  rw [renewal, renewal, misreadsAt, ← kind]
  cases about : a.kind == rule.kind with
  | false => exact iff_of_true .none rfl
  | true =>
    have isApplied : isApplication a.kind = true := by
      rw [eq_of_beq about]
      exact lawful.application
    have listed : (a.list? .arguments).isSome = (b.list? .arguments).isSome := by
      rw [← listed_stripped, same, listed_stripped]
    have cores := arguments_of_stripped isApplied same
    rw [about, Bool.true_and, ← listed] at read
    rw [if_pos rfl, if_pos rfl, callee_of_stripped isApplied same, ← listed, Bool.true_and]
    cases refers : (b.child? .expression).bind (resolveIn shade bindings) with
    | none => exact iff_of_true .none rfl
    | some exported =>
      rw [refers] at read
      refine ⟨fun related => ?_, fun readToo => reads.renewed cores readToo read⟩
      rw [← Bool.not_eq_true]
      exact fun misread => reads.apart cores misread read related

/-- Such nodes with new arguments are the same, up to parentheses, when the arguments are. Both are
renewed or neither is, and the new arguments stand where those of the node did. -/
theorem results_iff (isApplied : isApplication a.kind = true) (same : a.stripped = b.stripped)
    {xs ys : Option (List Node)} : Option.Rel SameCores xs ys ↔
      xs.map (fun arguments => (a.given arguments).stripped) =
        ys.map fun arguments => (b.given arguments).stripped := by
  cases xs with
  | none =>
    cases ys with
    | none => exact iff_of_true .none rfl
    | some ys => exact iff_of_false (fun impossible => (by cases impossible)) (by simp)
  | some xs =>
    cases ys with
    | none => exact iff_of_false (fun impossible => (by cases impossible)) (by simp)
    | some ys =>
      rw [Option.map_some, Option.map_some, Option.some.injEq]
      constructor
      · rintro (cores | _)
        exact given_of_stripped same isApplied cores
      · intro results
        have cores := arguments_of_stripped (by rwa [kind_given]) results
        rw [arguments_given, arguments_given, SameCores, List.forall₂_map_left_iff,
          List.forall₂_map_right_iff] at cores
        simp only [core_as_member] at cores
        exact .some cores

/-- Applying a rule to nodes that are the same up to stripping gives the same up to it, if it misreads
neither: it has arguments for both or for neither, and these have the same cores. -/
theorem applied_of_stripped (lawful : rule.Lawful) (reads : rule.Misreads misreads)
    (same : a.stripped = b.stripped)
    (read : rule.misreadsAt misreads (resolveIn shade bindings) a = false)
    (readToo : rule.misreadsAt misreads (resolveIn shade bindings) b = false) :
    (rule.applied bindings shade a).stripped = (rule.applied bindings shade b).stripped := by
  have related := (renewal_of_stripped lawful reads same readToo).mpr read
  by_cases isApplied : isApplication a.kind = true
  · have results := (results_iff isApplied same).mp related
    rw [applied, applied, ← Option.getD_map stripped, ← Option.getD_map stripped, Option.map_map,
      Option.map_map, same]
    exact congrArg (Option.getD · b.stripped) results
  · rw [Bool.not_eq_true] at isApplied
    rw [applied_none (renewal_plain lawful isApplied _),
      applied_none (renewal_plain lawful (kind_of_stripped same ▸ isApplied) _), same]

/-- Where no argument stands in parentheses, none is misread. -/
theorem misreads_bare (reads : rule.Misreads misreads) (bare : ∀ argument ∈ node.items .arguments,
    argument.core = argument) (resolve : Node → Option String) :
    rule.misreadsAt misreads resolve node = false := by
  rw [misreadsAt]
  rcases (node.child? .expression).bind resolve with _ | exported
  · exact Bool.and_false _
  · rw [Option.any_some, reads.bare bare, Bool.and_false]

/-- What is mended below has its arguments misread when it had before. Its arguments become their mended
selves, up to parentheses, and what they are does not change by that. -/
theorem misreads_below (lawful : rule.Lawful) (reads : rule.Misreads misreads) (shade : Shade)
    (node : Node) :
    rule.misreadsAt misreads (resolveIn shade bindings) (rule.below bindings shade node) =
      rule.misreadsAt misreads (resolveIn shade bindings) node := by
  rw [misreadsAt, misreadsAt, kind_below]
  cases about : node.kind == rule.kind with
  | false => rfl
  | true =>
    have isApplied : isApplication node.kind = true := by
      rw [eq_of_beq about]
      exact lawful.application
    have faithful := mend_faithful lawful bindings shade
    have members : List.Forall₂ (fun x y => y.asMember = (rule.mend bindings shade x).asMember)
        (node.items .arguments) ((rule.below bindings shade node).items .arguments) := by
      rw [arguments_below rule bindings shade isApplied]
      split
      · rw [List.forall₂_map_right_iff]
        exact List.forall₂_same.mpr fun _ _ => as_member_as_member _
      · rename_i unhit
        refine List.forall₂_same.mpr fun argument present => ?_
        rw [mend_unhit (unhit_argument isApplied (Bool.not_eq_true _ ▸ unhit) present)]
    rw [callee_below lawful isApplied, listed_below]
    rcases (node.child? .expression).bind (resolveIn shade bindings) with _ | exported
    · rfl
    · exact reads.carried faithful (mend_core lawful bindings shade) members

/-- What is misread in a file is misread under the names bound around it. -/
theorem misreads_at (lawful : rule.Lawful) (stands : At (root.locate []) shade node) :
    rule.misreadsAt misreads (resolve (root.locate []) bindings) node =
      rule.misreadsAt misreads (resolveIn shade bindings) node := by
  rw [misreadsAt, misreadsAt]
  cases about : node.kind == rule.kind with
  | false => rfl
  | true =>
    have isApplied : isApplication node.kind = true := by
      rw [eq_of_beq about]
      exact lawful.application
    rw [callee_at isApplied stands]

end Rule

end Codemod.Fix
