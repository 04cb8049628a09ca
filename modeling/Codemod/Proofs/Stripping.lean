import Codemod.Proofs.Commuting

/-!
# Trees without the parentheses around arguments

The core of an expression is what its parentheses hold. A stripped tree has no positions, and has the cores of
arguments, and of the values of properties, where these stood in parentheses. Trees that are the same when
they are stripped differ in positions and in parentheses at such places only.

These trees bind the same names, and names refer to the same exports in them. Putting nodes together again or
giving them new arguments keeps them the same up to stripping when the parts are.
-/
namespace Codemod

open Syntax Node Imports

namespace Syntax.Node

/-- The expression inside any parentheses that hold an expression and nothing else. -/
def core : Node → Node
  | mk info children =>
    match info.kind, info.layout, children with
    | .parenthesizedExpression, [.expression], [inner] => core inner
    | _, _, _ => mk info children

/-- Parentheses that hold an expression and nothing else. -/
structure Encloses (node inner : Node) : Prop where
  kind : node.kind = .parenthesizedExpression
  layout : node.info.layout = [.expression]
  children : node.children = [inner]

section

variable {node inner : Node}

/-- Parentheses have the core of what they hold, by the definition. -/
theorem core_of_encloses (encloses : Encloses node inner) : node.core = inner.core := by
  obtain ⟨info, children⟩ := node
  obtain ⟨kind, layout, only⟩ := encloses
  have isParenthesis : info.kind = .parenthesizedExpression := kind
  have single : info.layout = [.expression] := layout
  have all : children = [inner] := only
  rw [core.eq_def]
  simp only [isParenthesis, single, all]

/-- What is not put in parentheses is its own core: the other case of the definition. -/
theorem core_of_bare (bare : ∀ inner, ¬Encloses node inner) : node.core = node := by
  obtain ⟨info, children⟩ := node
  rw [core.eq_def]
  dsimp only
  split
  · rename_i kind layout
    exact absurd ⟨kind, layout, rfl⟩ (bare _)
  · rfl

/-- What parentheses hold is smaller than they are, so going inwards comes to an end. -/
theorem Encloses.smaller (encloses : Encloses node inner) : inner.size < node.size :=
  size_lt_of_mem (by rw [encloses.children]; exact List.mem_cons_self)

/-- Parentheses have one part, the expression that they hold. -/
theorem Encloses.parts (encloses : Encloses node inner) : node.parts = [(.expression, inner)] := by
  rw [Node.parts, encloses.layout, encloses.children]
  rfl

/-- Parentheses are of the plain kinds: their one part is visited, and nothing else is in them. -/
theorem Encloses.plain (encloses : Encloses node inner) : Fix.Plain node where
  kinds := .inl encloses.kind
  visited := by
    rw [encloses.parts, encloses.kind]
    rfl
  rest := by
    rw [encloses.layout, encloses.children]
    rfl

/-- Parentheses that are put around a node hold it and nothing else. -/
theorem encloses_parenthesized (node : Node) : Encloses node.parenthesized node :=
  ⟨rfl, rfl, rfl⟩

/-- What goes into parentheses holds of the core. -/
theorem core_induction (property : Node → Prop)
    (inside : ∀ {node inner}, Encloses node inner → property node → property inner) {node : Node}
    (holds : property node) : property node.core := by
  by_cases encloses : ∃ inner, Encloses node inner
  · obtain ⟨inner, encloses⟩ := encloses
    have smaller := encloses.smaller
    rw [core_of_encloses encloses]
    exact core_induction property inside (inside encloses holds)
  · rw [core_of_bare (not_exists.mp encloses)]
    exact holds
termination_by node.size

/-- The core of a node is no larger than the node, since every step inwards makes it smaller. -/
theorem size_core_le (node : Node) : node.core.size ≤ node.size :=
  core_induction (fun part => part.size ≤ node.size)
    (fun encloses small => Nat.le_trans (Nat.le_of_lt encloses.smaller) small) (Nat.le_refl _)

/-- A member of a list has its core with and without the parentheses that the list demands. -/
@[simp] theorem core_as_member (node : Node) : node.asMember.core = node.core := by
  rw [asMember, inParensUnless]
  split
  · rfl
  · exact core_of_encloses (encloses_parenthesized node)

/-- A test that parentheses pass on to what they hold has the same answer for the core. -/
theorem test_core {test : Node → Bool}
    (through : ∀ node, Fix.Plain node → test node = node.parts.any fun part => test part.2)
    (node : Node) : test node.core = test node := by
  refine core_induction (fun part => test part = test node) ?_ rfl
  intro outer inner encloses same
  rw [← same, through outer encloses.plain, encloses.parts]
  exact (Bool.or_false _).symm

/-- A change that goes into parentheses changes the core of a node to the core of the changed node. The
induction goes into the parentheses; whether a node is parentheses around one expression does not change. -/
theorem core_change {change : Node → Node} (kind : ∀ node, (change node).kind = node.kind)
    (layout : ∀ node, node.kind = .parenthesizedExpression →
      (change node).info.layout = node.info.layout)
    (number : ∀ node, node.kind = .parenthesizedExpression →
      (change node).children.length = node.children.length)
    (inside : ∀ {node inner}, Encloses node inner → (change node).children = [change inner])
    (node : Node) : (change node).core = change node.core := by
  by_cases encloses : ∃ inner, Encloses node inner
  · obtain ⟨inner, encloses⟩ := encloses
    have smaller := encloses.smaller
    have changed : Encloses (change node) (change inner) :=
      ⟨(kind node).trans encloses.kind, (layout node encloses.kind).trans encloses.layout,
        inside encloses⟩
    rw [core_of_encloses encloses, core_of_encloses changed]
    exact core_change kind layout number inside inner
  · have bare : ∀ inner, ¬Encloses (change node) inner := by
      intro inner changed
      have isParenthesis := (kind node).symm.trans changed.kind
      have single := number node isParenthesis
      rw [changed.children, eq_comm, List.length_singleton, List.length_eq_one_iff] at single
      obtain ⟨only, single⟩ := single
      exact encloses ⟨only, isParenthesis, (layout node isParenthesis).symm.trans changed.layout, single⟩
    rw [core_of_bare (not_exists.mp encloses), core_of_bare bare]
termination_by node.size

end

/-! ## Stripping -/

/-- Whether parentheses around children of this role in a node of this kind are left out of account. -/
def ignoresParens (kind : Kind) (role : Role) : Bool :=
  (Fix.Rule.isApplication kind && role == .arguments) ||
    (kind == .propertyAssignment && role == .initializer)

/-- A child of a node of a kind, without parentheses that are left out of account. -/
def shed (kind : Kind) (role : Role) (child : Node) : Node :=
  if ignoresParens kind role then child.core else child

/-- The children of a node of a kind, without such parentheses. A child without a role stays. -/
def shedAll (kind : Kind) : List Role → List Node → List Node
  | role :: roles, child :: rest => shed kind role child :: shedAll kind roles rest
  | _, children => children

mutual

/-- The tree without positions, and without parentheses around arguments and the values of properties. -/
def stripped : Node → Node
  | .mk info children => .mk (info.bare false) (shedAll info.kind info.layout (strippedList children))

/-- Several trees that are stripped. -/
def strippedList : List Node → List Node
  | [] => []
  | node :: rest => stripped node :: strippedList rest

end

/-- Several trees are stripped one by one. -/
theorem stripped_list (nodes : List Node) : strippedList nodes = nodes.map stripped := by
  induction nodes with
  | nil => rfl
  | cons node rest inductionHypothesis => rw [strippedList, inductionHypothesis, List.map_cons]

/-- A node is stripped by stripping its children and then taking off the parentheses around those that
are left out of account. -/
theorem stripped_mk (info : Info) (children : List Node) : (Node.mk info children).stripped =
    .mk (info.bare false) (shedAll info.kind info.layout (children.map stripped)) := by
  rw [stripped, stripped_list]

/-- A child at any other place keeps its parentheses. -/
theorem shed_kept {kind : Kind} {role : Role} (kept : ignoresParens kind role = false) (child : Node) :
    shed kind role child = child := by
  rw [shed, kept, if_neg Bool.false_ne_true]

/-- Taking off parentheses makes a child no larger, since it leaves the child or its core. -/
theorem size_shed_le (kind : Kind) (role : Role) (node : Node) : (shed kind role node).size ≤ node.size := by
  rw [shed]
  split
  · exact size_core_le node
  · exact Nat.le_refl _

/-- Where no parentheses are left out of account, the children stay. -/
theorem shed_all_kept {kind : Kind} (kept : ∀ role, ignoresParens kind role = false) (roles : List Role)
    (children : List Node) : shedAll kind roles children = children := by
  induction roles generalizing children with
  | nil => rfl
  | cons role roles inductionHypothesis =>
    cases children with
    | nil => rfl
    | cons child children => rw [shedAll, shed_kept (kept role), inductionHypothesis]

/-- The children keep their roles, and each of them that has one is shed by its role. -/
theorem zip_shed_all (kind : Kind) (roles : List Role) (children : List Node) :
    roles.zip (shedAll kind roles children) =
      (roles.zip children).map fun part => (part.1, shed kind part.1 part.2) := by
  induction roles generalizing children with
  | nil => rfl
  | cons role roles inductionHypothesis =>
    cases children with
    | nil => rfl
    | cons child children =>
      rw [shedAll, List.zip_cons_cons, List.zip_cons_cons, List.map_cons, inductionHypothesis]

/-- Children without a role stay as they are. -/
theorem drop_shed_all (kind : Kind) (roles : List Role) (children : List Node) :
    (shedAll kind roles children).drop roles.length = children.drop roles.length := by
  induction roles generalizing children with
  | nil => rfl
  | cons role roles inductionHypothesis =>
    cases children with
    | nil => rfl
    | cons child children => exact inductionHypothesis children

/-- There are as many children as before, since each is replaced by one. -/
theorem length_shed_all (kind : Kind) (roles : List Role) (children : List Node) :
    (shedAll kind roles children).length = children.length := by
  induction roles generalizing children with
  | nil => rfl
  | cons role roles inductionHypothesis =>
    cases children with
    | nil => rfl
    | cons child children => rw [shedAll, List.length_cons, List.length_cons, inductionHypothesis]

section

variable (node : Node)

/-- Stripping takes the positions off the data of a node and nothing else. -/
@[simp] theorem info_stripped : node.stripped.info = node.info.bare false := by
  obtain ⟨info, children⟩ := node
  rw [stripped_mk]
  rfl

/-- The kind of a node stays when it is stripped. -/
@[simp] theorem kind_stripped : node.stripped.kind = node.kind := by
  rw [kind, info_stripped]
  rfl

/-- The text of a node stays when it is stripped. -/
@[simp] theorem text_stripped : node.stripped.text = node.text := by
  rw [text, info_stripped]
  rfl

/-- The children of a stripped node are stripped, and shed by their roles. -/
theorem children_stripped :
    node.stripped.children = shedAll node.kind node.info.layout (node.children.map stripped) := by
  obtain ⟨info, children⟩ := node
  rw [stripped_mk]
  rfl

/-- A stripped node has as many children as it had. -/
theorem length_children_stripped : node.stripped.children.length = node.children.length := by
  rw [children_stripped, length_shed_all, List.length_map]

/-- The children without a role are stripped and nothing else. -/
theorem rest_stripped : node.stripped.children.drop node.stripped.info.layout.length =
    (node.children.drop node.info.layout.length).map stripped := by
  rw [info_stripped, children_stripped, layout_bare, drop_shed_all, List.map_drop]

/-- Whether a node has a list does not depend on what is stripped. -/
theorem listed_stripped (role : Role) :
    (node.stripped.list? role).isSome = (node.list? role).isSome := by
  have bare := @listed_bare false node role
  rw [list?, Option.isSome_map, info_bare] at bare
  rw [list?, Option.isSome_map, info_stripped, bare]

/-- What is in the core of a tree is stripped as it is in the tree. The parentheses around a tree stay
when it is stripped, for its own place does not ignore them. -/
theorem core_stripped : node.stripped.core = node.core.stripped := by
  refine core_change kind_stripped ?_ ?_ ?_ node
  · intro node _
    rw [info_stripped, layout_bare]
  · intro node _
    exact length_children_stripped node
  · intro node inner encloses
    have kept (role : Role) : ignoresParens node.kind role = false := by
      rw [encloses.kind]
      rfl
    rw [children_stripped, shed_all_kept kept, encloses.children]
    rfl

/-- Shedding and stripping may be done in either order: the core of a stripped node is its stripped core. -/
theorem shed_stripped (kind : Kind) (role : Role) :
    shed kind role node.stripped = (shed kind role node).stripped := by
  rw [shed, shed]
  split
  · exact core_stripped node
  · rfl

/-- The parts of a stripped node are those of the node in their roles, each shed and stripped. -/
theorem parts_stripped : node.stripped.parts =
    node.parts.map fun part => (part.1, (shed node.kind part.1 part.2).stripped) := by
  simp only [← shed_stripped]
  rw [parts, info_stripped, children_stripped, layout_bare, zip_shed_all, List.zip_map_right,
    List.map_map]
  rfl

/-- The same of the parts in one role. -/
theorem items_stripped (role : Role) : node.stripped.items role =
    (node.items role).map fun item => (shed node.kind role item).stripped := by
  rw [items, items, parts_stripped, List.filter_map, List.map_map, List.map_map]
  refine List.map_congr_left fun part present => ?_
  have same : part.1 = role := by simpa using (List.mem_filter.mp present).2
  rw [Function.comp, Function.comp, same]

end

/-- Positions are stripped in any case. -/
theorem stripped_bare (node : Node) : (node.bare false).stripped = node.stripped := by
  obtain ⟨info, children⟩ := node
  rw [bare_mk, stripped_mk, stripped_mk, bare_info_bare, List.map_map]
  congr 2
  refine List.map_congr_left fun child present => ?_
  have smaller : child.size < (Node.mk info children).size := size_lt_of_mem present
  exact stripped_bare child
termination_by node.size

/-- Trees that differ in their marks of change only are the same when they are stripped, as these marks
are among what goes with the positions. -/
theorem stripped_of_unmarked {a b : Node} (same : a.unmarked = b.unmarked) : a.stripped = b.stripped := by
  rw [← stripped_bare a, bare_of_unmarked same, stripped_bare]

/-! ## What stays the same -/

/-- No question is passed on to a place where parentheses are left out of account. -/
theorem kept_of_closed {kind : Kind} {role : Role} (closed : isClosed kind role = true) :
    ignoresParens kind role = false := by
  rw [← Bool.not_eq_true]
  intro ignored
  simp only [ignoresParens, Bool.or_eq_true, Bool.and_eq_true, beq_iff_eq] at ignored
  rcases ignored with ⟨_, rfl⟩ | ⟨rfl, rfl⟩ <;> cases closed

/-- The relation between a tree and what is left of it when it is stripped. -/
def IsStripped (a b : Node) : Prop :=
  b = a.stripped

/-- Trees are related to what is left of them one by one. -/
theorem forall₂_stripped (nodes : List Node) : List.Forall₂ IsStripped nodes (nodes.map stripped) := by
  rw [List.forall₂_map_right_iff]
  exact List.forall₂_same.mpr fun _ _ => rfl

/-- A stripped tree is like the tree in all that names and parentheses depend on: no such question is
asked at a place where parentheses are left out of account. -/
theorem stripped_like : Likeness IsStripped where
  kind := by rintro a _ rfl; exact (kind_stripped a).symm
  text := by rintro a _ rfl; exact (text_stripped a).symm
  word := by rintro a _ rfl; rw [info_stripped, word_bare]
  typeOnly := by rintro a _ rfl; rw [info_stripped, type_only_bare]
  chain := by rintro a _ rfl; rw [info_stripped, chain_bare]
  childless := by
    rintro a _ rfl
    rw [Bool.eq_iff_iff, List.isEmpty_iff_length_eq_zero, List.isEmpty_iff_length_eq_zero,
      length_children_stripped]
  listed := by rintro a _ rfl _; exact (listed_stripped a .arguments).symm
  items := by
    rintro a _ role rfl closed
    have kept := kept_of_closed closed
    simp only [items_stripped, shed_kept kept]
    exact forall₂_stripped _
  within := by
    rintro a _ rfl kinds
    have kept (role : Role) : ignoresParens a.kind role = false := by
      rcases kinds with kind | kind | kind <;> rw [kind] <;> rfl
    rw [children_stripped, shed_all_kept kept]
    exact forall₂_stripped _

/-- A test that has the same answer for a core is passed in the same number of children without
parentheses. -/
theorem any_shed_all {test : Node → Bool} (cored : ∀ node : Node, test node.core = test node)
    (kind : Kind) (roles : List Role) (children : List Node) :
    (shedAll kind roles children).any test = children.any test := by
  induction roles generalizing children with
  | nil => rfl
  | cons role roles inductionHypothesis =>
    cases children with
    | nil => rfl
    | cons child children =>
      rw [shedAll, List.any_cons, List.any_cons, inductionHypothesis, shed]
      split
      · rw [cored]
      · rfl

/-- A tree hoists the same names when it is stripped, since parentheses pass the question on. The
recursion is on the tree. -/
theorem hoists_in_stripped (name : String) (node : Node) :
    hoistsIn name node = hoistsIn name node.stripped := by
  have cored : ∀ node : Node, hoistsIn name node.core = hoistsIn name node :=
    test_core fun _ => Fix.Rule.hoists_plain
  have below : node.children.any (hoistsIn name) = (node.children.map stripped).any (hoistsIn name) := by
    refine any_of_forall₂ (forall₂_stripped node.children) fun child present _ same => ?_
    have smaller : child.size < node.size := size_lt_of_mem present
    rw [same]
    exact hoists_in_stripped name child
  rw [Fix.Rule.hoists_in_eq, Fix.Rule.hoists_in_eq, isHoistedList, isHoistedList, kind_stripped,
    info_stripped, word_bare, stripped_like.list_declares rfl, children_stripped,
    any_shed_all cored, below]
termination_by node.size

/-- A stripped tree binds the names that the tree binds. -/
theorem stripped_shading : Shading IsStripped where
  toLikeness := stripped_like
  hoists := by
    rintro a _ name rfl
    exact hoists_in_stripped name a

/-- Whether the last of several types ends in a question mark stays when it does so for each. -/
theorem last_ends_map {change : Node → Node} {nodes : List Node}
    (same : ∀ node ∈ nodes, (change node).endsInQuestion = node.endsInQuestion) :
    lastEndsInQuestion (nodes.map change) = lastEndsInQuestion nodes := by
  induction nodes with
  | nil => rfl
  | cons first rest inductionHypothesis =>
    cases rest with
    | nil => exact same first List.mem_cons_self
    | cons second rest =>
      exact inductionHypothesis fun node later => same node (List.mem_cons_of_mem _ later)

/-- How a type ends does not depend on what is stripped. The mark at its end and the last of its children
are what decide, and the recursion is on the tree. -/
theorem ends_in_question_stripped (node : Node) : node.stripped.endsInQuestion = node.endsInQuestion := by
  have marked : node.stripped.isMarkedLast = node.isMarkedLast := by
    rw [isMarkedLast, isMarkedLast, kind_stripped, info_stripped, word_bare]
  have asLast : endsAsLast node.stripped.info = endsAsLast node.info := by rw [info_stripped]; rfl
  rw [ends_eq, ends_eq node, marked, asLast]
  cases last : endsAsLast node.info with
  | false => rfl
  | true =>
    have kept (role : Role) : ignoresParens node.kind role = false := by
      unfold endsAsLast at last
      rw [Node.kind]
      split at last
      all_goals simp_all [ignoresParens, Fix.Rule.isApplication]
    rw [children_stripped, shed_all_kept kept, last_ends_map]
    intro child present
    have smaller : child.size < node.size := size_lt_of_mem present
    exact ends_in_question_stripped child
termination_by node.size

/-- Trees that are the same when they are stripped get the same parentheses where these count. -/
theorem alike_of_stripped {asked : Bool} {a b : Node} (same : a.stripped = b.stripped) :
    Alike asked a b := by
  have alike (node : Node) : Alike asked node node.stripped :=
    alike_of_like stripped_like rfl fun _ => (ends_in_question_stripped node).symm
  exact (alike a).trans (same ▸ (alike b).symm)

section

variable {a b : Node} (same : a.stripped = b.stripped)

include same

/-- Trees that are the same when they are stripped have the same data, up to positions. -/
theorem info_of_stripped : a.info.bare false = b.info.bare false := by
  rw [← info_stripped, ← info_stripped, same]

/-- So they have the same kind. -/
theorem kind_of_stripped : a.kind = b.kind := by
  rw [← kind_stripped, same, kind_stripped]

/-- And they have the same roles for their children. -/
theorem layout_of_stripped : a.info.layout = b.info.layout := by
  have data := congrArg Info.layout (info_of_stripped same)
  rwa [layout_bare, layout_bare] at data

/-- The parts of such trees correspond. -/
theorem parts_of_stripped : List.Forall₂ (fun p q : Role × Node => p.1 = q.1 ∧
    (shed a.kind p.1 p.2).stripped = (shed a.kind q.1 q.2).stripped) a.parts b.parts := by
  have paired := congrArg Node.parts same
  rw [parts_stripped, parts_stripped, ← kind_of_stripped same, ← List.forall₂_eq_eq_eq,
    List.forall₂_map_left_iff, List.forall₂_map_right_iff] at paired
  exact paired.imp fun _ _ => Prod.mk.inj

end

/-- What is stripped matters neither to the parentheses that the places of parts demand nor in them:
these depend on kinds, operators and the like, which stay. -/
theorem stripped_forgets : Forgets stripped where
  node info xs ys same := by rw [stripped_mk, stripped_mk, same]
  alike := alike_of_stripped
  put frame a b same := by
    have around {put : Node → Node} (info : Info)
        (shape : ∀ node, (put node).stripped = .mk info [node.stripped]) :
        (put a).stripped = (put b).stripped := by
      rw [shape, shape, same]
    cases frame with
    | none => exact same
    | placed => exact around { kind := .parenthesizedExpression, layout := [.expression] } fun _ => rfl
    | loose => exact around { kind := .parenthesizedExpression, layout := [.expression] } fun _ => rfl
    | type => exact around { kind := .parenthesizedType, layout := [.type] } fun _ => rfl

/-! ## Nodes put together -/

/-- What stands where parentheses are left out of account is put in those of a member of a list. Those
are the arguments of a call or construction and the values of keyed properties, which all get the
parentheses of a member of a list. -/
theorem seated_ignored {info : Info} {operator : Kind} {seat : Role × Bool}
    (marked : seat.2 = true → seat.1 = .typeArguments ∧ refusesGenericFirst info.kind = true)
    (ignored : ignoresParens info.kind seat.1 = true) (child : Node) :
    seated info operator seat child = child.asMember := by
  obtain ⟨role, first⟩ := seat
  simp only [ignoresParens, Bool.or_eq_true, Bool.and_eq_true, beq_iff_eq] at ignored
  have unmarked : first = false := by
    rw [← Bool.not_eq_true]
    intro isFirst
    obtain ⟨rfl, _⟩ := marked isFirst
    rcases ignored with ⟨_, impossible⟩ | ⟨_, impossible⟩ <;> cases impossible
  rw [seated, unmarked, if_neg Bool.false_ne_true]
  rcases ignored with ⟨isApplied, rfl⟩ | ⟨isProperty, rfl⟩
  · exact Fix.Rule.fitted_argument isApplied operator child
  · simp only [fitted, isProperty]

/-- In the same seat children get the same parentheses, up to those that are left out of account. Where
they are left out the cores are compared, and elsewhere the frame depends on the role. -/
theorem seated_stripped {info : Info} {operator : Kind} {seat : Role × Bool} {first second : Node}
    (marked : seat.2 = true → seat.1 = .typeArguments ∧ refusesGenericFirst info.kind = true)
    (same : shed info.kind seat.1 first.stripped = shed info.kind seat.1 second.stripped) :
    shed info.kind seat.1 (seated info operator seat first).stripped =
      shed info.kind seat.1 (seated info operator seat second).stripped := by
  cases ignored : ignoresParens info.kind seat.1 with
  | true =>
    rw [seated_ignored marked ignored, seated_ignored marked ignored]
    simp only [shed, ignored, if_true, core_stripped, core_as_member] at same ⊢
    exact same
  | false =>
    rw [shed_kept ignored, shed_kept ignored] at same ⊢
    exact stripped_forgets.fitting (seated_fitting info operator seat fun _ => rfl) same

/-- The same operator stands among children that are the same when they are stripped. The induction is on
the roles; the operator has no parentheses to be stripped of. -/
theorem operator_of_stripped {info : Info} {xs ys : List Node}
    (same : shedAll info.kind info.layout (xs.map stripped) =
      shedAll info.kind info.layout (ys.map stripped)) :
    operatorAmong info xs = operatorAmong info ys := by
  rw [operatorAmong, operatorAmong]
  congr 1
  generalize info.layout = roles at same ⊢
  induction roles generalizing xs ys with
  | nil => rfl
  | cons role roles inductionHypothesis =>
    cases xs with
    | nil =>
      cases ys with
      | nil => rfl
      | cons y ys => cases same
    | cons x xs =>
      cases ys with
      | nil => cases same
      | cons y ys =>
        rw [List.map_cons, List.map_cons, shedAll, shedAll, List.cons.injEq] at same
        rw [List.zip_cons_cons, List.zip_cons_cons, List.find?_cons, List.find?_cons]
        cases isOperator : role == .operator with
        | true =>
          have kept : ignoresParens info.kind role = false := by
            rw [eq_of_beq isOperator]
            exact kept_of_closed rfl
          rw [shed_kept kept, shed_kept kept] at same
          have alike : Alike false x y := alike_of_stripped same.1
          exact congrArg some alike.kind
        | false => exact inductionHypothesis same.2

/-- Children that are the same when they are stripped are put in the same parentheses, up to those that are
left out of account. -/
theorem fit_of_stripped {info : Info} {xs ys : List Node}
    (same : shedAll info.kind info.layout (xs.map stripped) =
      shedAll info.kind info.layout (ys.map stripped)) :
    shedAll info.kind info.layout ((fit info xs).map stripped) =
      shedAll info.kind info.layout ((fit info ys).map stripped) := by
  rw [fit_eq, fit_eq, operator_of_stripped same]
  generalize operatorAmong info ys = operator
  have marked := first_of_seat info
  rw [← roles_of_seats] at same ⊢
  generalize seats info = all at marked same ⊢
  induction all generalizing xs ys with
  | nil => rfl
  | cons seat all inductionHypothesis =>
    rw [List.forall_mem_cons] at marked
    cases xs with
    | nil =>
      cases ys with
      | nil => rfl
      | cons y ys => cases same
    | cons x xs =>
      cases ys with
      | nil => cases same
      | cons y ys =>
        simp only [List.map_cons, shedAll, List.cons.injEq, List.zipWith_cons_cons] at same ⊢
        exact ⟨seated_stripped marked.1 same.1, inductionHypothesis marked.2 same.2⟩

/-- Children in two lists are shed by the roles that stand above each of the lists. -/
theorem shed_all_append (kind : Kind) (roles : List Role) (children rest : List Node) :
    shedAll kind roles (children ++ rest) =
      shedAll kind roles children ++ shedAll kind (roles.drop children.length) rest := by
  induction roles generalizing children with
  | nil => rw [List.drop_nil]; rfl
  | cons role roles inductionHypothesis =>
    cases children with
    | nil => rfl
    | cons child children => exact congrArg _ (inductionHypothesis children)

/-- Nodes that are the same when they are stripped are so after they are put together again, around results
that are. -/
theorem refit_of_stripped {a b : Node} {xs ys : List Node} (same : a.stripped = b.stripped)
    (results : shedAll a.kind a.info.layout (xs.map stripped) =
      shedAll a.kind a.info.layout (ys.map stripped)) :
    (a.refit xs).stripped = (b.refit ys).stripped := by
  have data := info_of_stripped same
  have fits := @fit_of_stripped a.info _ _ results
  have length := congrArg List.length fits
  rw [length_shed_all, length_shed_all] at length
  have again : fit a.info ys = fit b.info ys := by
    rw [← @fit_bare false a.info ys, data, fit_bare]
  have rest := rest_stripped a
  rw [same, rest_stripped b] at rest
  have kind : a.info.kind = b.info.kind := kind_of_stripped same
  rw [refit, refit, stripped_mk, stripped_mk, data, List.map_append, List.map_append, shed_all_append,
    shed_all_append, fits, length, again, rest, kind, layout_of_stripped same]

/-- The same with new arguments: only their cores count. Arguments lose the parentheses around them when
they are stripped, so that those which a list demands make no difference. -/
theorem given_of_stripped {a b : Node} {xs ys : List Node} (same : a.stripped = b.stripped)
    (isApplied : Fix.Rule.isApplication a.kind = true)
    (cores : List.Forall₂ (fun x y => x.core.stripped = y.core.stripped) xs ys) :
    (a.given xs).stripped = (b.given ys).stripped := by
  have kind : a.kind = b.kind := kind_of_stripped same
  have kept : (a.parts.filter (·.1 != .arguments)).map
        (fun part => (part.1, (shed a.kind part.1 part.2).stripped)) =
      (b.parts.filter (·.1 != .arguments)).map
        fun part => (part.1, (shed b.kind part.1 part.2).stripped) := by
    have parts := congrArg (fun node => node.parts.filter (·.1 != .arguments)) same
    simp only [parts_stripped, List.filter_map] at parts
    exact parts
  have roles : (a.parts.filter (·.1 != .arguments)).map (·.1) =
      (b.parts.filter (·.1 != .arguments)).map (·.1) := by
    have firsts := congrArg (List.map Prod.fst) kept
    rwa [List.map_map, List.map_map] at firsts
  have members : xs.map (fun x => (Role.arguments, (shed a.kind .arguments x.asMember).stripped)) =
      ys.map fun y => (.arguments, (shed b.kind .arguments y.asMember).stripped) := by
    have cored (child : Node) : shed a.kind .arguments child = child.core := by
      rw [shed, ignoresParens, isApplied]
      rfl
    simp only [← kind, cored, core_as_member]
    rw [← List.forall₂_eq_eq_eq, List.forall₂_map_left_iff, List.forall₂_map_right_iff]
    exact cores.imp fun _ _ same => congrArg (Prod.mk Role.arguments) same
  have data (node : Node) (arguments : List Node) : (node.given arguments).info.bare false =
      { node.info.bare false with
        layout := (node.parts.filter (·.1 != .arguments)).map (·.1) ++ arguments.map fun _ => .arguments
        lists := (node.info.bare false).lists.filter (·.1 != .arguments)
          ++ [(.arguments, { span := none, trailingComma := false })] } := by
    simp only [info_given, Info.bare, ListInfo.bare, List.map_append, List.filter_map, Function.comp_def,
      List.map_cons, List.map_nil, Bool.and_false]
  refine Fix.Rule.node_ext ?_ ?_ ?_
  · rw [info_stripped, info_stripped, data, data, roles, info_of_stripped same, List.map_const',
      List.map_const', cores.length_eq]
  · rw [parts_stripped, parts_stripped, parts_given, parts_given, List.map_append, List.map_append,
      List.map_map, List.map_map]
    exact congrArg₂ (· ++ ·) kept members
  · rw [rest_stripped, rest_stripped, rest_given, rest_given, ← rest_stripped, ← rest_stripped, same]

end Syntax.Node

end Codemod
