import Codemod.Proofs.Rules

/-!
# Mending a tree

What a fix does to a tree, said from the leaves up: a node whose children are mended is
put together again, and given new arguments when the rule of the fix has some for it. Neither the
places of nodes nor the number of nodes within one another matter here, and what is bound around
a node comes down to it from above.
-/
namespace Codemod

open Syntax Node Imports

namespace Syntax.Node

mutual

/-- Whether a node that a transformation visits lacks a part that it needs. -/
def hasGap : Node → Bool
  | .mk info children => isIncomplete (.mk info children) || hasGapIn info.kind info.layout children

/-- Whether one of several children that are visited has a gap. -/
def hasGapIn (kind : Kind) : List Role → List Node → Bool
  | role :: roles, child :: rest =>
    (role.isVisited kind && hasGap child) || hasGapIn kind roles rest
  | _, _ => false

end

/-- A gap among several children is a gap in one of them that is visited. -/
theorem has_gap_in (kind : Kind) (roles : List Role) (children : List Node) :
    hasGapIn kind roles children =
      (roles.zip children).any fun part => part.1.isVisited kind && part.2.hasGap := by
  induction roles generalizing children with
  | nil =>
    unfold hasGapIn
    rfl
  | cons role roles inductionHypothesis =>
    cases children with
    | nil => simp [hasGapIn]
    | cons child children => simp [hasGapIn, inductionHypothesis]

/-- A part of a node is one of its children. -/
theorem mem_of_part {node : Node} {part : Role × Node} (present : part ∈ node.parts) :
    part.2 ∈ node.children :=
  (List.of_mem_zip present).2

/-- A node has a gap when it is one or a part of it that is visited has one. -/
theorem has_gap_eq (node : Node) : node.hasGap =
    (node.isIncomplete || node.parts.any fun part => part.1.isVisited node.kind && part.2.hasGap) := by
  obtain ⟨info, children⟩ := node
  rw [hasGap, has_gap_in]
  rfl

end Syntax.Node

namespace Fix.Rule

variable (rule : Rule) (bindings : Bindings)

/-- The node with the arguments that the rule has for it, if any. -/
def applied (shade : Shade) (node : Node) : Node :=
  ((rule.renewal (resolveIn shade bindings) node).map node.given).getD node

mutual

/-- Whether the rule has arguments for a node or for one below it that is visited. -/
def hits (shade : Shade) : Node → Bool
  | .mk info children =>
    (rule.renewal (resolveIn shade bindings) (.mk info children)).isSome ||
      hitsIn (shade.under (.mk info children)) info.kind info.layout children

/-- Whether the rule has arguments in one of several children that are visited. -/
def hitsIn (shade : Shade) (kind : Kind) : List Role → List Node → Bool
  | role :: roles, child :: rest =>
    (role.isVisited kind && hits shade child) || hitsIn shade kind roles rest
  | _, _ => false

end

mutual

/-- The tree with the rule applied from the leaves up. A node in which nothing is replaced stays. -/
def mend (shade : Shade) : Node → Node
  | .mk info children =>
    let inner := shade.under (.mk info children)
    rule.applied bindings shade
      (if rule.hitsIn bindings inner info.kind info.layout children then
        refit (.mk info children) (mendIn inner info.kind info.layout children)
      else .mk info children)

/-- The children with the rule applied in those that are visited. -/
def mendIn (shade : Shade) (kind : Kind) : List Role → List Node → List Node
  | role :: roles, child :: rest =>
    (if role.isVisited kind then mend shade child else child) :: mendIn shade kind roles rest
  | _, _ => []

end

/-- Whether the rule has arguments for a node below a node. -/
def hitsBelow (shade : Shade) (node : Node) : Bool :=
  node.parts.any fun part => part.1.isVisited node.kind && rule.hits bindings (shade.under node) part.2

/-- A part of a node of a kind with the rule applied, if it is visited. -/
def part (shade : Shade) (kind : Kind) (part : Role × Node) : Node :=
  if part.1.isVisited kind then rule.mend bindings shade part.2 else part.2

/-- The node with the rule applied below it. -/
def below (shade : Shade) (node : Node) : Node :=
  if rule.hitsBelow bindings shade node then
    node.refit (node.parts.map (rule.part bindings (shade.under node) node.kind))
  else node

/-- A hit among several children is a hit in one of them that is visited. -/
theorem hits_in (shade : Shade) (kind : Kind) (roles : List Role) (children : List Node) :
    rule.hitsIn bindings shade kind roles children =
      (roles.zip children).any fun part => part.1.isVisited kind && rule.hits bindings shade part.2 := by
  induction roles generalizing children with
  | nil =>
    unfold hitsIn
    rfl
  | cons role roles inductionHypothesis =>
    cases children with
    | nil => simp [hitsIn]
    | cons child children => simp [hitsIn, inductionHypothesis]

/-- Several children are mended one by one, those that are not visited staying as they are. -/
theorem mend_in (shade : Shade) (kind : Kind) (roles : List Role) (children : List Node) :
    rule.mendIn bindings shade kind roles children =
      (roles.zip children).map (rule.part bindings shade kind) := by
  induction roles generalizing children with
  | nil =>
    unfold mendIn
    rfl
  | cons role roles inductionHypothesis =>
    cases children with
    | nil => simp [mendIn]
    | cons child children => simp [mendIn, inductionHypothesis, part]

/-- A rule hits a tree when it has arguments for the root, or hits the tree below it. -/
theorem hits_eq (shade : Shade) (node : Node) : rule.hits bindings shade node =
    ((rule.renewal (resolveIn shade bindings) node).isSome || rule.hitsBelow bindings shade node) := by
  obtain ⟨info, children⟩ := node
  rw [hits, hits_in]
  rfl

/-- A node is mended below first, then the rule is applied to it. -/
theorem mend_eq (shade : Shade) (node : Node) :
    rule.mend bindings shade node = rule.applied bindings shade (rule.below bindings shade node) := by
  obtain ⟨info, children⟩ := node
  rw [mend, hits_in, mend_in]
  rfl

variable {rule bindings} {shade : Shade} {node : Node}

/-- A rule has arguments for nodes of its own kind only. -/
theorem kind_of_renewal {resolve : Node → Option String} {arguments : List Node}
    (renews : rule.renewal resolve node = some arguments) : node.kind = rule.kind := by
  unfold renewal at renews
  split at renews
  · rename_i same
    exact eq_of_beq same
  · cases renews

/-- What the rule gave to a node, and for which export. -/
theorem renew_of_renewal {resolve : Node → Option String} {arguments : List Node}
    (renews : rule.renewal resolve node = some arguments) :
    ∃ exported, (node.child? .expression).bind resolve = some exported ∧
      rule.renew (node.list? .arguments).isSome exported (node.items .arguments) =
        some arguments := by
  rw [renewal, if_pos (by rw [kind_of_renewal renews, beq_self_eq_true])] at renews
  exact Option.bind_eq_some_iff.mp renews

/-- Where a rule has no arguments for a node, the node stays. -/
theorem applied_none (refused : rule.renewal (resolveIn shade bindings) node = none) :
    rule.applied bindings shade node = node := by
  rw [applied, refused]
  rfl

/-- Where it has some, the node is given them. -/
theorem applied_some {arguments : List Node}
    (renews : rule.renewal (resolveIn shade bindings) node = some arguments) :
    rule.applied bindings shade node = node.given arguments := by
  rw [applied, renews]
  rfl

/-- A rule has nothing for a node of another kind. -/
theorem applied_other (other : node.kind ≠ rule.kind) :
    rule.applied bindings shade node = node :=
  applied_none (by rw [renewal, if_neg (by simpa using other)])

/-- What is not hit is not mended. -/
theorem mend_unhit (unhit : rule.hits bindings shade node = false) :
    rule.mend bindings shade node = node := by
  rw [hits_eq, Bool.or_eq_false_iff, ← Bool.not_eq_true, Option.isSome_iff_ne_none, not_not] at unhit
  rw [mend_eq, below, unhit.2, if_neg Bool.false_ne_true, applied_none unhit.1]

/-- Below a node that a rule does not hit below, every part stays: one that is visited is not hit itself. -/
theorem part_unhit (unhit : rule.hitsBelow bindings shade node = false) (part : Role × Node)
    (present : part ∈ node.parts) :
    rule.part bindings (shade.under node) node.kind part = part.2 := by
  rw [Rule.part]
  split
  · rename_i visited
    have kept := List.any_eq_false.mp unhit part present
    rw [visited, Bool.true_and, Bool.not_eq_true] at kept
    exact mend_unhit kept
  · rfl

/-- Only the roles and lists of the children of a node can change. -/
theorem info_mend (rule : Rule) (bindings : Bindings) (shade : Shade) (node : Node) : ∃ layout lists,
    (rule.mend bindings shade node).info = { node.info with layout, lists } := by
  have kept : (rule.below bindings shade node).info = node.info := by
    unfold below
    split <;> rfl
  rw [mend_eq, ← kept]
  cases renews : rule.renewal (resolveIn shade bindings) (rule.below bindings shade node) with
  | none => exact ⟨_, _, by rw [applied_none renews]⟩
  | some arguments =>
    rw [applied_some renews]
    exact ⟨_, _, rfl⟩

/-- Mending keeps the kind of a node, since neither new arguments nor new parts change it. -/
@[simp] theorem kind_mend : (rule.mend bindings shade node).kind = node.kind := by
  obtain ⟨layout, lists, same⟩ := info_mend rule bindings shade node
  rw [Node.kind, same]
  rfl

/-- It keeps the position of the node too. -/
@[simp] theorem span_mend : (rule.mend bindings shade node).info.span = node.info.span := by
  obtain ⟨layout, lists, same⟩ := info_mend rule bindings shade node
  rw [same]

/-- The kind stays when a node is mended below. -/
@[simp] theorem kind_below : (rule.below bindings shade node).kind = node.kind := by
  unfold below
  split <;> rfl

/-- A node as it was, or mended somewhere. -/
def Mended (rule : Rule) (bindings : Bindings) (a b : Node) : Prop :=
  b = a ∨ ∃ shade, b = rule.mend bindings shade a

/-- A part of a node is mended, or it stays. -/
theorem mended_part (kind : Kind) (part : Role × Node) :
    Mended rule bindings part.2 (rule.part bindings shade kind part) := by
  rw [Rule.part]
  split
  · exact .inr ⟨shade, rfl⟩
  · exact .inl rfl

/-- Nodes that stay are mended in the sense of the relation. -/
theorem mended_refl (nodes : List Node) : List.Forall₂ (Mended rule bindings) nodes nodes :=
  List.forall₂_same.mpr fun _ _ => .inl rfl

/-- A place where no child is ever put in parentheses: a question is passed on there, or what
contains it is in parentheses itself or a pattern. -/
def isFree (kind : Kind) (role : Role) : Bool :=
  isClosed kind role || kind == .parenthesizedExpression || kind == .objectBindingPattern ||
    kind == .arrayBindingPattern

/-- At a place that demands no parentheses, a part is put in none. The places that demand parentheses are
gone through one by one, and none of them is free. -/
theorem seated_free {info : Info} {operator : Kind} {role : Role} {first : Bool} {node : Node}
    (marked : first = true → role = .typeArguments ∧ refusesGenericFirst info.kind = true)
    (free : isFree info.kind role = true) : seated info operator (role, first) node = node := by
  have unmarked : first = false := by
    rw [← Bool.not_eq_true]
    intro isFirst
    obtain ⟨rfl, refuses⟩ := marked isFirst
    unfold refusesGenericFirst at refuses
    split at refuses
    case h_5 => cases refuses
    all_goals
      rename_i kind
      rw [kind] at free
      cases free
  rw [seated, unmarked, if_neg Bool.false_ne_true]
  dsimp only
  unfold fitted
  split
  all_goals first
    | rfl
    | rename_i kind
      rw [kind] at free
      cases free

/-- The parts of a node correspond to those of the node mended below: the roles stay, and what stands
where no child is put in parentheses was mended. -/
theorem parts_below (rule : Rule) (bindings : Bindings) (shade : Shade) (node : Node) :
    List.Forall₂ (fun p q : Role × Node => p.1 = q.1 ∧
        (isFree node.kind p.1 = true → Mended rule bindings p.2 q.2))
      node.parts (rule.below bindings shade node).parts := by
  rw [below]
  split
  · refine rel_parts_refit node _ fun part _ operator first marked => ⟨rfl, fun free => ?_⟩
    rw [seated_free marked free]
    exact mended_part node.kind part
  · exact List.forall₂_same.mpr fun part _ => ⟨rfl, fun _ => .inl rfl⟩

/-- Nodes whose parts correspond have corresponding items at a role. The induction is on the parts side
by side, of which those with the role are kept. -/
theorem items_of_parts {R : Node → Node → Prop} (free : Role → Bool) {a b : Node}
    (related : List.Forall₂ (fun p q : Role × Node => p.1 = q.1 ∧ (free p.1 = true → R p.2 q.2))
      a.parts b.parts) {role : Role} (isFree : free role = true) :
    List.Forall₂ R (a.items role) (b.items role) := by
  rw [items, items]
  generalize a.parts = xs at related ⊢
  generalize b.parts = ys at related ⊢
  induction related with
  | nil => exact .nil
  | @cons x y xs ys first _ inductionHypothesis =>
    by_cases same : x.1 = role
    · rw [List.filter_cons_of_pos (by simpa using same),
        List.filter_cons_of_pos (by simpa [← first.1] using same)]
      exact .cons (first.2 (same ▸ isFree)) inductionHypothesis
    · rw [List.filter_cons_of_neg (by simpa using same),
        List.filter_cons_of_neg (by simpa [← first.1] using same)]
      exact inductionHypothesis

/-- What a node has in other roles than that of arguments stays when a rule is applied to it. -/
theorem items_applied {role : Role} (other : role ≠ .arguments) :
    (rule.applied bindings shade node).items role = node.items role := by
  unfold applied
  cases rule.renewal (resolveIn shade bindings) node with
  | none => rfl
  | some arguments => exact items_given node arguments other

/-- The children in a role through which questions are passed on are mended one by one: no parentheses
are demanded there, and the role is not that of arguments. -/
theorem items_mend {role : Role} (closed : isClosed node.kind role = true) :
    List.Forall₂ (Mended rule bindings) (node.items role)
      ((rule.mend bindings shade node).items role) := by
  have other : role ≠ .arguments := by
    rintro rfl
    cases closed
  rw [mend_eq, items_applied other]
  exact items_of_parts (isFree node.kind) (parts_below rule bindings shade node)
    (by simp [isFree, closed])

/-- What has no role stays when a node is mended below. -/
theorem rest_below (rule : Rule) (bindings : Bindings) (shade : Shade) (node : Node) :
    (rule.below bindings shade node).children.drop
        (rule.below bindings shade node).info.layout.length =
      node.children.drop node.info.layout.length := by
  rw [below]
  split
  · rw [info_refit]
    exact rest_refit (by rw [List.length_map])
  · rfl

/-- A node has children after it was mended below if it had some before. -/
theorem is_empty_children_below :
    (rule.below bindings shade node).children.isEmpty = node.children.isEmpty := by
  have parts := (parts_below rule bindings shade node).length_eq
  rw [children_eq, children_eq node, rest_below]
  rw [Bool.eq_iff_iff, List.isEmpty_iff_length_eq_zero, List.isEmpty_iff_length_eq_zero,
    List.length_append, List.length_append, List.length_map, List.length_map, parts]

/-- A node with items in some role has children. -/
theorem children_ne_nil_of_items {role : Role} (some : node.items role ≠ []) : node.children ≠ [] := by
  intro none
  rw [items, parts, none, List.zip_nil_right] at some
  exact some rfl

/-- What the rule is applied to has arguments before and after. A node that the rule renews has arguments
before, and it is given one at least. -/
theorem is_empty_children_applied (lawful : rule.Lawful) :
    (rule.applied bindings shade node).children.isEmpty = node.children.isEmpty := by
  cases renews : rule.renewal (resolveIn shade bindings) node with
  | none => rw [applied_none renews]
  | some arguments =>
    obtain ⟨exported, _, renewed⟩ := renew_of_renewal renews
    obtain ⟨before, after, _⟩ := lawful.several renewed
    have given : (node.given arguments).items .arguments ≠ [] := by
      rw [arguments_given]
      simpa using after
    rw [applied_some renews, Bool.eq_iff_iff, List.isEmpty_iff, List.isEmpty_iff]
    exact iff_of_false (children_ne_nil_of_items given) (children_ne_nil_of_items before)

/-- A construction to which a rule is applied has a list of arguments exactly if it had one: the rule has
nothing for those without a list. -/
theorem listed_applied (lawful : rule.Lawful) (isNew : node.kind = .newExpression) :
    ((rule.applied bindings shade node).list? .arguments).isSome =
      (node.list? .arguments).isSome := by
  cases renews : rule.renewal (resolveIn shade bindings) node with
  | none => rw [applied_none renews]
  | some arguments =>
    obtain ⟨exported, _, renewed⟩ := renew_of_renewal renews
    rw [applied_some renews, listed_given]
    cases listed : (node.list? .arguments).isSome with
    | true => rfl
    | false =>
      rw [listed, lawful.listed ((kind_of_renewal renews).symm.trans isNew)] at renewed
      cases renewed

/-- Mending below leaves the record of the lists of a node as it is. -/
theorem listed_below : ((rule.below bindings shade node).list? .arguments).isSome =
    (node.list? .arguments).isSome := by
  rw [below]
  split
  · rw [list?, list?, Option.isSome_map, Option.isSome_map, info_refit]
  · rfl

/-- A node is like what it is mended to, in what fixes ask about. What fixes ask about is the kind of a
node, its text and marks, and parts at places that demand no parentheses. Mending keeps the former and
mends the latter. -/
theorem mended_like (bindings : Bindings) (lawful : rule.Lawful) : Likeness (Mended rule bindings) where
  kind := by
    rintro a _ (rfl | ⟨shade, rfl⟩)
    · rfl
    · exact kind_mend.symm
  text := by
    rintro a _ (rfl | ⟨shade, rfl⟩)
    · rfl
    · obtain ⟨layout, lists, same⟩ := info_mend rule bindings shade a
      rw [Node.text, Node.text, same]
  word := by
    rintro a _ (rfl | ⟨shade, rfl⟩)
    · rfl
    · obtain ⟨layout, lists, same⟩ := info_mend rule bindings shade a
      rw [same]
  typeOnly := by
    rintro a _ (rfl | ⟨shade, rfl⟩)
    · rfl
    · obtain ⟨layout, lists, same⟩ := info_mend rule bindings shade a
      rw [same]
  chain := by
    rintro a _ (rfl | ⟨shade, rfl⟩)
    · rfl
    · obtain ⟨layout, lists, same⟩ := info_mend rule bindings shade a
      rw [same]
  childless := by
    rintro a _ (rfl | ⟨shade, rfl⟩)
    · rfl
    · rw [mend_eq, is_empty_children_applied lawful, is_empty_children_below]
  listed := by
    rintro a _ (rfl | ⟨shade, rfl⟩) isNew
    · rfl
    · rw [mend_eq, listed_applied lawful (kind_below.trans isNew), listed_below]
  items := by
    rintro a _ role (rfl | ⟨shade, rfl⟩) closed
    · exact mended_refl _
    · exact items_mend closed
  within := by
    rintro a _ (rfl | ⟨shade, rfl⟩) around
    · exact mended_refl _
    · have other : a.kind ≠ rule.kind := by
        rcases lawful.kind with call | new
        · rw [call]
          rcases around with kind | kind | kind <;> rw [kind] <;> decide
        · rw [new]
          rcases around with kind | kind | kind <;> rw [kind] <;> decide
      have free (role : Role) : isFree a.kind role = true := by
        rcases around with kind | kind | kind <;> simp [isFree, kind]
      have before := children_eq a
      have after := children_eq (rule.below bindings shade a)
      rw [rest_below] at after
      generalize a.children.drop a.info.layout.length = rest at before after
      rw [mend_eq, applied_other (by rwa [kind_below]), before, after]
      refine List.rel_append ?_ (mended_refl rest)
      rw [List.forall₂_map_left_iff, List.forall₂_map_right_iff]
      exact (parts_below rule bindings shade a).imp fun p q related => related.2 (free p.1)

/-- Each part of a node mended below is a part of the node, mended if it is visited, in some frame. -/
theorem framed_below (rule : Rule) (bindings : Bindings) (shade : Shade) (node : Node) :
    List.Forall₂ (fun p q : Role × Node => p.1 = q.1 ∧ ∃ frame : Frame,
        q.2 = frame.put (rule.part bindings (shade.under node) node.kind p))
      node.parts (rule.below bindings shade node).parts := by
  by_cases hit : rule.hitsBelow bindings shade node = true
  · rw [below, if_pos hit]
    refine rel_parts_refit node _ fun part _ operator first _ => ⟨rfl, ?_⟩
    exact (seated_fitting node.info operator (part.1, first) fun _ => rfl).framed _
  · rw [below, if_neg hit]
    refine List.forall₂_same.mpr fun part present => ⟨rfl, .none, ?_⟩
    exact (part_unhit (Bool.not_eq_true _ ▸ hit) part present).symm

section

variable {test : Node → Bool} (transparent : Transparent test) (weight : Role → Bool)

include transparent

/-- A transparent test has the same answer for a node and for the node as a member of a list. -/
theorem test_as_member (node : Node) : test node.asMember = test node := by
  obtain ⟨frame, put⟩ := (Fitting.as_member : Fitting false asMember).framed node
  rw [put, transparent.frame]

/-- Of the parts of a node mended below a test is answered as of the mended parts. -/
theorem any_parts_below :
    (rule.below bindings shade node).parts.any (fun part => weight part.1 && test part.2) =
      node.parts.any fun part =>
        weight part.1 && test (rule.part bindings (shade.under node) node.kind part) := by
  refine (any_of_forall₂ (framed_below rule bindings shade node) fun p _ q related => ?_).symm
  obtain ⟨role, frame, put⟩ := related
  rw [role, put, transparent.frame]

/-- A test is answered the same of the parts of a node with the arguments that a rule gives it. Arguments
are put in the place of arguments; the test is passed on by what a rule makes of them, and the other
parts stay. -/
theorem any_parts_given (lawful : rule.Lawful) {listed : Bool} {exported : String}
    {arguments : List Node}
    (renews : rule.renew listed exported (node.items .arguments) = some arguments)
    (counts : weight .arguments = true) :
    (node.given arguments).parts.any (fun part => weight part.1 && test part.2) =
      node.parts.any fun part => weight part.1 && test part.2 := by
  have new : (arguments.map fun argument => (Role.arguments, argument.asMember)).any
      (fun part => weight part.1 && test part.2) = (node.items .arguments).any test := by
    rw [← lawful.kept transparent renews, List.any_map]
    refine List.any_congr rfl fun argument => ?_
    simp [counts, test_as_member transparent]
  have old (parts : List (Role × Node)) :
      ((parts.filter (·.1 != .arguments)).any (fun part => weight part.1 && test part.2) ||
        ((parts.filter (·.1 == .arguments)).map (·.2)).any test) =
          parts.any fun part => weight part.1 && test part.2 := by
    induction parts with
    | nil => rfl
    | cons part parts inductionHypothesis =>
      by_cases isArgument : part.1 = .arguments
      · rw [List.filter_cons_of_neg (by simp [isArgument]),
          List.filter_cons_of_pos (by simp [isArgument]), List.map_cons, List.any_cons,
          List.any_cons, ← inductionHypothesis, isArgument, counts, Bool.true_and, Bool.or_left_comm]
      · rw [List.filter_cons_of_pos (by simp [isArgument]),
          List.filter_cons_of_neg (by simp [isArgument]), List.any_cons, List.any_cons,
          ← inductionHypothesis, Bool.or_assoc]
  rw [parts_given, List.any_append, new, items, old]

/-- Of the parts of a mended node a test is answered as of the mended parts. Giving a node arguments
changes the parts with their role only, and among these the answer stays the same. -/
theorem any_parts_mend (lawful : rule.Lawful)
    (counts : node.kind = rule.kind → weight .arguments = true) :
    (rule.mend bindings shade node).parts.any (fun part => weight part.1 && test part.2) =
      node.parts.any fun part =>
        weight part.1 && test (rule.part bindings (shade.under node) node.kind part) := by
  rw [← any_parts_below transparent weight, mend_eq]
  cases renews : rule.renewal (resolveIn shade bindings) (rule.below bindings shade node) with
  | none => rw [applied_none renews]
  | some arguments =>
    obtain ⟨exported, _, renewed⟩ := renew_of_renewal renews
    rw [applied_some renews]
    exact any_parts_given transparent weight lawful renewed
      (counts (kind_below.symm.trans (kind_of_renewal renews)))

end

/-- What has no role stays when a node is mended. -/
theorem rest_mend : (rule.mend bindings shade node).children.drop
      (rule.mend bindings shade node).info.layout.length =
    node.children.drop node.info.layout.length := by
  refine Eq.trans ?_ (rest_below rule bindings shade node)
  rw [mend_eq]
  cases renews : rule.renewal (resolveIn shade bindings) (rule.below bindings shade node) with
  | none => rw [applied_none renews]
  | some arguments =>
    rw [applied_some renews]
    exact rest_given _ arguments

/-- What a rule is about: a call or a construction. -/
def isApplication (kind : Kind) : Bool :=
  kind == .callExpression || kind == .newExpression

/-- The nodes of a lawful rule are calls or constructions, whose arguments come after a callee. -/
theorem Lawful.application (lawful : rule.Lawful) : isApplication rule.kind = true := by
  rcases lawful.kind with kind | kind <;> rw [kind] <;> rfl

/-- A call or a construction binds nothing for its parts. -/
theorem under_application (isApplied : isApplication node.kind = true) : shade.under node = shade := by
  have plain : isScope node.kind = false := by
    simp only [isApplication, Bool.or_eq_true, beq_iff_eq] at isApplied
    rcases isApplied with kind | kind <;> rw [kind] <;> rfl
  funext name
  rw [Shade.under, scope_declares_of_kind plain, Bool.or_false]

/-- The arguments of a call or construction mended below. Each of them is mended and put in the
parentheses that a list demands. -/
theorem arguments_below (rule : Rule) (bindings : Bindings) (shade : Shade)
    (isApplied : isApplication node.kind = true) :
    (rule.below bindings shade node).items .arguments =
      if rule.hitsBelow bindings shade node then
        (node.items .arguments).map fun argument => (rule.mend bindings shade argument).asMember
      else node.items .arguments := by
  rw [below, under_application isApplied]
  split
  · have plain : refusesGenericFirst node.kind = false ∧
        Role.isVisited node.kind .arguments = true ∧
        ∀ operator part, fitted node.info operator .arguments part = part.asMember := by
      simp only [isApplication, Bool.or_eq_true, beq_iff_eq] at isApplied
      rcases isApplied with kind | kind
      all_goals
        refine ⟨by rw [kind]; rfl, by rw [kind]; rfl, fun operator part => ?_⟩
        have kind : node.info.kind = _ := kind
        simp only [fitted, kind]
    rw [items, items, parts_refit_plain plain.1, List.filter_map, List.map_map, List.map_map]
    refine List.map_congr_left fun part present => ?_
    have role : part.1 = .arguments := by simpa using (List.mem_filter.mp present).2
    simp only [Function.comp, role, plain.2.2, Rule.part, plain.2.1, if_true]
  · rfl

/-- What a node hoists, by its children. -/
theorem hoists_in_eq (name : String) (node : Node) : hoistsIn name node =
    (!(isFunctionLike node.kind || isClassLike node.kind) &&
      (isHoistedList name node || node.children.any (hoistsIn name))) := by
  obtain ⟨info, children⟩ := node
  rw [hoistsIn, hoists_in_list]
  change (if isFunctionLike info.kind || isClassLike info.kind then false else _) =
    (!(isFunctionLike info.kind || isClassLike info.kind) && _)
  cases isFunctionLike info.kind || isClassLike info.kind <;> rfl

/-- Of a node that is no list of variables, no function and no class only the children count. -/
theorem hoists_in_plain {name : String} {node : Node}
    (plain : (isFunctionLike node.kind || isClassLike node.kind ||
      node.kind == .variableDeclarationList) = false) :
    hoistsIn name node = node.children.any (hoistsIn name) := by
  rw [Bool.or_eq_false_iff] at plain
  rw [hoists_in_eq, plain.1, isHoistedList, plain.2]
  rfl

/-- What frames, keys and literals are made of hoists what its parts hoist. -/
theorem hoists_plain {name : String} {node : Node} (plain : Plain node) :
    hoistsIn name node = node.parts.any fun part => hoistsIn name part.2 := by
  rw [hoists_in_plain, children_eq node, plain.rest, List.append_nil, List.any_map]
  · rfl
  · rcases plain.kinds with kind | kind | kind | kind | kind | kind | kind | kind <;> rw [kind] <;> rfl

/-- Frames, keys and literals hoist nothing themselves, so hoisting is a transparent question. -/
theorem hoists_transparent (name : String) : Transparent (hoistsIn name) :=
  transparent_of_parts fun _ => hoists_plain

/-- Mending a node changes nothing about what it hoists. The induction is on the tree; what stands
without a role, and the names of variables, are settled by likeness. -/
theorem hoists_mend (lawful : rule.Lawful) (name : String) : ∀ (shade : Shade) (node : Node),
    hoistsIn name (rule.mend bindings shade node) = hoistsIn name node
  | shade, node => by
    have like := mended_like bindings lawful
    have mended : Mended rule bindings node (rule.mend bindings shade node) := .inr ⟨shade, rfl⟩
    have split (node : Node) : node.children.any (hoistsIn name) =
        (node.parts.any (fun part => true && hoistsIn name part.2) ||
          (node.children.drop node.info.layout.length).any (hoistsIn name)) := by
      have children := congrArg (List.any · (hoistsIn name)) (children_eq node)
      rw [List.any_append, List.any_map] at children
      exact children
    have below : (rule.mend bindings shade node).children.any (hoistsIn name) =
        node.children.any (hoistsIn name) := by
      rw [split, split node, rest_mend]
      congr 1
      rw [any_parts_mend (hoists_transparent name) (fun _ => true) lawful fun _ => rfl]
      refine any_of_mem fun part present => ?_
      have smaller : part.2.size < node.size := size_lt_of_mem (mem_of_part present)
      rw [Rule.part]
      split
      · rw [hoists_mend lawful name _ part.2]
      · rfl
    rw [hoists_in_eq, hoists_in_eq, kind_mend, below, isHoistedList, isHoistedList, kind_mend,
      ← like.word mended, ← like.list_declares mended]
termination_by _ node => node.size

/-- A frame around a node that is no call or text leaves one that is none. -/
theorem kind_as_member (kind : Kind) (binds : ∀ other : Node, other.kind = kind → other.strength > 0)
    (bare : kind ≠ .parenthesizedExpression) (node : Node) :
    (node.asMember.kind == kind) = (node.kind == kind) := by
  rw [asMember, inParensUnless]
  split
  · rfl
  · rename_i loose
    have other : node.kind ≠ kind := fun same => loose (by simpa using binds node same)
    rw [beq_false_of_ne other]
    exact beq_false_of_ne (Ne.symm bare)

/-- Calls bind tightly enough to be members of any list. -/
theorem strength_of_call {node : Node} (isCall : node.kind = .callExpression) : node.strength > 0 := by
  rw [strength, isCall]
  exact (by decide : (18 : Int) > 0)

/-- So do texts. -/
theorem strength_of_text {node : Node} (isText : node.isText = true) : node.strength > 0 := by
  simp only [Node.isText, Bool.and_eq_true, Bool.or_eq_true, beq_iff_eq] at isText
  rcases isText.2 with kind | kind
  · rw [strength, kind]
    exact (by decide : (20 : Int) > 0)
  · rw [strength, kind]
    exact (by decide : (20 : Int) > 0)

/-- So a text in a list is the same node, and what is no text does not become one in parentheses. -/
theorem is_text_as_member (node : Node) : node.asMember.isText = node.isText := by
  by_cases isText : node.isText = true
  · rw [as_member_of_strength (strength_of_text isText)]
  · rw [asMember, inParensUnless]
    split
    · rfl
    · rw [Bool.not_eq_true] at isText
      rw [isText]
      rfl

/-- What is put in parentheses among other members requires nothing. -/
theorem required_as_member (node : Node) : requiredModule node.asMember = requiredModule node := by
  by_cases isCall : node.kind = .callExpression
  · rw [as_member_of_strength (strength_of_call isCall)]
  · have other := kind_as_member .callExpression (fun _ => strength_of_call) (by decide) node
    rw [beq_false_of_ne isCall] at other
    rw [requiredModule, requiredModule, other, beq_false_of_ne isCall, if_neg Bool.false_ne_true,
      if_neg Bool.false_ne_true]

/-- A call that is mended has one argument as long as it had one, and that is a text as long as it
was one. A rule that applies leaves no single argument. -/
theorem argument_mend (bindings : Bindings) (shade : Shade) (lawful : rule.Lawful)
    (isCall : node.kind = .callExpression) :
    (∃ x y, node.items .arguments = [x] ∧ (rule.mend bindings shade node).items .arguments = [y] ∧
        x.isText = y.isText ∧ (x.isText = true → x.text = y.text)) ∨
      (node.items .arguments).length ≠ 1 ∧
        ((rule.mend bindings shade node).items .arguments).length ≠ 1 := by
  have below := arguments_below rule bindings shade
    (show isApplication node.kind = true by rw [isCall]; rfl)
  have length : ((rule.below bindings shade node).items .arguments).length =
      (node.items .arguments).length := by
    rw [below]
    split
    · rw [List.length_map]
    · rfl
  rw [mend_eq]
  cases renews : rule.renewal (resolveIn shade bindings) (rule.below bindings shade node) with
  | some arguments =>
    obtain ⟨exported, _, renewed⟩ := renew_of_renewal renews
    have sameKind := (kind_of_renewal renews).symm.trans (kind_below.trans isCall)
    obtain ⟨before, after⟩ := (lawful.several renewed).2.2 sameKind
    rw [applied_some renews, arguments_given, List.length_map]
    exact .inr ⟨by rwa [length] at before, after⟩
  | none =>
    rw [applied_none renews]
    by_cases single : (node.items .arguments).length = 1
    · obtain ⟨x, only⟩ := List.length_eq_one_iff.mp single
      rw [below, only]
      split
      · have like := mended_like bindings lawful
        have mended : Mended rule bindings x (rule.mend bindings shade x) := .inr ⟨shade, rfl⟩
        have same : x.isText = (rule.mend bindings shade x).isText := by
          rw [isText, isText, like.kind mended, like.childless mended]
        refine .inl ⟨x, _, rfl, rfl, by rw [is_text_as_member, same], fun isText => ?_⟩
        dsimp only
        rw [as_member_of_strength (strength_of_text (same ▸ isText)), like.text mended]
      · exact .inl ⟨x, x, rfl, rfl, rfl, fun _ => rfl⟩
    · exact .inr ⟨single, by rwa [length]⟩

/-- A call requires a module by one argument. -/
theorem required_of_several (several : (node.items .arguments).length ≠ 1) :
    requiredModule node = none := by
  rw [requiredModule]
  split
  · split
    · rename_i single
      rw [single] at several
      exact absurd rfl several
    · rfl
  · rfl

/-- Mending an expression changes nothing about the module that it requires. A call that requires a
module has a text as its only argument, which mending keeps; and a rule that renews such a call leaves it
with more arguments than one. -/
theorem required_mend (lawful : rule.Lawful) :
    requiredModule (rule.mend bindings shade node) = requiredModule node := by
  by_cases isCall : node.kind = .callExpression
  · rcases argument_mend bindings shade lawful isCall with
      ⟨x, y, onlyA, onlyB, sameText, text⟩ | ⟨severalA, severalB⟩
    · have like := mended_like bindings lawful
      have mended : Mended rule bindings node (rule.mend bindings shade node) := .inr ⟨shade, rfl⟩
      rw [requiredModule, requiredModule, kind_mend, onlyA, onlyB]
      rcases like.child .expression mended (by rw [isCall]; rfl) with
        ⟨noneA, noneB⟩ | ⟨callee, other, someA, someB, before⟩
      · rw [noneA, noneB]
      · rw [someA, someB]
        dsimp only
        rw [like.kind before, like.text before, sameText]
        split
        · split
          · rename_i reads
            rw [Bool.and_eq_true] at reads
            rw [text (sameText.trans reads.2)]
          · rfl
        · rfl
    · rw [required_of_several severalA, required_of_several severalB]
  · rw [requiredModule, requiredModule, kind_mend, if_neg (by simpa using isCall),
      if_neg (by simpa using isCall)]

/-- Where a module is required, a child may be put in the parentheses of a member. A call binds strongly
enough to need none, and what needs them is no call that requires a module. -/
theorem seated_required {info : Info} {operator : Kind} {role : Role} {first : Bool} {node : Node}
    (marked : first = true → role = .typeArguments ∧ refusesGenericFirst info.kind = true)
    (asked : role = .initializer ∨ role = .expression ∧ info.kind = .expressionStatement) :
    requiredModule (seated info operator (role, first) node) = requiredModule node := by
  have unmarked : first = false := by
    rw [← Bool.not_eq_true]
    intro isFirst
    rcases asked with rfl | ⟨rfl, _⟩ <;> cases (marked isFirst).1
  rw [seated, unmarked, if_neg Bool.false_ne_true]
  rcases asked with rfl | ⟨rfl, kind⟩
  · dsimp only
    unfold fitted
    split
    all_goals first
      | (rename_i impossible; cases impossible; done)
      | exact required_as_member node
      | rfl
  · simp only [fitted, kind]

/-- A node is kin to what it is mended to. Besides being alike they require the same modules. Only
arguments change and no module is named by the parts that were changed. -/
theorem mended_kin (bindings : Bindings) (lawful : rule.Lawful) : Kin (Mended rule bindings) where
  toLikeness := mended_like bindings lawful
  required := by
    rintro a _ role (rfl | ⟨shade, rfl⟩) asked
    · rfl
    · have other : role ≠ .arguments := by
        rintro rfl
        rcases asked with impossible | ⟨impossible, _⟩ <;> cases impossible
      have related : List.Forall₂ (fun p q : Role × Node => p.1 = q.1 ∧
          (p.1 == role → requiredModule p.2 = requiredModule q.2))
          a.parts (rule.below bindings shade a).parts := by
        rw [below]
        split
        · refine rel_parts_refit a _ fun part _ operator first marked => ⟨rfl, fun same => ?_⟩
          rw [seated_required marked (by rw [eq_of_beq same]; exact asked), Rule.part]
          split
          · exact (required_mend lawful).symm
          · rfl
        · exact List.forall₂_same.mpr fun part _ => ⟨rfl, fun _ => rfl⟩
      have items := items_of_parts (R := fun x y => requiredModule x = requiredModule y) (· == role)
        related (beq_self_eq_true role)
      rw [mend_eq, child_eq_head, child_eq_head, items_applied other]
      generalize a.items role = xs at items ⊢
      generalize (rule.below bindings shade a).items role = ys at items ⊢
      cases items with
      | nil => rfl
      | cons first _ => exact first
  hoists := by
    rintro a _ name (rfl | ⟨shade, rfl⟩)
    · rfl
    · exact (hoists_mend lawful name shade a).symm

end Fix.Rule

end Codemod
