import Codemod.Proofs.Places
import Codemod.Syntax.Walk
import Mathlib.Data.List.Basic

/-!
# Walks go through trees in preorder

A walk keeps a stack of the trees that are still to be gone through. What it hands over from there on is
each of them in turn, a node before what stands below it and that child by child. A stack on which the
children of a node take its place stands for the same nodes, less the one that was handed over.

So a walk hands over every node of a tree once, at the places of the tree in their order.
-/
namespace Codemod.Syntax.Node

mutual

/-- A node and all nodes below it: the node itself, then those of each child in turn. -/
def preorder : Node → List Node
  | .mk info children => .mk info children :: preorderIn children

/-- The nodes of several trees, tree by tree. -/
def preorderIn : List Node → List Node
  | [] => []
  | node :: rest => preorder node ++ preorderIn rest

end

/-- The order of several trees is that of each of them in turn. -/
theorem preorder_in_eq (nodes : List Node) : preorderIn nodes = nodes.flatMap preorder := by
  induction nodes with
  | nil =>
    rw [preorderIn]
    rfl
  | cons node rest inductionHypothesis => rw [preorderIn, inductionHypothesis, List.flatMap_cons]

/-- The order of a tree is its root and then that of each child in turn. -/
theorem preorder_eq (node : Node) : node.preorder = node :: node.children.flatMap preorder := by
  obtain ⟨info, children⟩ := node
  rw [preorder, preorder_in_eq]
  rfl

/-- A stack on which the children of the node on top take its place stands for the same nodes, less
that one. -/
theorem preorder_of_step (node : Node) (rest : List Node) :
    (node :: rest).flatMap preorder = node :: (pushAll node.children rest).flatMap preorder := by
  rw [push_all_eq, List.flatMap_cons, preorder_eq, List.flatMap_append]
  rfl

section

variable {m : Type → Type} [Monad m]

/-- A walk hands over the nodes that its stack stands for. The induction is on the run of the walk,
which takes one node off the stack at a time. -/
theorem walk_stack_eq (visit : Node → m Unit) (stack : List Node) :
    walkStack visit stack = forM (stack.flatMap preorder) visit := by
  induction stack using walkStack.induct with
  | case1 =>
    rw [walkStack]
    rfl
  | case2 info children rest inductionHypothesis =>
    rw [walkStack, inductionHypothesis, preorder_of_step]
    rfl

/-- Walking with a visitor is calling it for each node in the order. The stack holds the trees that are
left, and its size goes down by one with each call. -/
theorem walk_with_eq (visit : Node → m Unit) (node : Node) :
    node.walkWith visit = forM node.preorder visit := by
  rw [walkWith, walk_stack_eq, List.flatMap_singleton]

end

/-- Collecting the nodes of a list that satisfy a test adds them to what was found, in their order. The
induction is on the list, over what was found before. -/
theorem run_collect (test : Node → Bool) (nodes : List Node) (found : Array Node) :
    (forM nodes fun node => if test node then modify (·.push node) else pure () :
        StateM (Array Node) Unit).run found =
      ((), found ++ (nodes.filter test).toArray) := by
  induction nodes generalizing found with
  | nil =>
    rw [List.filter_nil, Array.append_empty]
    rfl
  | cons node rest inductionHypothesis =>
    rw [List.forM_cons, StateT.run_bind]
    cases passes : test node with
    | true =>
      rw [if_pos rfl, List.filter_cons_of_pos passes]
      refine (inductionHypothesis (found.push node)).trans ?_
      simp
    | false =>
      rw [if_neg Bool.false_ne_true, List.filter_cons_of_neg (Bool.not_eq_true _ ▸ passes)]
      exact inductionHypothesis found

section

variable (enters : Kind → Option Role → Bool)

mutual

/-- The places of a tree with the nodes there, in preorder. A child is gone into when it is to be entered,
given the kind of its parent and its role there, if it has one. -/
def stops : Node → List (List Nat × Node)
  | .mk info children => ([], .mk info children) :: stopsIn info.kind 0 info.layout children

/-- The places of several siblings, the first of which has a number, with the nodes there. -/
def stopsIn (kind : Kind) (first : Nat) : List Role → List Node → List (List Nat × Node)
  | _, [] => []
  | roles, node :: rest =>
    (if enters kind roles.head? then (stops node).map fun stop => (first :: stop.1, stop.2) else []) ++
      stopsIn kind (first + 1) roles.tail rest

end

variable {enters}

/-- A tree stops at its root first, and then among its children. -/
theorem stops_eq (node : Node) :
    node.stops enters = ([], node) :: stopsIn enters node.kind 0 node.info.layout node.children := by
  obtain ⟨info, children⟩ := node
  rw [stops]
  rfl

/-- What stands among several siblings stands in one of them that is entered. The induction is on the
siblings, with the number of the first raised by one at each step. -/
theorem mem_stops_in {kind : Kind} {first : Nat} {roles : List Role} {nodes : List Node}
    {place : List Nat} {target : Node} :
    (place, target) ∈ stopsIn enters kind first roles nodes ↔
      ∃ index rest node, place = (first + index) :: rest ∧ nodes[index]? = some node ∧
        enters kind roles[index]? = true ∧ (rest, target) ∈ node.stops enters := by
  induction nodes generalizing first roles with
  | nil => simp [stopsIn]
  | cons node nodes inductionHypothesis =>
    rw [stopsIn, List.mem_append, inductionHypothesis]
    constructor
    · rintro (here | ⟨index, rest, sibling, rfl, numbered, entered, deeper⟩)
      · split at here
        · rename_i entered
          obtain ⟨⟨rest, found⟩, deeper, same⟩ := List.mem_map.mp here
          cases same
          exact ⟨0, rest, node, rfl, rfl, List.head?_eq_getElem? ▸ entered, deeper⟩
        · exact absurd here List.not_mem_nil
      · rw [List.getElem?_tail] at entered
        exact ⟨index + 1, rest, sibling, by rw [Nat.add_right_comm, Nat.add_assoc], numbered, entered,
          deeper⟩
    · rintro ⟨index, rest, sibling, rfl, numbered, entered, deeper⟩
      cases index with
      | zero =>
        cases numbered
        rw [List.head?_eq_getElem?, if_pos entered]
        exact .inl (List.mem_map.mpr ⟨(rest, target), deeper, rfl⟩)
      | succ index =>
        rw [← List.getElem?_tail] at entered
        exact .inr ⟨index, rest, sibling, by rw [Nat.add_right_comm, Nat.add_assoc], numbered, entered,
          deeper⟩

/-- The places of several siblings come in order, when those of each sibling do: they differ in the number
of the sibling, or they stand in the same one. -/
theorem stops_in_sorted {kind : Kind} {first : Nat} {roles : List Role} {nodes : List Node}
    (each : ∀ node ∈ nodes, (node.stops enters).Pairwise fun one other => one.1 < other.1) :
    (stopsIn enters kind first roles nodes).Pairwise fun one other => one.1 < other.1 := by
  induction nodes generalizing first roles with
  | nil => simp [stopsIn]
  | cons node nodes inductionHypothesis =>
    rw [stopsIn, List.pairwise_append]
    refine ⟨?_, inductionHypothesis fun other later => each other (List.mem_cons_of_mem _ later), ?_⟩
    · split
      · refine List.pairwise_map.mpr ((each node List.mem_cons_self).imp fun before => ?_)
        exact List.cons_lt_cons_iff.mpr (.inr ⟨rfl, before⟩)
      · exact .nil
    · rintro one here ⟨other, far⟩ later
      obtain ⟨index, rest, _, rfl, _⟩ := mem_stops_in.mp later
      split at here
      · obtain ⟨stop, _, rfl⟩ := List.mem_map.mp here
        exact List.cons_lt_cons_iff.mpr (.inl (by omega))
      · exact absurd here List.not_mem_nil

/-- The stops come in the order of their places: a node before what stands below it, and that child by
child. No place comes twice. -/
theorem stops_sorted (root : Node) :
    (root.stops enters).Pairwise fun one other => one.1 < other.1 := by
  rw [stops_eq, List.pairwise_cons]
  constructor
  · rintro ⟨place, target⟩ present
    obtain ⟨index, rest, _, rfl, _⟩ := mem_stops_in.mp present
    exact List.nil_lt_cons _ _
  · refine stops_in_sorted fun child present => ?_
    have smaller : child.size < root.size := size_lt_of_mem present
    exact stops_sorted child
termination_by root.size

end

/-- Every child is gone into. -/
def entersAll (_ : Kind) (_ : Option Role) : Bool :=
  true

/-- When every child is gone into, the stops are what places lead to. The induction is on the tree, along
the place. -/
theorem mem_stops {root target : Node} {place : List Nat} :
    (place, target) ∈ root.stops entersAll ↔ root.below? place = some target := by
  rw [stops_eq, List.mem_cons, mem_stops_in]
  cases place with
  | nil =>
    rw [below?]
    constructor
    · rintro (here | ⟨_, _, _, impossible, _⟩)
      · cases here
        rfl
      · cases impossible
    · rintro same
      cases same
      exact .inl rfl
  | cons index rest =>
    rw [below_cons, Option.bind_eq_some_iff]
    constructor
    · rintro (impossible | ⟨_, _, child, same, numbered, _, deeper⟩)
      · cases impossible
      · rw [Nat.zero_add, List.cons.injEq] at same
        obtain ⟨rfl, rfl⟩ := same
        have smaller : child.size < root.size := size_lt_of_mem (List.mem_of_getElem? numbered)
        exact ⟨child, numbered, mem_stops.mp deeper⟩
    · rintro ⟨child, numbered, deeper⟩
      have smaller : child.size < root.size := size_lt_of_mem (List.mem_of_getElem? numbered)
      exact .inr ⟨index, rest, child, by rw [Nat.zero_add], numbered, rfl, mem_stops.mpr deeper⟩
termination_by root.size

mutual

/-- The nodes at the stops are those of the tree in preorder. -/
theorem nodes_of_stops : ∀ node : Node, (node.stops entersAll).map Prod.snd = node.preorder
  | .mk info children => by
    rw [stops, preorder, List.map_cons, nodes_of_stops_in info.kind 0 info.layout children]

/-- The same of several siblings. -/
theorem nodes_of_stops_in (kind : Kind) (first : Nat) (roles : List Role) : ∀ nodes : List Node,
    (stopsIn entersAll kind first roles nodes).map Prod.snd = preorderIn nodes
  | [] => by
    rw [stopsIn, preorderIn]
    rfl
  | node :: rest => by
    have entered : entersAll kind roles.head? = true := rfl
    rw [stopsIn, if_pos entered, preorderIn, List.map_append, List.map_map,
      nodes_of_stops_in kind (first + 1) roles.tail rest, ← nodes_of_stops node]
    rfl

end

/-- Nodes are all the nodes of a tree, each at its own place, in the order of the places. -/
def GoesThrough (root : Node) (nodes : List Node) : Prop :=
  ∃ places : List (List Nat), places.Pairwise (· < ·) ∧
    (∀ place, place ∈ places ↔ (root.below? place).isSome) ∧
    places.map root.below? = nodes.map some

/-- The order goes through the tree: each place comes once, parents before their children and these from
first to last. -/
theorem preorder_goes_through (root : Node) : root.GoesThrough root.preorder := by
  refine ⟨(root.stops entersAll).map Prod.fst, List.pairwise_map.mpr root.stops_sorted, fun place => ?_, ?_⟩
  · rw [List.mem_map, Option.isSome_iff_exists]
    constructor
    · rintro ⟨⟨_, target⟩, listed, rfl⟩
      exact ⟨target, mem_stops.mp listed⟩
    · rintro ⟨target, found⟩
      exact ⟨(place, target), mem_stops.mpr found, rfl⟩
  · rw [← nodes_of_stops, List.map_map, List.map_map]
    exact List.map_congr_left fun stop listed => mem_stops.mp listed

/-- A walk calls its visitor on the nodes of a tree in preorder, whatever the visitor does besides. These
are all nodes of the tree, each once and the root first, and what is found by a test are those of them
that satisfy it, in the same order. -/
theorem walk_in_preorder (node : Node) :
    (∀ (m : Type → Type) [Monad m] (visit : Node → m Unit),
      node.walkWith visit = forM node.preorder visit) ∧
    node.GoesThrough node.preorder ∧
    ∀ test : Node → Bool, node.findAll test = node.preorder.filter test := by
  refine ⟨fun m _ visit => walk_with_eq visit node, preorder_goes_through node, fun test => ?_⟩
  rw [findAll, walk_with_eq, run_collect]
  simp

end Codemod.Syntax.Node
