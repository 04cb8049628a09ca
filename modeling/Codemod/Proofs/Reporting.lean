import Codemod.Proofs.Preorder
import Codemod.Proofs.Remarks
import Mathlib.Data.List.Basic

/-!
# What a transformation reports

A transformation goes over a tree in one order: a node before what stands in it, and what stands in it
in its order. The tour of a tree lists the nodes that are visited so, each at its place, and the places come in
the order of lists.

A visitor may warn about the node that it is given. Such a transformation warns about the nodes of the tour
that are to be warned about, in that order, when what is put in the place of a node leaves the same
to be warned about below it. One that fails has warned about the first of them.
-/
namespace Codemod

open Syntax

namespace Syntax.Node

/-- Whether a transformation goes into a child with this role of a node of this kind. -/
def isEntered (kind : Kind) (role : Option Role) : Bool :=
  role.any (·.isVisited kind)

/-- The nodes that a transformation visits in a tree with their places, in the order of the visit: the
stops of the tree when only the children that it visits are gone into. -/
def tour (node : Node) : List (List Nat × Node) :=
  node.stops isEntered

/-- A child that is gone into is a part of its node, with a role that is visited. -/
theorem entered_part {node child : Node} {index : Nat} :
    (node.children[index]? = some child ∧ isEntered node.kind node.info.layout[index]? = true) ↔
      ∃ role, node.parts[index]? = some (role, child) ∧ role.isVisited node.kind = true := by
  simp only [parts, List.getElem?_zip_eq_some, isEntered, Option.any_eq_true]
  constructor
  · rintro ⟨numbered, role, placed, entered⟩
    exact ⟨role, ⟨placed, numbered⟩, entered⟩
  · rintro ⟨role, ⟨placed, numbered⟩, entered⟩
    exact ⟨numbered, role, placed, entered⟩

/-- What is visited is a stop of the tour. The induction is on the way down to it. -/
theorem tour_of_visits {root target : Node} {place : List Nat} (visits : root.Visits place target) :
    (place, target) ∈ root.tour := by
  induction visits with
  | here node =>
    rw [tour, stops_eq]
    exact List.mem_cons_self
  | step part visited _ inductionHypothesis =>
    obtain ⟨numbered, entered⟩ := entered_part.mpr ⟨_, part, visited⟩
    rw [tour, stops_eq, List.mem_cons, mem_stops_in]
    exact .inr ⟨_, _, _, by rw [Nat.zero_add], numbered, entered, inductionHypothesis⟩

/-- A stop of the tour is visited. The recursion is on the size of the tree. -/
theorem visits_of_tour {root target : Node} {place : List Nat} (listed : (place, target) ∈ root.tour) :
    root.Visits place target := by
  rw [tour, stops_eq, List.mem_cons, mem_stops_in] at listed
  rcases listed with here | ⟨index, rest, child, rfl, numbered, entered, deeper⟩
  · cases here
    exact .here root
  · have smaller : child.size < root.size := size_lt_of_mem (List.mem_of_getElem? numbered)
    obtain ⟨role, part, visited⟩ := entered_part.mp ⟨numbered, entered⟩
    rw [Nat.zero_add]
    exact .step part visited (visits_of_tour deeper)
termination_by root.size

/-- The tour of a tree stops at the nodes that a transformation visits, and nowhere else. -/
theorem mem_tour {root target : Node} {place : List Nat} :
    (place, target) ∈ root.tour ↔ root.Visits place target :=
  ⟨visits_of_tour, tour_of_visits⟩

/-- The nodes that pass a test among those that are visited in a tree. -/
def passing (test : Node → Bool) (node : Node) : List Node :=
  (node.tour.map Prod.snd).filter test

/-- The nodes that pass a test among those that are visited below a node. -/
def passingBelow (test : Node → Bool) (node : Node) : List Node :=
  node.parts.flatMap fun part => if part.1.isVisited node.kind then part.2.passing test else []

/-- What passes a test among several children stands in those that have a visited role, child by child.
The induction is on the children, with the number of the first of them. -/
theorem passing_in (test : Node → Bool) (kind : Kind) (first : Nat) (roles : List Role)
    (children : List Node) :
    ((stopsIn isEntered kind first roles children).map Prod.snd).filter test =
      (roles.zip children).flatMap fun part =>
        if part.1.isVisited kind then part.2.passing test else [] := by
  induction children generalizing first roles with
  | nil => simp [stopsIn]
  | cons child children inductionHypothesis =>
    rw [stopsIn, List.map_append, List.filter_append, inductionHypothesis]
    cases roles with
    | nil => rfl
    | cons role roles =>
      rw [List.zip_cons_cons, List.flatMap_cons, List.tail_cons, List.head?_cons, isEntered, Option.any_some]
      congr 1
      split
      · rw [List.map_map]
        rfl
      · rfl

/-- A node comes before what stands in it. -/
theorem passing_eq (test : Node → Bool) (node : Node) :
    node.passing test = (if test node then [node] else []) ++ node.passingBelow test := by
  rw [passing, tour, stops_eq, List.map_cons, List.filter_cons, passing_in]
  split <;> rfl

end Syntax.Node

/-- The draft with the same warning about some nodes. -/
def Draft.reporting (draft : Draft) (message : String) (nodes : List Node) : Draft :=
  draft.remarked (nodes.map fun node => (node, message))

/-- Warnings about some nodes and then about others are warnings about all of them. -/
theorem Draft.reporting_append (draft : Draft) (message : String) (first second : List Node) :
    (draft.reporting message first).reporting message second =
      draft.reporting message (first ++ second) := by
  rw [reporting, reporting, remarked_append, reporting, List.map_append]

/-- The warnings are about the places of the nodes in the text that the tree was read from. -/
theorem Draft.reporting_eq (draft : Draft) (message : String) (nodes : List Node) :
    draft.reporting message nodes =
      draft.noting (nodes.map fun node => draft.remark draft.activeFix node message) := by
  rw [reporting, remarked_eq, List.map_map]
  rfl

namespace Edit

variable {α β : Type} {message : String}

/-- A computation that answers the same on every draft and does nothing to it but warn about these nodes
one after another; when it fails it has warned about the first of them. -/
def Tells (message : String) (edit : Edit α) (reply : Except Thrown α) (nodes : List Node) : Prop :=
  ∃ told, told <+: nodes ∧ (∀ value, reply = .ok value → told = nodes) ∧
    ∀ draft, edit.run draft = (reply, draft.reporting message told)

/-- An answer tells of no nodes. -/
theorem Tells.pure (value : α) : Tells message (pure value) (.ok value) [] :=
  ⟨[], List.prefix_rfl, fun _ _ => rfl, fun _ => rfl⟩

/-- An exception that comes first has warned about no node, which is the beginning of any list. -/
theorem Tells.throw (thrown : Thrown) (nodes : List Node) :
    Tells message (throw thrown : Edit α) (.error thrown) nodes :=
  ⟨[], List.nil_prefix, fun _ impossible => (by cases impossible), fun _ => rfl⟩

/-- A computation that goes on from another one tells of its own nodes after those of the first. If the
first fails, the second is not run, and what was told is a beginning of what both tell. -/
theorem Tells.bind {edit : Edit α} {reply : Except Thrown α} {next : α → Edit β}
    {further : α → Except Thrown β} {nodes others : List Node} (first : Tells message edit reply nodes)
    (second : ∀ value, reply = .ok value → Tells message (next value) (further value) others) :
    Tells message (edit >>= next) (reply >>= further) (nodes ++ others) := by
  obtain ⟨told, initial, all, ran⟩ := first
  cases reply with
  | error thrown =>
    refine ⟨told, initial.trans (List.prefix_append _ _), fun _ impossible => (by cases impossible),
      fun draft => ?_⟩
    rw [run_bind, ran]
    rfl
  | ok value =>
    obtain rfl := all value rfl
    obtain ⟨more, moreInitial, moreAll, continued⟩ := second value rfl
    refine ⟨told ++ more, (List.prefix_append_right_inj told).mpr moreInitial,
      fun answer given => by rw [moreAll answer given], fun draft => ?_⟩
    rw [run_bind, ran]
    dsimp only
    rw [continued, Draft.reporting_append]
    rfl

/-- Nothing is warned about by what does nothing in the end. -/
theorem Tells.map {edit : Edit α} {reply : Except Thrown α} {nodes : List Node}
    (tells : Tells message edit reply nodes) (change : α → β) :
    Tells message (edit >>= fun value => Pure.pure (change value))
      (reply >>= fun value => .ok (change value)) nodes := by
  have followed : Tells message (edit >>= fun value => Pure.pure (change value))
      (reply >>= fun value => .ok (change value)) (nodes ++ []) :=
    tells.bind fun value _ => Tells.pure (change value)
  rwa [List.append_nil] at followed

end Edit

/-- A visitor that answers by the node alone and warns about the nodes that pass a test. The trees that it is
asked about are sound. What is put in the place of a node is sound when the node is, passes no
test itself, and has the same below it that passes. -/
structure Syntax.Reporting (message : String) (visit : Visitor Edit) (answer : Node → Option Node)
    (test : Node → Bool) (sound : Node → Prop) : Prop where
  tells : ∀ node, Edit.Tells message (visit node) (.ok (answer node)) (if test node then [node] else [])
  part : ∀ {node : Node} {part : Role × Node}, sound node → part ∈ node.parts → sound part.2
  put : ∀ {node replacement : Node}, sound node → answer node = some replacement →
    sound replacement ∧ test node = false ∧
      replacement.passingBelow test = node.passingBelow test

namespace Syntax.Reporting

variable {message : String} {visit : Visitor Edit} {answer : Node → Option Node}
  {test : Node → Bool} {sound : Node → Prop}

/-- The warnings about several children, one child after another. The induction is on the roles. Those of
the first child come before those of the rest. -/
theorem children {kind : Kind} {one : Node → Edit Transformed}
    {reply : Node → Except Thrown Transformed} {roles : List Role} {children : List Node}
    (each : ∀ part ∈ roles.zip children,
      Edit.Tells message (one part.2) (reply part.2) (part.2.passing test)) :
    Edit.Tells message (Node.transformChildren kind one roles children)
      (Node.transformChildren kind reply roles children)
      ((roles.zip children).flatMap fun part =>
        if part.1.isVisited kind then part.2.passing test else []) := by
  induction roles generalizing children with
  | nil => exact .pure _
  | cons role roles inductionHypothesis =>
    cases children with
    | nil => exact .pure _
    | cons child children =>
      have rest := @inductionHypothesis children
        fun part later => each part (List.mem_cons_of_mem _ later)
      rw [Node.transformChildren, Node.transformChildren, List.zip_cons_cons, List.flatMap_cons]
      split
      · exact (each (role, child) List.mem_cons_self).bind fun result _ => rest.map _
      · exact (Edit.Tells.pure _).bind fun result _ => rest.map _

/-- The warnings below a node. What comes after the children are done only answers or throws. They are
the warnings about its children. -/
theorem below {one : Node → Edit Transformed} {reply : Node → Except Thrown Transformed} {node : Node}
    (each : ∀ part ∈ node.parts,
      Edit.Tells message (one part.2) (reply part.2) (part.2.passing test)) :
    Edit.Tells message (Node.transformBelow one node) (Node.transformBelow reply node)
      (node.passingBelow test) := by
  have ended (results : List Transformed) :
      Edit.Tells message
        (if node.isIncomplete then throw incomplete else pure (node.assemble results))
        (if node.isIncomplete then .error incomplete else .ok (node.assemble results)) [] := by
    split
    · exact .throw incomplete []
    · exact .pure _
  have ran : Node.transformBelow one node =
      Node.transformChildren node.kind one node.info.layout node.children >>= fun results =>
        if node.isIncomplete then throw incomplete else pure (node.assemble results) := by
    rw [Node.transformBelow]
    cases node.isIncomplete <;> rfl
  have answered : Node.transformBelow reply node =
      Node.transformChildren node.kind reply node.info.layout node.children >>= fun results =>
        if node.isIncomplete then .error incomplete else .ok (node.assemble results) := by
    rw [Node.transformBelow]
    cases node.isIncomplete <;> rfl
  rw [ran, answered, ← List.append_nil (node.passingBelow test)]
  exact (children each).bind fun results _ => ended results

variable (reporting : Reporting message visit answer test sound)

include reporting

/-- The warnings about a node and below it, however deep it is. The induction is on the depth: the
visitor warns about the node first and then about what stands below it. -/
theorem node (fuel : Nat) {node : Node} (fits : sound node) :
    Edit.Tells message (Node.transformNode visit fuel node)
      (Node.transformNode (fun node => .ok (answer node)) fuel node) (node.passing test) := by
  induction fuel generalizing node with
  | zero => exact .throw endless _
  | succ fuel inductionHypothesis =>
    rw [Node.transformNode, Node.transformNode, Node.passing_eq]
    refine (reporting.tells node).bind fun found given => ?_
    obtain rfl : answer node = found := Except.ok.inj given
    cases put : answer node with
    | none => exact below fun part present => inductionHypothesis (reporting.part fits present)
    | some replacement =>
      obtain ⟨sound, _, same⟩ := reporting.put fits put
      rw [← same]
      exact (below fun part present => inductionHypothesis (reporting.part sound present)).map _

/-- The warnings about a whole tree. A whole file in the place of the root has the same calls below it as
the root, by what is required of replacements. -/
theorem whole {root : Node} (fits : sound root) :
    Edit.Tells message (root.transform visit)
      (root.transform fun node => .ok (answer node)) (root.passing test) := by
  have each {tree : Node} (sound : sound tree) : Edit.Tells message
      (Node.transformBelow (Node.transformNode visit root.transformBound) tree)
      (Node.transformBelow (Node.transformNode (fun node => .ok (answer node)) root.transformBound) tree)
      (tree.passingBelow test) :=
    below fun part present => reporting.node _ (reporting.part sound present)
  rw [Node.transform, Node.transform, Node.transformWithin, Node.transformWithin, Node.passing_eq]
  refine (reporting.tells root).bind fun found given => ?_
  obtain rfl : answer root = found := Except.ok.inj given
  cases put : answer root with
  | none => exact each fits
  | some replacement =>
    obtain ⟨sound, _, same⟩ := reporting.put fits put
    dsimp only
    split
    · rw [← same]
      exact (each sound).map _
    · exact each fits

/-- Transforming the tree of a draft by such a visitor: what is warned about is the part of the tour that
passes the test, or the first of it when the transformation fails. The tree is put in its place after
that. -/
theorem run_transform {draft : Draft} (fits : sound draft.root) :
    ∃ told, told <+: draft.root.passing test ∧
      (Edit.transform visit).run draft =
        match draft.root.transform (m := Except Thrown) fun node => .ok (answer node) with
        | .error thrown => (.error thrown, draft.reporting message told)
        | .ok result =>
          if result.replaced = 0 then (.ok false, draft.reporting message (draft.root.passing test))
          else (.ok true, (draft.reporting message (draft.root.passing test)).replaceRoot result.node) := by
  obtain ⟨told, initial, all, ran⟩ := reporting.whole fits
  refine ⟨told, initial, ?_⟩
  rw [Edit.transform, Edit.run_reading, Edit.run_bind, ran]
  cases transformed : draft.root.transform (m := Except Thrown) fun node => .ok (answer node) with
  | error thrown => rfl
  | ok result =>
    obtain rfl := all result transformed
    dsimp only
    split
    · rfl
    · rfl

end Syntax.Reporting

end Codemod
