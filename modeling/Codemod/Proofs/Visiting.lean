import Codemod.Proofs.Places
import Codemod.Proofs.Settling
import Mathlib.Algebra.GroupWithZero.Nat
import Mathlib.Data.List.Basic

/-!
# What a transformation visits

A transformation enters a node through the roles that it looks at, so that the places it
visits are those whose way down passes such roles only. The visitors of the fixes that come
with the program answer by the node alone and do nothing to a draft but add warnings; then
the whole transformation does no more than that either, and what it answers can be computed
without a draft.

When a transformation replaced nothing, every place that it visits was visited: the visitor
kept the node there, and its warnings about the node are among those that are left.
-/
namespace Codemod

open Syntax

namespace Syntax.Node

/-- A node at a place that a transformation visits. -/
inductive Visits : Node → List Nat → Node → Prop where
  | here (node : Node) : Visits node [] node
  | step {node child target : Node} {index : Nat} {rest : List Nat} {role : Role}
      (part : node.parts[index]? = some (role, child)) (entered : role.isVisited node.kind = true)
      (deeper : Visits child rest target) : Visits node (index :: rest) target

/-- A part of a node is a child of it. -/
theorem child_of_part {node child : Node} {index : Nat} {role : Role}
    (part : node.parts[index]? = some (role, child)) : node.children[index]? = some child := by
  rw [parts, List.getElem?_zip_eq_some] at part
  exact part.2

/-- A place that is visited stands in the tree, with the node that is visited there. -/
theorem below_of_visits {root target : Node} {place : List Nat}
    (visits : root.Visits place target) : root.below? place = some target := by
  induction visits with
  | here => rfl
  | step part _ _ inductionHypothesis =>
    rw [below_cons, child_of_part part]
    exact inductionHypothesis

/-- The node at a place, if a transformation visits it there. -/
def visited? (node : Node) : List Nat → Option Node
  | [] => some node
  | index :: rest =>
    match node.parts[index]? with
    | some (role, child) => if role.isVisited node.kind then child.visited? rest else none
    | none => none

/-- The search for a node that is visited at a place finds only nodes that are. The induction is on the
place, along visited roles. -/
theorem visits_of_visited {root target : Node} {place : List Nat}
    (found : root.visited? place = some target) : root.Visits place target := by
  induction place generalizing root with
  | nil =>
    cases found
    exact .here _
  | cons index rest inductionHypothesis =>
    rw [visited?] at found
    split at found
    · rename_i role child part
      split at found
      · rename_i entered
        exact .step part entered (inductionHypothesis found)
      · cases found
    · cases found

/-- What was replaced in a node is what was replaced in its children. -/
theorem replaced_assemble (node : Node) (results : List Transformed) :
    (node.assemble results).replaced = (results.map (·.replaced)).sum := by
  have counted : results.foldr (fun result count => result.replaced + count) 0 =
      (results.map (·.replaced)).sum := by
    induction results with
    | nil => rfl
    | cons first rest inductionHypothesis => simp [inductionHypothesis]
  unfold assemble
  dsimp only
  split <;> exact counted

/-- A node in which nothing was replaced is given back as it is, and else it is rebuilt. -/
theorem node_assemble (node : Node) (results : List Transformed) :
    (node.assemble results).node =
      if (node.assemble results).replaced = 0 then node else node.rebuild (results.map (·.node)) := by
  unfold assemble
  dsimp only
  split <;> rfl

end Syntax.Node

/-- The draft with more warnings. -/
def Draft.noting (draft : Draft) (added : List Warning) : Draft :=
  { draft with warnings := draft.warnings ++ added }

/-- No warnings change nothing. -/
@[simp] theorem Draft.noting_nil (draft : Draft) : draft.noting [] = draft := by
  simp [Draft.noting]

/-- Warnings that are added one after the other are added together. -/
@[simp] theorem Draft.noting_noting (draft : Draft) (first second : List Warning) :
    (draft.noting first).noting second = draft.noting (first ++ second) := by
  simp [Draft.noting]

/-- Warnings are no part of what a fix works on. -/
@[simp] theorem Draft.noting_view (draft : Draft) (added : List Warning) :
    (draft.noting added).view = draft.view :=
  rfl

/-- The warning of a fix about a node of a draft. -/
def Draft.remark (draft : Draft) (fix : String) (node : Node) (message : String) : Warning :=
  let place := (draft.positionOf draft.generation node).getD { line := 0, column := 0 }
  { fix, line := place.line, column := place.column, message }

/-- The place of a node that a warning gives follows from what a fix works on. -/
theorem Draft.remark_of_view {first second : Draft} (same : first.view = second.view)
    (fix : String) (node : Node) (message : String) :
    first.remark fix node message = second.remark fix node message := by
  simp only [Draft.view, Draft.View.mk.injEq] at same
  obtain ⟨_, _, parsed, _, printed, _⟩ := same
  simp only [Draft.remark, Draft.positionOf, parsed, printed, bne_self_eq_false]

namespace Edit

variable {α β : Type}

/-- A computation that answers the same on every draft and does nothing to it but add warnings that are
allowed. -/
def Notes (allowed : Warning → Prop) (edit : Edit α) (reply : Except Thrown α) : Prop :=
  ∀ draft, ∃ added, (∀ warning ∈ added, allowed warning) ∧ edit.run draft = (reply, draft.noting added)

variable {allowed : Warning → Prop}

/-- An answer adds no warnings. -/
theorem Notes.pure (value : α) : Notes allowed (pure value) (.ok value) :=
  fun draft => ⟨[], by simp, by simp⟩

/-- An exception adds no warnings. -/
theorem Notes.throw (thrown : Thrown) : Notes allowed (throw thrown : Edit α) (.error thrown) :=
  fun draft => ⟨[], by simp, by simp⟩

/-- What does nothing but answer adds no warnings at all. -/
theorem Notes.silent (value : α) : Notes (fun _ => False) (Pure.pure value) (.ok value) :=
  .pure value

/-- What such a computation leaves. -/
theorem Notes.left {edit : Edit α} {reply result : Except Thrown α}
    (notes : Notes allowed edit reply) {draft left : Draft} (ran : edit.run draft = (result, left)) :
    ∃ added, left = draft.noting added := by
  obtain ⟨added, _, noted⟩ := notes draft
  exact ⟨added, congrArg Prod.snd (ran.symm.trans noted)⟩

/-- A sequence of such computations is one. The warnings of the second come after those of the first. -/
theorem Notes.bind {edit : Edit α} {reply : Except Thrown α} {next : α → Edit β}
    {further : α → Except Thrown β} (first : Notes allowed edit reply)
    (second : ∀ value, Notes allowed (next value) (further value)) :
    Notes allowed (edit >>= next) (reply >>= further) := by
  intro draft
  obtain ⟨added, fine, ran⟩ := first draft
  rw [run_bind, ran]
  cases reply with
  | error thrown => exact ⟨added, fine, rfl⟩
  | ok value =>
    obtain ⟨more, moreFine, continued⟩ := second value (draft.noting added)
    refine ⟨added ++ more, ?_, by rw [← Draft.noting_noting]; exact continued⟩
    intro warning present
    exact (List.mem_append.mp present).elim (fine warning) (moreFine warning)

section

variable {visit : Visitor Edit} {answer : Node → Option Node}

/-- A visitor that only adds warnings makes a transformation that only adds warnings; its result is
that of the answers alone. -/
theorem Notes.carried :
    Carried fun α (edit : Edit α) (reply : Except Thrown α) => Notes allowed edit reply where
  pure := Notes.pure
  throw := Notes.throw
  bind := Notes.bind

/-- Transforming the tree of a draft: the warnings are added first, then the tree is put in its
place. -/
theorem run_transform (visits : ∀ node, Notes allowed (visit node) (.ok (answer node))) (draft : Draft) :
    ∃ added, (∀ warning ∈ added, allowed warning) ∧ (Edit.transform visit).run draft =
      match draft.root.transform (m := Except Thrown) fun node => .ok (answer node) with
      | .error thrown => (.error thrown, draft.noting added)
      | .ok result =>
        if result.replaced = 0 then (.ok false, draft.noting added)
        else (.ok true, (draft.noting added).replaceRoot result.node) := by
  obtain ⟨added, fine, ran⟩ := Notes.carried.transform visits draft.root draft
  refine ⟨added, fine, ?_⟩
  rw [Edit.transform, run_reading, run_bind, ran]
  cases draft.root.transform (m := Except Thrown) fun node => .ok (answer node) with
  | error thrown => rfl
  | ok result =>
    dsimp only
    split
    · rfl
    · rfl

/-- What was done to the first child of a node, if it is entered, and to the others after it. A child
that is not entered is handed on as it is. -/
theorem transform_children_ok {σ : Type} {kind : Kind}
    {one : Node → ExceptT Thrown (StateM σ) Transformed} {role : Role} {roles : List Role} {child : Node}
    {rest : List Node} {start last : σ} {results : List Transformed}
    (ran : (Node.transformChildren kind one (role :: roles) (child :: rest)).run start =
      (.ok results, last)) :
    ∃ result left more,
      (if role.isVisited kind then one child
        else pure { node := child, replaced := 0 }).run start = (.ok result, left) ∧
      (Node.transformChildren kind one roles rest).run left = (.ok more, last) ∧
      results = result :: more := by
  rw [Node.transformChildren] at ran
  split at ran
  all_goals
    rename_i enters
    obtain ⟨result, left, childRan, continued⟩ := (bind_ok _ _ _ _ _).mp ran
    obtain ⟨more, final, restRan, combined⟩ := (bind_ok _ _ _ _ _).mp continued
    cases combined
    exact ⟨result, left, more, by simpa [enters] using childRan, restRan, rfl⟩

/-- When nothing was replaced in the children of a node, each child that is entered was transformed
without replacing anything, on the draft with the warnings about the children before it. -/
theorem quiet_children {kind : Kind} {one : Node → Edit Transformed}
    {reply : Node → Except Thrown Transformed} (each : ∀ node, Notes allowed (one node) (reply node))
    {roles : List Role} {children : List Node} {draft last : Draft} {results : List Transformed}
    (ran : (Node.transformChildren kind one roles children).run draft = (.ok results, last))
    (still : (results.map (·.replaced)).sum = 0) {index : Nat} {role : Role} {child : Node}
    (part : (roles.zip children)[index]? = some (role, child))
    (entered : role.isVisited kind = true) :
    ∃ earlier result left later, (one child).run (draft.noting earlier) = (.ok result, left) ∧
      result.replaced = 0 ∧ last = left.noting later := by
  induction roles generalizing children draft results index with
  | nil => simp at part
  | cons first roles inductionHypothesis =>
    cases children with
    | nil => simp at part
    | cons front rest =>
      obtain ⟨result, left, more, frontRan, restRan, rfl⟩ := transform_children_ok ran
      simp only [List.map_cons, List.sum_cons, Nat.add_eq_zero_iff] at still
      cases index with
      | zero =>
        simp only [List.zip_cons_cons, List.getElem?_cons_zero, Option.some.injEq,
          Prod.mk.injEq] at part
        obtain ⟨rfl, rfl⟩ := part
        rw [if_pos entered] at frontRan
        obtain ⟨later, noted⟩ := (Notes.carried.transform_children kind each roles rest).left restRan
        exact ⟨[], result, left, later, by simpa using frontRan, still.1, noted⟩
      | succ index =>
        obtain ⟨added, rfl⟩ : ∃ added, left = draft.noting added := by
          split at frontRan
          · exact (each front).left frontRan
          · exact (Notes.silent _).left frontRan
        obtain ⟨earlier, found, after, later, foundRan, kept, lastIs⟩ :=
          inductionHypothesis restRan still.2 (by simpa using part)
        exact ⟨added ++ earlier, found, after, later, by simpa using foundRan, kept, lastIs⟩

/-- What was done below a node that is not replaced and lacks nothing. A node that lacks a part is what
makes it fail at the end. -/
theorem transform_below_ok {σ : Type} {one : Node → ExceptT Thrown (StateM σ) Transformed} {node : Node}
    {start last : σ} {result : Transformed}
    (ran : (Node.transformBelow one node).run start = (.ok result, last)) :
    ∃ results, (Node.transformChildren node.kind one node.info.layout node.children).run start =
        (.ok results, last) ∧ node.isIncomplete = false ∧ result = node.assemble results := by
  rw [Node.transformBelow] at ran
  obtain ⟨results, left, childrenRan, continued⟩ := (bind_ok _ _ _ _ _).mp ran
  split at continued
  · cases continued
  · rename_i complete
    cases continued
    exact ⟨results, childrenRan, Bool.not_eq_true _ ▸ complete, rfl⟩

/-- When nothing was replaced below a node, the visitor kept every node that is visited there,
provided that this holds of each child. -/
theorem quiet_below {one : Node → Edit Transformed} {reply : Node → Except Thrown Transformed}
    (each : ∀ node, Notes allowed (one node) (reply node)) {node child target : Node} {index : Nat}
    {role : Role} (part : node.parts[index]? = some (role, child))
    (entered : role.isVisited node.kind = true) {draft last : Draft} {result : Transformed}
    (ran : (Node.transformBelow one node).run draft = (.ok result, last))
    (still : result.replaced = 0)
    (inside : ∀ {draft last : Draft} {result : Transformed},
      (one child).run draft = (.ok result, last) → result.replaced = 0 →
      ∃ earlier left later, (visit target).run (draft.noting earlier) = (.ok none, left) ∧
        last = left.noting later) :
    ∃ earlier left later, (visit target).run (draft.noting earlier) = (.ok none, left) ∧
      last = left.noting later := by
  obtain ⟨results, childrenRan, _, rfl⟩ := transform_below_ok ran
  rw [Node.replaced_assemble] at still
  obtain ⟨before, found, after, behind, childRan, childStill, rfl⟩ :=
    quiet_children each childrenRan still part entered
  obtain ⟨earlier, left, later, visitRan, rfl⟩ := inside childRan childStill
  exact ⟨before ++ earlier, left, later ++ behind, by simpa using visitRan, by simp⟩

/-- When nothing was replaced in a node, the visitor kept the node itself and nothing was replaced
below it. -/
theorem quiet_visit {fuel : Nat} {node : Node} {draft last : Draft} {result : Transformed}
    (ran : (Node.transformNode visit fuel node).run draft = (.ok result, last))
    (still : result.replaced = 0) :
    ∃ less left, fuel = less + 1 ∧ (visit node).run draft = (.ok none, left) ∧
      (Node.transformBelow (Node.transformNode visit less) node).run left = (.ok result, last) := by
  cases fuel with
  | zero => cases ran
  | succ fuel =>
    rw [Node.transformNode] at ran
    obtain ⟨found, left, visitRan, continued⟩ := (bind_ok _ _ _ _ _).mp ran
    cases found with
    | none => exact ⟨fuel, left, rfl, visitRan, continued⟩
    | some replacement =>
      obtain ⟨below, _, _, counted⟩ := (bind_ok _ _ _ _ _).mp continued
      cases counted
      exact absurd still (Nat.succ_ne_zero _)

/-- When nothing was replaced in a node, the visitor kept every node that is visited in it. The
induction follows the way down to the place: the warnings about what comes before the place are
there when it is visited, those about what comes after it follow. -/
theorem quiet_node (visits : ∀ node, Notes allowed (visit node) (.ok (answer node))) {node target : Node}
    {place : List Nat} (visited : node.Visits place target) {fuel : Nat} {draft last : Draft}
    {result : Transformed} (ran : (Node.transformNode visit fuel node).run draft = (.ok result, last))
    (still : result.replaced = 0) :
    ∃ earlier left later, (visit target).run (draft.noting earlier) = (.ok none, left) ∧
      last = left.noting later := by
  induction visited generalizing fuel draft last result with
  | here node =>
    obtain ⟨less, left, _, visitRan, belowRan⟩ := quiet_visit ran still
    obtain ⟨later, noted⟩ :=
      (Notes.carried.transform_below (Notes.carried.transform_node visits less) node).left belowRan
    exact ⟨[], left, later, by simpa using visitRan, noted⟩
  | @step node _ _ _ _ _ part entered deeper inductionHypothesis =>
    obtain ⟨less, middle, _, visitRan, belowRan⟩ := quiet_visit ran still
    obtain ⟨added, rfl⟩ := (visits node).left visitRan
    obtain ⟨earlier, left, later, targetRan, lastIs⟩ := quiet_below (Notes.carried.transform_node visits less)
      part entered belowRan still inductionHypothesis
    exact ⟨added ++ earlier, left, later, by simpa using targetRan, lastIs⟩

/-- When nothing was replaced in a whole tree, nothing was replaced below its root. What replaces the
root would have been counted. -/
theorem quiet_root {root : Node} {draft last : Draft} {result : Transformed}
    (ran : (root.transform visit).run draft = (.ok result, last)) (still : result.replaced = 0) :
    ∃ found left, (visit root).run draft = (.ok found, left) ∧
      (Node.transformBelow (Node.transformNode visit root.transformBound) root).run left =
        (.ok result, last) := by
  rw [Node.transform, Node.transformWithin] at ran
  obtain ⟨found, left, visitRan, continued⟩ := (bind_ok _ _ _ _ _).mp ran
  refine ⟨found, left, visitRan, ?_⟩
  cases found with
  | none => exact continued
  | some replacement =>
    dsimp only at continued
    split at continued
    · obtain ⟨below, _, _, counted⟩ := (bind_ok _ _ _ _ _).mp continued
      cases counted
      exact absurd still (Nat.succ_ne_zero _)
    · exact continued

/-- When transforming the tree of a draft changed nothing, the visitor kept every node that is visited
below the root. -/
theorem quiet_transform (visits : ∀ node, Notes allowed (visit node) (.ok (answer node)))
    {draft last : Draft} (ran : (Edit.transform visit).run draft = (.ok false, last)) {target : Node}
    {place : List Nat} (visited : draft.root.Visits place target) (strictly : place ≠ []) :
    ∃ earlier left later, (visit target).run (draft.noting earlier) = (.ok none, left) ∧
      last = left.noting later := by
  rw [Edit.transform, run_reading] at ran
  obtain ⟨result, middle, rootRan, continued⟩ := (bind_ok _ _ _ _ _).mp ran
  by_cases still : result.replaced = 0
  · rw [if_pos still] at continued
    cases continued
    obtain ⟨found, left, visitRan, belowRan⟩ := quiet_root rootRan still
    obtain ⟨added, rfl⟩ := (visits draft.root).left visitRan
    cases visited with
    | here => exact absurd rfl strictly
    | step part entered deeper =>
      obtain ⟨earlier, left, later, targetRan, lastIs⟩ :=
        quiet_below (Notes.carried.transform_node visits _) part entered belowRan still
          fun childRan childStill => quiet_node visits deeper childRan childStill
      exact ⟨added ++ earlier, left, later, by simpa using targetRan, lastIs⟩
  · rw [if_neg still] at continued
    cases continued

end

end Edit

namespace Fix

/-- What a call of `dial` is replaced by, its warnings left aside. -/
def redialled (file : Node) (bindings : Imports.Bindings) (node : Node) : Option Node :=
  if isDial file bindings node then
    match node.items .arguments with
    | [network, localAddress, address] =>
      if localAddress.isEmptyText then some (withArguments node [network, address]) else none
    | _ => none
  else none

/-- The call of `dial` is replaced, or kept with a warning, or kept. It has three arguments, of which the
second decides. -/
theorem run_undialled (file : Node) (bindings : Imports.Bindings) (node : Node) (draft : Draft) :
    (undialled file bindings node).run draft =
      (.ok (redialled file bindings node),
        if isDial file bindings node ∧ redialled file bindings node = none then
          draft.warned draft.generation node dialMessage
        else draft) := by
  by_cases dials : isDial file bindings node = true
  · have three : (node.items .arguments).length = 3 := by
      simp only [isDial, Bool.and_eq_true, beq_iff_eq] at dials
      exact dials.1.2
    obtain ⟨network, localAddress, address, listed⟩ := List.length_eq_three.mp three
    simp only [undialled, redialled, dials, listed, Bool.not_true, Bool.false_eq_true, if_false,
      if_true, true_and]
    by_cases empty : localAddress.isEmptyText = true
    · simp only [empty, if_true, reduceCtorEq, if_false]
      rfl
    · simp only [empty]
      rfl
  · simp [undialled, redialled, dials]

/-- The visitor of the fix for calls answers by the node alone, and all its warnings are those about
calls that it leaves. -/
theorem undialled_notes (file : Node) (bindings : Imports.Bindings) (node : Node) :
    Edit.Notes (fun warning => warning.message = dialMessage) (undialled file bindings node)
      (.ok (redialled file bindings node)) := by
  intro draft
  rw [run_undialled]
  split
  · exact ⟨[_], by simp, rfl⟩
  · exact ⟨[], by simp, by simp⟩

/-- A fix that did not fire although its test let it run answered no. The name of the fix is taken back
after it. -/
theorem quiet_run {fix : Fix} {draft middle last : Draft}
    (tested : fix.precondition.run (draft.running fix.name) = (.ok true, middle))
    (quiet : (FixedPoint.runFix fix).run draft = (.ok false, last)) :
    ∃ left, fix.transform.run middle = (.ok false, left) ∧ last = left.running "" := by
  obtain ⟨reply, left, asked, lastIs, answered⟩ := FixedPoint.run_fix_ok quiet
  rw [FixedPoint.run_attempt, tested] at asked
  dsimp only at asked
  rcases transformed : fix.transform.run middle with ⟨thrown | changed, final⟩ <;>
    rw [transformed] at asked <;> cases asked
  rcases answered with ⟨impossible, _⟩ | ⟨same, _⟩
  · cases impossible
  · cases same
    exact ⟨left, rfl, lastIs⟩

/-- What the fix for calls runs is one transformation, with the names bound in the tree at hand and
shadowing looked up in the tree that was read. -/
theorem run_net_dial (draft : Draft) :
    netDial.transform.run draft =
      (Edit.transform (undialled draft.parsed.root
        (Imports.collect draft.root netModule))).run draft := by
  rw [netDial, Edit.run_reading]

/-- What the fix for constructions runs is nothing where no name of the module is bound, and else one
transformation, whose visitor adds no warnings. -/
theorem run_net_addr_keyed (draft : Draft) :
    netAddrKeyed.transform.run draft =
      if (Imports.collect draft.root netModule).isEmpty then (.ok false, draft)
      else (Edit.transform fun node => pure (keyed draft.parsed.root
        (Imports.collect draft.root netModule) node)).run draft := by
  rw [netAddrKeyed, Edit.run_reading]
  dsimp only
  split <;> rfl

/-- The fixes that come with the program are tested by what the file loads. -/
theorem run_precondition {fix : Fix} (known : fix ∈ builtin) (draft : Draft) :
    fix.precondition.run draft = (.ok (Imports.importsModule draft.root netModule), draft) := by
  simp only [builtin, List.mem_cons, List.not_mem_nil, or_false] at known
  rcases known with rfl | rfl <;> rfl

/-- A visitor that only adds warnings leaves no more than warnings when nothing was replaced. The tree is
put in place only when something was replaced. -/
theorem quiet_transform_left {visit : Visitor Edit} {answer : Node → Option Node}
    {allowed : Warning → Prop} (visits : ∀ node, Edit.Notes allowed (visit node) (.ok (answer node)))
    {draft last : Draft}
    (quiet : (Edit.transform visit).run draft = (.ok false, last)) :
    ∃ added, (∀ warning ∈ added, allowed warning) ∧ last = draft.noting added := by
  obtain ⟨added, each, ran⟩ := Edit.run_transform visits draft
  refine ⟨added, each, ?_⟩
  rw [quiet] at ran
  split at ran
  · cases ran
  · split at ran <;> cases ran
    rfl

/-- A fix that comes with the program and does not fire only adds warnings. Its test does nothing to the
draft; if the transformation is run, its visitor only adds warnings, and nothing is replaced. -/
theorem quiet_left {fix : Fix} (known : fix ∈ builtin) {draft last : Draft}
    (quiet : (FixedPoint.runFix fix).run draft = (.ok false, last)) :
    ∃ added, last = (draft.noting added).running "" := by
  have tested := run_precondition known (draft.running fix.name)
  by_cases loads : Imports.importsModule (draft.running fix.name).root netModule = true
  · rw [loads] at tested
    obtain ⟨left, ran, rfl⟩ := quiet_run tested quiet
    suffices noted : ∃ added, left = (draft.running fix.name).noting added by
      obtain ⟨added, rfl⟩ := noted
      exact ⟨added, rfl⟩
    simp only [builtin, List.mem_cons, List.not_mem_nil, or_false] at known
    rcases known with rfl | rfl
    · rw [run_net_addr_keyed] at ran
      split at ran
      · cases ran
        exact ⟨[], by simp⟩
      · obtain ⟨added, _, noted⟩ := quiet_transform_left (fun node => Edit.Notes.silent _) ran
        exact ⟨added, noted⟩
    · rw [run_net_dial] at ran
      obtain ⟨added, _, noted⟩ := quiet_transform_left (undialled_notes _ _) ran
      exact ⟨added, noted⟩
  · rw [Bool.not_eq_true] at loads
    obtain ⟨reply, left, asked, rfl, _⟩ := FixedPoint.run_fix_ok quiet
    rw [FixedPoint.run_attempt, tested, loads] at asked
    cases asked
    exact ⟨[], by simp [Draft.running, Draft.noting]⟩

/-- A pass in which no fix that comes with the program fires keeps the warnings there are. The induction
is on the fixes, each of which only adds to them. -/
theorem quiet_pass_warnings {fixes : List Fix} (known : ∀ fix ∈ fixes, fix ∈ builtin)
    {draft last : Draft} (quiet : (FixedPoint.runPass fixes).run draft = (.ok [], last)) :
    draft.warnings ⊆ last.warnings := by
  induction fixes generalizing draft with
  | nil =>
    cases quiet
    exact List.Subset.refl _
  | cons first rest inductionHypothesis =>
    obtain ⟨left, firstQuiet, restQuiet⟩ :=
      (FixedPoint.quiet_pass_cons first rest draft last).mp quiet
    obtain ⟨added, rfl⟩ := quiet_left (known first List.mem_cons_self) firstQuiet
    have kept := inductionHypothesis (fun fix later => known fix (List.mem_cons_of_mem first later))
      restQuiet
    exact List.Subset.trans (List.subset_append_left _ _) kept

/-- In a pass in which no fix that comes with the program fires, each of them is asked about the same
tree, and all its warnings are left in the end. The induction is on the fixes before it. -/
theorem quiet_pass_member {fixes : List Fix} (known : ∀ fix ∈ fixes, fix ∈ builtin) {fix : Fix}
    (member : fix ∈ fixes) {draft last : Draft}
    (quiet : (FixedPoint.runPass fixes).run draft = (.ok [], last)) :
    ∃ start left, start.view = draft.view ∧
      (FixedPoint.runFix fix).run start = (.ok false, left) ∧ left.warnings ⊆ last.warnings := by
  induction fixes generalizing draft with
  | nil => exact absurd member List.not_mem_nil
  | cons first rest inductionHypothesis =>
    obtain ⟨left, firstQuiet, restQuiet⟩ :=
      (FixedPoint.quiet_pass_cons first rest draft last).mp quiet
    have restKnown : ∀ fix ∈ rest, fix ∈ builtin :=
      fun fix later => known fix (List.mem_cons_of_mem first later)
    rcases List.mem_cons.mp member with rfl | later
    · exact ⟨draft, left, rfl, firstQuiet, quiet_pass_warnings restKnown restQuiet⟩
    · obtain ⟨added, rfl⟩ := quiet_left (known first List.mem_cons_self) firstQuiet
      obtain ⟨start, other, same, ran, kept⟩ := inductionHypothesis restKnown later restQuiet
      exact ⟨start, other, same, ran, kept⟩

end Fix

end Codemod
