import Codemod.FixedPoint

/-!
# What a computation on a draft depends on

A computation answers or fails, and leaves a draft either way. It is proper when
it keeps what a draft keeps for good and replaces the tree only by counting a
revision. It looks at no more than a part of the draft when drafts that agree in
this part give the same answer and leave drafts that agree in it again. Warnings
and the name of the running fix are written but decide nothing.

Both properties pass to computations that are put together from others, so that
a fix made of the operations of a draft has them without further argument.
-/
namespace Codemod

open Syntax

/-- What a fix works on: the path, the text and the tree last read, the current tree and its
printed form. -/
structure Draft.View where
  path : String
  text : String
  parsed : Grammar.Parsed
  root : Node
  printed : Option String
  fault : Option Thrown

/-- The part of a draft that a fix works on. -/
def Draft.view (draft : Draft) : Draft.View :=
  { path := draft.path, text := draft.text, parsed := draft.parsed, root := draft.root
    printed := draft.printed, fault := draft.fault }

/-- The part of a draft that a fix works on, and the text that the file had at first. -/
def Draft.fullView (draft : Draft) : Draft.View × String :=
  (draft.view, draft.openedText)

/-- The draft while the fix of a name runs. -/
def Draft.running (draft : Draft) (name : String) : Draft :=
  { draft with activeFix := name }

/-- The draft without its warnings. -/
def Draft.cleared (draft : Draft) : Draft :=
  { draft with warnings := [] }

/-- Naming the fix that runs counts no revision. -/
@[simp] theorem Draft.running_revision (draft : Draft) (name : String) :
    (draft.running name).revision = draft.revision :=
  rfl

/-- It adds no warning either. -/
@[simp] theorem Draft.running_warnings (draft : Draft) (name : String) :
    (draft.running name).warnings = draft.warnings :=
  rfl

/-- No warnings are left after they were cleared. -/
@[simp] theorem Draft.cleared_warnings (draft : Draft) : draft.cleared.warnings = [] :=
  rfl

/-- A printed tree is the same for drafts that agree in what a fix works on. -/
theorem Draft.render_of_view {first second : Draft} (same : first.view = second.view) :
    first.render = second.render := by
  simp only [Draft.view, Draft.View.mk.injEq] at same
  obtain ⟨_, _, parsed, root, printed, _⟩ := same
  simp only [Draft.render, parsed, root, printed]

/-- A way of looking at drafts that sees all that a fix works on and nothing but that and the
opened text. -/
structure Draft.Sees {σ : Type} (look : Draft → σ) : Prop where
  view : ∀ {first second : Draft}, look first = look second → first.view = second.view
  whole : ∀ {first second : Draft}, first.view = second.view →
    first.openedText = second.openedText → look first = look second

/-- Which fix runs cannot be seen by a look at what fixes work on. -/
theorem Draft.Sees.running {σ : Type} {look : Draft → σ} (sees : Draft.Sees look) (draft : Draft)
    (name : String) : look (draft.running name) = look draft :=
  sees.whole rfl rfl

/-- Nor can the warnings. -/
theorem Draft.Sees.cleared {σ : Type} {look : Draft → σ} (sees : Draft.Sees look) (draft : Draft) :
    look draft.cleared = look draft :=
  sees.whole rfl rfl

/-- The view of a draft is such a look: it is all that a fix works on. -/
theorem Draft.view_sees : Draft.Sees Draft.view where
  view same := same
  whole same _ := same

/-- So is the view together with the opened text. -/
theorem Draft.full_view_sees : Draft.Sees Draft.fullView where
  view same := congrArg Prod.fst same
  whole same opened := Prod.ext same opened

namespace Syntax

variable {m n : Type → Type} [Monad m] [MonadExceptOf Thrown m] [Monad n] [MonadExceptOf Thrown n]

/-- A relation between computations of two sorts that passes to what is put together from them. -/
structure Carried (related : ∀ ⦃α : Type⦄, m α → n α → Prop) : Prop where
  pure : ∀ {α : Type} (value : α), related (pure value : m α) (pure value)
  throw : ∀ {α : Type} (thrown : Thrown), related (throw thrown : m α) (throw thrown)
  bind : ∀ {α β : Type} {first : m α} {second : n α} {next : α → m β} {further : α → n β},
    related first second → (∀ value, related (next value) (further value)) →
    related (first >>= next) (second >>= further)

variable {related : ∀ ⦃α : Type⦄, m α → n α → Prop}

/-- The results for the children of a node are related when those for each child are. The induction is on
the children with their roles; one that is not visited stays as it is on both sides. -/
theorem Carried.transform_children (carried : Carried related) (kind : Kind)
    {one : Node → m Transformed} {other : Node → n Transformed}
    (each : ∀ node, related (one node) (other node)) (roles : List Role) (children : List Node) :
    related (Node.transformChildren kind one roles children)
      (Node.transformChildren kind other roles children) := by
  induction roles generalizing children with
  | nil => exact carried.pure []
  | cons role roles inductionHypothesis =>
    cases children with
    | nil => exact carried.pure []
    | cons child rest =>
      rw [Node.transformChildren, Node.transformChildren]
      split
      · apply carried.bind (each child)
        intro result
        exact carried.bind (inductionHypothesis rest) fun results => carried.pure _
      · apply carried.bind (carried.pure _)
        intro result
        exact carried.bind (inductionHypothesis rest) fun results => carried.pure _

/-- The results below a node are related when those for its children are. A node that lacks a part fails
on both sides. -/
theorem Carried.transform_below (carried : Carried related) {one : Node → m Transformed}
    {other : Node → n Transformed} (each : ∀ node, related (one node) (other node)) (node : Node) :
    related (Node.transformBelow one node) (Node.transformBelow other node) := by
  rw [Node.transformBelow, Node.transformBelow]
  apply carried.bind (carried.transform_children node.kind each _ _)
  intro results
  split
  · exact carried.bind (carried.throw _) fun _ => carried.pure _
  · exact carried.pure _

/-- Walks over a tree are related when their visitors are, however deep the tree is. The induction is on
the depth: the answers of the visitors are related, and so are the walks below what they answer. -/
theorem Carried.transform_node (carried : Carried related) {visit : Visitor m} {answer : Visitor n}
    (visits : ∀ node, related (visit node) (answer node)) (fuel : Nat) (node : Node) :
    related (Node.transformNode visit fuel node) (Node.transformNode answer fuel node) := by
  induction fuel generalizing node with
  | zero => exact carried.throw _
  | succ fuel inductionHypothesis =>
    rw [Node.transformNode, Node.transformNode]
    apply carried.bind (visits node)
    intro found
    cases found with
    | none => exact carried.transform_below inductionHypothesis node
    | some replacement =>
      apply carried.bind (carried.transform_below inductionHypothesis replacement)
      intro result
      exact carried.pure _

/-- Transformations of a whole tree are related when their visitors are. Only the root is treated apart,
since what replaces it has to be a file again. -/
theorem Carried.transform (carried : Carried related) {visit : Visitor m} {answer : Visitor n}
    (visits : ∀ node, related (visit node) (answer node)) (root : Node) :
    related (root.transform visit) (root.transform answer) := by
  have below (node : Node) :=
    carried.transform_below (carried.transform_node visits root.transformBound) node
  rw [Node.transform, Node.transform, Node.transformWithin, Node.transformWithin]
  apply carried.bind (visits root)
  intro found
  cases found with
  | none => exact below root
  | some replacement =>
    dsimp only
    split
    · exact carried.bind (below replacement) fun result => carried.pure _
    · exact below root

/-- A transformation has a property that its visitor has, if the property passes to what is put
together from computations that have it. -/
theorem transform_keeps {good : ∀ ⦃α : Type⦄, m α → Prop}
    (pure : ∀ {α : Type} (value : α), good (pure value : m α))
    (throw : ∀ {α : Type} (thrown : Thrown), good (throw thrown : m α))
    (bind : ∀ {α β : Type} {first : m α} {next : α → m β}, good first →
      (∀ value, good (next value)) → good (first >>= next))
    {visit : Visitor m} (visits : ∀ node, good (visit node)) (root : Node) :
    good (root.transform visit) := by
  have carried : Carried fun α (one other : m α) => one = other ∧ good one := by
    refine ⟨fun value => ⟨rfl, pure value⟩, fun thrown => ⟨rfl, throw thrown⟩, ?_⟩
    rintro α β first second next further ⟨rfl, firstGood⟩ nextGood
    have same : next = further := funext fun value => (nextGood value).1
    exact ⟨by rw [same], bind firstGood fun value => (nextGood value).2⟩
  exact (carried.transform (fun node => ⟨rfl, visits node⟩) root).2

end Syntax

namespace Edit

variable {σ α β : Type} {look : Draft → σ}

/-- What a computation answers on a draft, or what it fails with. -/
def answer (edit : Edit α) (draft : Draft) : Except Thrown α :=
  (edit.run draft).1

/-- The draft that a computation leaves, also when it fails. -/
def after (edit : Edit α) (draft : Draft) : Draft :=
  (edit.run draft).2

/-- The run of a computation is its answer and what it leaves. -/
theorem run_eq (edit : Edit α) (draft : Draft) :
    edit.run draft = (edit.answer draft, edit.after draft) :=
  rfl

/-- Giving a value leaves a draft as it is. -/
@[simp] theorem run_pure (value : α) (draft : Draft) :
    (pure value : Edit α).run draft = (.ok value, draft) :=
  rfl

/-- So does failing. -/
@[simp] theorem run_throw (thrown : Thrown) (draft : Draft) :
    (throw thrown : Edit α).run draft = (.error thrown, draft) :=
  rfl

/-- So does looking at the draft. -/
@[simp] theorem run_get (draft : Draft) : (get : Edit Draft).run draft = (.ok draft, draft) :=
  rfl

/-- Naming the running fix names it in the draft. -/
@[simp] theorem run_set_active (name : String) (draft : Draft) :
    (Edit.setActiveFix name).run draft = (.ok (), draft.running name) :=
  rfl

/-- Clearing the warnings clears those of the draft. -/
@[simp] theorem run_clear_warnings (draft : Draft) :
    Edit.clearWarnings.run draft = (.ok (), draft.cleared) :=
  rfl

/-- One computation after another: the second runs on what the first left, if that did not fail. -/
theorem run_bind (first : ExceptT Thrown (StateM σ) α) (next : α → ExceptT Thrown (StateM σ) β)
    (start : σ) :
    (first >>= next).run start =
      match first.run start with
      | (.ok value, left) => (next value).run left
      | (.error thrown, left) => (.error thrown, left) := by
  change (match first.run start with
    | (result, left) => (ExceptT.bindCont next result).run left) = _
  rcases first.run start with ⟨_ | value, left⟩ <;> rfl

/-- A computation with a handler: a failure goes to the handler, with what was done by then. -/
theorem run_catch (edit : Edit α) (handler : Thrown → Edit α) (draft : Draft) :
    (tryCatch edit handler).run draft =
      match edit.run draft with
      | (.ok value, left) => (.ok value, left)
      | (.error thrown, left) => (handler thrown).run left := by
  simp only [tryCatch, tryCatchThe, MonadExceptOf.tryCatch, ExceptT.tryCatch, ExceptT.run,
    ExceptT.mk, bind, StateT.bind]
  rcases edit draft with ⟨_ | value, left⟩ <;> rfl

/-- Two computations in a row succeed exactly when the first does and the second does on what the
first left. -/
theorem bind_ok (edit : ExceptT Thrown (StateM σ) α) (next : α → ExceptT Thrown (StateM σ) β)
    (start last : σ) (value : β) :
    (edit >>= next).run start = (.ok value, last) ↔
      ∃ first left, edit.run start = (.ok first, left) ∧
        (next first).run left = (.ok value, last) := by
  rw [run_bind]
  constructor
  · intro completed
    rcases ran : edit.run start with ⟨thrown | first, left⟩
    · cases completed.symm.trans (by rw [ran])
    · exact ⟨first, left, rfl, by simpa only [ran] using completed⟩
  · rintro ⟨first, left, ran, completed⟩
    simpa only [ran] using completed

/-- A computation that keeps the path and the opened text, and that leaves all that a fix works on
as it is unless it counts a revision. -/
structure Proper (edit : Edit α) : Prop where
  path : ∀ draft, (edit.after draft).path = draft.path
  opened : ∀ draft, (edit.after draft).openedText = draft.openedText
  grows : ∀ draft, draft.revision ≤ (edit.after draft).revision
  kept : ∀ draft, (edit.after draft).revision = draft.revision →
    (edit.after draft).view = draft.view

/-- A proper computation that depends on a draft only through `look`. Its answer, what it leaves and
whether it replaced the tree are the same on drafts that look the same; its warnings are the same
where the warnings so far and the running fix are. -/
structure LooksAt (look : Draft → σ) (edit : Edit α) : Prop extends Proper edit where
  answers : ∀ {first second : Draft}, look first = look second →
    edit.answer first = edit.answer second
  leaves : ∀ {first second : Draft}, look first = look second →
    look (edit.after first) = look (edit.after second)
  replaces : ∀ {first second : Draft}, look first = look second →
    ((edit.after first).revision = first.revision ↔ (edit.after second).revision = second.revision)
  remarks : ∀ {first second : Draft}, look first = look second →
    first.activeFix = second.activeFix → first.warnings = second.warnings →
    (edit.after first).activeFix = (edit.after second).activeFix ∧
      (edit.after first).warnings = (edit.after second).warnings

/-- What a computation looks at is as it was when no revision was counted. -/
theorem LooksAt.unmoved {edit : Edit α} (looks : LooksAt look edit) (sees : Draft.Sees look)
    {draft last : Draft} {reply : Except Thrown α} (ran : edit.run draft = (reply, last))
    (still : last.revision = draft.revision) : look last = look draft := by
  have lastIs : edit.after draft = last := by simp only [after, ran]
  subst lastIs
  exact sees.whole (looks.kept draft still) (looks.opened draft)

/-- A computation that leaves every draft as it is and answers by `value`. -/
theorem LooksAt.still (edit : Edit α) (value : Except Thrown α)
    (runs : ∀ draft, edit.run draft = (value, draft)) : LooksAt look edit where
  path draft := by simp only [after, runs]
  opened draft := by simp only [after, runs]
  grows draft := by simp only [after, runs, Nat.le_refl]
  kept draft _ := by simp only [after, runs]
  answers _ := by simp only [answer, runs]
  leaves same := by simpa only [after, runs] using same
  replaces _ := by simp only [after, runs]
  remarks _ active warnings := by simpa only [after, runs] using ⟨active, warnings⟩

/-- A value looks at nothing. -/
theorem LooksAt.pure (value : α) : LooksAt look (pure value : Edit α) :=
  LooksAt.still _ (.ok value) fun _ => rfl

/-- A failure looks at nothing. -/
theorem LooksAt.throw (thrown : Thrown) : LooksAt look (throw thrown : Edit α) :=
  LooksAt.still _ (.error thrown) fun _ => rfl

/-- What a sequence comes to after its first part failed. -/
theorem run_bind_error {edit : Edit α} {next : α → Edit β} {draft : Draft} {thrown : Thrown}
    (failed : edit.answer draft = .error thrown) :
    (edit >>= next).run draft = (.error thrown, edit.after draft) := by
  rw [run_bind, run_eq, failed]

/-- What a sequence comes to after its first part answered. -/
theorem run_bind_value {edit : Edit α} {next : α → Edit β} {draft : Draft} {value : α}
    (answered : edit.answer draft = .ok value) :
    (edit >>= next).run draft = (next value).run (edit.after draft) := by
  rw [run_bind, run_eq, answered]

/-- A sequence of proper computations is proper. That it kept the revision means that both parts
did, since neither can lower it. -/
theorem Proper.bind {edit : Edit α} {next : α → Edit β} (first : Proper edit)
    (second : ∀ value, Proper (next value)) : Proper (edit >>= next) where
  path draft := by
    cases answered : edit.answer draft with
    | error thrown => simpa only [after, run_bind_error answered] using first.path draft
    | ok value =>
      simp only [after, run_bind_value answered]
      exact ((second value).path _).trans (first.path draft)
  opened draft := by
    cases answered : edit.answer draft with
    | error thrown => simpa only [after, run_bind_error answered] using first.opened draft
    | ok value =>
      simp only [after, run_bind_value answered]
      exact ((second value).opened _).trans (first.opened draft)
  grows draft := by
    cases answered : edit.answer draft with
    | error thrown => simpa only [after, run_bind_error answered] using first.grows draft
    | ok value =>
      simp only [after, run_bind_value answered]
      exact Nat.le_trans (first.grows draft) ((second value).grows _)
  kept draft unchanged := by
    cases answered : edit.answer draft with
    | error thrown =>
      simp only [after, run_bind_error answered] at unchanged ⊢
      exact first.kept draft unchanged
    | ok value =>
      simp only [after, run_bind_value answered] at unchanged ⊢
      have lower := first.grows draft
      have upper := (second value).grows (edit.after draft)
      simp only [after] at lower upper
      exact ((second value).kept _ (by simp only [after]; omega)).trans
        (first.kept draft (by simp only [after]; omega))

/-- A sequence looks at no more than its parts do. What the first part answers and leaves shows in what
it looks at, and the second part looks at no more than that; a revision that was counted stays counted. -/
theorem LooksAt.bind {edit : Edit α} {next : α → Edit β} (first : LooksAt look edit)
    (second : ∀ value, LooksAt look (next value)) : LooksAt look (edit >>= next) where
  toProper := first.toProper.bind fun value => (second value).toProper
  answers {one other} same := by
    have answers := first.answers same
    cases answered : edit.answer one with
    | error thrown =>
      simp only [answer, run_bind_error answered, run_bind_error (answers ▸ answered)]
    | ok value =>
      simp only [answer, run_bind_value answered, run_bind_value (answers ▸ answered)]
      exact (second value).answers (first.leaves same)
  leaves {one other} same := by
    have answers := first.answers same
    cases answered : edit.answer one with
    | error thrown =>
      simp only [after, run_bind_error answered, run_bind_error (answers ▸ answered)]
      exact first.leaves same
    | ok value =>
      simp only [after, run_bind_value answered, run_bind_value (answers ▸ answered)]
      exact (second value).leaves (first.leaves same)
  replaces {one other} same := by
    have answers := first.answers same
    cases answered : edit.answer one with
    | error thrown =>
      simp only [after, run_bind_error answered, run_bind_error (answers ▸ answered)]
      exact first.replaces same
    | ok value =>
      simp only [after, run_bind_value answered, run_bind_value (answers ▸ answered)]
      have earlier := first.replaces same
      have later := (second value).replaces (first.leaves same)
      have oneLower := first.grows one
      have oneUpper := (second value).grows (edit.after one)
      have otherLower := first.grows other
      have otherUpper := (second value).grows (edit.after other)
      simp only [after] at earlier later oneLower oneUpper otherLower otherUpper
      omega
  remarks {one other} same active warnings := by
    have answers := first.answers same
    have earlier := first.remarks same active warnings
    cases answered : edit.answer one with
    | error thrown =>
      simp only [after, run_bind_error answered, run_bind_error (answers ▸ answered)]
      exact earlier
    | ok value =>
      simp only [after, run_bind_value answered, run_bind_value (answers ▸ answered)]
      exact (second value).remarks (first.leaves same) earlier.1 earlier.2

/-- Naming the fix that runs overwrites the name before. -/
theorem LooksAt.set_active (sees : Draft.Sees look) (name : String) :
    LooksAt look (Edit.setActiveFix name) where
  path _ := rfl
  opened _ := rfl
  grows _ := Nat.le_refl _
  kept _ _ := rfl
  answers _ := rfl
  leaves {one other} same :=
    (sees.running one name).trans (same.trans (sees.running other name).symm)
  replaces _ := iff_of_true rfl rfl
  remarks _ _ warnings := ⟨rfl, warnings⟩

/-- Reading the draft first is the same as being given it. -/
theorem run_reading (next : Draft → Edit β) (draft : Draft) :
    (get >>= next).run draft = (next draft).run draft :=
  rfl

/-- Reading the draft is allowed where what is done with it follows from what is looked at. Two drafts
that look the same go on with the same computation, which looks at nothing more. -/
theorem LooksAt.reading {next : Draft → Edit β} (second : ∀ draft, LooksAt look (next draft))
    (follows : ∀ {first second : Draft}, look first = look second → next first = next second) :
    LooksAt look (get >>= next) where
  path draft := (second draft).path draft
  opened draft := (second draft).opened draft
  grows draft := (second draft).grows draft
  kept draft := (second draft).kept draft
  answers {one other} same := by
    simp only [answer, run_reading, ← follows same]
    exact (second one).answers same
  leaves {one other} same := by
    simp only [after, run_reading, ← follows same]
    exact (second one).leaves same
  replaces {one other} same := by
    simp only [after, run_reading, ← follows same]
    exact (second one).replaces same
  remarks {one other} same active warnings := by
    simp only [after, run_reading, ← follows same]
    exact (second one).remarks same active warnings

/-- What looks only at what a fix works on looks at no more than that and the opened text, which it
keeps. -/
theorem LooksAt.full {edit : Edit α} (narrow : LooksAt Draft.view edit) :
    LooksAt Draft.fullView edit where
  toProper := narrow.toProper
  answers same := narrow.answers (congrArg Prod.fst same)
  leaves {one other} same := by
    have opened : one.openedText = other.openedText := congrArg Prod.snd same
    refine Prod.ext (narrow.leaves (congrArg Prod.fst same)) ?_
    exact (narrow.opened one).trans (opened.trans (narrow.opened other).symm)
  replaces same := narrow.replaces (congrArg Prod.fst same)
  remarks same := narrow.remarks (congrArg Prod.fst same)

/-- A warning is about a place of the current text; it changes nothing that a fix works on. The line and
the column come from the text and the spans that the draft was read from, which is a part of what is
looked at. -/
theorem LooksAt.warn (node : Node) (message : String) :
    LooksAt Draft.view (Edit.warn node message) where
  path _ := rfl
  opened _ := rfl
  grows _ := Nat.le_refl _
  kept _ _ := rfl
  answers _ := rfl
  leaves same := same
  replaces _ := iff_of_true rfl rfl
  remarks {one other} same active warnings := by
    simp only [Draft.view, Draft.View.mk.injEq] at same
    obtain ⟨_, _, parsed, _, printed, _⟩ := same
    have place : one.positionOf one.generation node = other.positionOf other.generation node := by
      simp only [Draft.positionOf, parsed, printed, bne_self_eq_false]
    refine ⟨active, ?_⟩
    change (one.warned one.generation node message).warnings =
      (other.warned other.generation node message).warnings
    simp only [Draft.warned, place, active, warnings]

/-- Putting another tree in the place of the current one counts a revision. The new root is the same in
both drafts, and both count a revision more. -/
theorem LooksAt.replace_root (root : Node) :
    LooksAt Draft.view (modify (·.replaceRoot root) : Edit Unit) where
  path _ := rfl
  opened _ := rfl
  grows draft := Nat.le_succ draft.revision
  kept draft unchanged := absurd unchanged (Nat.succ_ne_self draft.revision)
  answers _ := rfl
  leaves {one other} same := by
    simp only [Draft.view, Draft.View.mk.injEq] at same
    obtain ⟨path, text, parsed, _, _, fault⟩ := same
    change (one.replaceRoot root).view = (other.replaceRoot root).view
    simp only [Draft.view, Draft.replaceRoot, path, text, parsed, fault]
  replaces {one other} _ :=
    iff_of_false (Nat.succ_ne_self one.revision) (Nat.succ_ne_self other.revision)
  remarks _ active warnings := ⟨active, warnings⟩

/-- Transforming the tree of a draft looks at what a fix works on when the visitor does. -/
theorem LooksAt.transform {visit : Visitor Edit} (visits : ∀ node, LooksAt Draft.view (visit node)) :
    LooksAt Draft.view (Edit.transform visit) := by
  rw [Edit.transform]
  refine LooksAt.reading (fun draft => ?_) fun {one other} same => ?_
  · refine (transform_keeps LooksAt.pure LooksAt.throw LooksAt.bind visits draft.root).bind fun result => ?_
    split
    · exact LooksAt.pure _
    · exact (LooksAt.replace_root _).bind fun _ => LooksAt.pure _
  · have root : one.root = other.root := congrArg Draft.View.root same
    simp only [root]

end Edit

end Codemod
