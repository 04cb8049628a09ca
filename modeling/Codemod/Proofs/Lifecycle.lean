import Codemod.Proofs.Settling

/-!
# The life of a draft

A draft is opened from a text that can be read. Then it is transformed, read back, printed, and warnings
are raised against it, in any order and any number of times. A visitor may throw when half of the tree is
behind it, and a printed tree need not be one that can be read; what follows goes on from what such a
failure left.

Whatever was done, the printed form is that of the current tree, the text is the one that was read last,
and the path and the text at the start are still those of the start.

This is about visitors that answer for the node that they are given. Such a visitor may read the draft, raise
or drop warnings, name the fix that runs and throw. One that itself transforms the draft while it is being
transformed breaks the rule: the outer transformation counts its own replacements only.
-/
namespace Codemod

open Syntax

namespace Edit

variable {α β : Type}

/-- A computation that does nothing to a draft but raise or drop warnings and name the fix that runs. -/
def Aside (edit : Edit α) : Prop :=
  ∀ draft, ∃ warnings name, edit.after draft = { draft with warnings := warnings, activeFix := name }

/-- An answer does nothing to a draft. -/
theorem Aside.pure (value : α) : Aside (pure value : Edit α) := by
  intro draft
  exact ⟨draft.warnings, draft.activeFix, rfl⟩

/-- An exception does nothing to a draft. -/
theorem Aside.throw (thrown : Thrown) : Aside (throw thrown : Edit α) := by
  intro draft
  exact ⟨draft.warnings, draft.activeFix, rfl⟩

/-- Steps that leave the draft alone, its warnings and the name apart, do so together. What the second
changes is put on top of what the first changed, and a failure of the first ends it. -/
theorem Aside.bind {edit : Edit α} {next : α → Edit β} (first : Aside edit)
    (second : ∀ value, Aside (next value)) : Aside (edit >>= next) := by
  intro draft
  obtain ⟨warnings, name, left⟩ := first draft
  cases answered : edit.answer draft with
  | error thrown =>
    refine ⟨warnings, name, ?_⟩
    simpa only [after, run_bind_error answered] using left
  | ok value =>
    obtain ⟨later, renamed, last⟩ := second value (edit.after draft)
    refine ⟨later, renamed, ?_⟩
    simp only [after, run_bind_value answered] at last left ⊢
    rw [last, left]

end Edit

/-- A visitor that leaves the draft alone while a transformation is under way, its warnings and the name of
the running fix apart. -/
structure Onlooker where
  visit : Visitor Edit
  aside : ∀ node, (visit node).Aside

/-- The visitor that answers by the node alone, or throws. -/
def Onlooker.ofAnswers (answer : Node → Except Thrown (Option Node)) : Onlooker where
  visit node := ExceptT.mk (pure (answer node))
  aside _ draft := ⟨draft.warnings, draft.activeFix, rfl⟩

/-- Transforming a draft by such a visitor: the tree takes the place of the other when something was
replaced, and else nothing is done to it, also when the visitor throws. -/
theorem Onlooker.run_transform (visitor : Onlooker) (draft : Draft) :
    ∃ warnings name, (Edit.transform visitor.visit).run draft =
      match (draft.root.transform visitor.visit).answer draft with
      | .error thrown => (.error thrown, { draft with warnings := warnings, activeFix := name })
      | .ok result =>
        if result.replaced = 0 then
          (.ok false, { draft with warnings := warnings, activeFix := name })
        else
          (.ok true,
            { draft with warnings := warnings, activeFix := name }.replaceRoot result.node) := by
  obtain ⟨warnings, name, left⟩ :=
    transform_keeps Edit.Aside.pure Edit.Aside.throw Edit.Aside.bind visitor.aside draft.root draft
  refine ⟨warnings, name, ?_⟩
  rw [Edit.transform, Edit.run_reading, Edit.run_bind, Edit.run_eq, left]
  cases (draft.root.transform visitor.visit).answer draft with
  | error thrown => rfl
  | ok result =>
    dsimp only
    split
    · rfl
    · rfl

namespace Draft

/-- What can be done with a draft. A warning is about a node of any tree that was read. -/
inductive Action where
  | transform (visitor : Onlooker)
  | refresh
  | render
  | warn (generation : Nat) (node : Node) (message : String)
  | clearWarnings
  | setActiveFix (name : String)

/-- What an operation answers. -/
inductive Reply where
  | replaced (changed : Bool)
  | text (printed : String)
  | done

/-- The operation as a computation. -/
def Action.edit : Action → Edit Reply
  | .transform visitor => do return .replaced (← Edit.transform visitor.visit)
  | .refresh => do
    Edit.refresh
    return .done
  | .render => do return .text (← get).render
  | .warn generation node message => do
    modify (·.warned generation node message)
    return .done
  | .clearWarnings => do
    Edit.clearWarnings
    return .done
  | .setActiveFix name => do
    Edit.setActiveFix name
    return .done

/-- The draft that operations in a row leave. None is kept from running by a failure before it. -/
def performed (draft : Draft) : List Action → Draft
  | [] => draft
  | action :: rest => performed (action.edit.after draft) rest

/-- The text that an operation had read without failure. -/
def Action.reads (action : Action) (draft : Draft) : Option String :=
  match action, action.edit.answer draft with
  | .refresh, .ok _ => some draft.render
  | _, _ => none

/-- The texts that operations in a row had read without failure. -/
def readTexts (draft : Draft) : List Action → List String
  | [] => []
  | action :: rest => (action.reads draft).toList ++ readTexts (action.edit.after draft) rest

/-- A draft of a path and a text at the start that agrees with itself: the text is the one that was read
last, and what it is printed as is the current tree, laid out as in that text. -/
structure Coherent (path opened last : String) (draft : Draft) : Prop where
  path : draft.path = path
  opened : draft.openedText = opened
  text : draft.text = last
  reads : parseFile draft.path draft.text = .ok draft.parsed
  render : draft.render = Layout.render draft.parsed.source draft.root
  faultless : draft.fault = none

/-- A draft with the tree, the text and the printed form of another. -/
structure Still (next draft : Draft) : Prop where
  root : next.root = draft.root
  revision : next.revision = draft.revision
  text : next.text = draft.text
  render : next.render = draft.render

/-- What an operation answers on a draft, and what it leaves. -/
inductive Action.Leads : Action → Draft → Except Thrown Reply → Draft → Prop where
  /-- The transformed tree takes the place of the other. -/
  | replaced {visitor : Onlooker} {draft next : Draft} {result : Transformed}
      (transformed : (draft.root.transform visitor.visit).answer draft = .ok result)
      (some : result.replaced ≠ 0) (root : next.root = result.node)
      (revision : next.revision = draft.revision + 1) (text : next.text = draft.text) :
    Leads (.transform visitor) draft (.ok (.replaced true)) next
  | kept {visitor : Onlooker} {draft next : Draft} {result : Transformed}
      (transformed : (draft.root.transform visitor.visit).answer draft = .ok result)
      (none : result.replaced = 0) (still : next.Still draft) :
    Leads (.transform visitor) draft (.ok (.replaced false)) next
  | thrown {visitor : Onlooker} {draft next : Draft} {thrown : Thrown}
      (transformed : (draft.root.transform visitor.visit).answer draft = .error thrown)
      (still : next.Still draft) : Leads (.transform visitor) draft (.error thrown) next
  /-- The printed tree is read, and becomes the text with the tree that it is read as. -/
  | reread {draft next : Draft} {parsed : Grammar.Parsed}
      (reads : parseFile draft.path draft.render = .ok parsed) (root : next.root = parsed.root)
      (text : next.text = draft.render) : Leads .refresh draft (.ok .done) next
  | unread {draft next : Draft} {cause : Error}
      (fails : parseFile draft.path draft.render = .error cause) (still : next.Still draft) :
    Leads .refresh draft (.error (.error cause)) next
  | rendered (draft : Draft) : Leads .render draft (.ok (.text draft.render)) draft
  | warned {draft next : Draft} {generation : Nat} {node : Node} {message : String}
      (still : next.Still draft) : Leads (.warn generation node message) draft (.ok .done) next
  | cleared {draft next : Draft} (still : next.Still draft) :
    Leads .clearWarnings draft (.ok .done) next
  | named {draft next : Draft} {name : String} (still : next.Still draft) :
    Leads (.setActiveFix name) draft (.ok .done) next

/-- Warnings and the name of the running fix are no part of the tree or of the text. -/
theorem still_aside (draft : Draft) (warnings : List Warning) (name : String) :
    Still { draft with warnings := warnings, activeFix := name } draft :=
  ⟨rfl, rfl, rfl, rfl⟩

variable {path opened last : String} {draft : Draft}

/-- Warnings and the name of the running fix do not matter for whether a draft is coherent. -/
theorem Coherent.aside (coherent : draft.Coherent path opened last) (warnings : List Warning)
    (name : String) :
    Coherent path opened last { draft with warnings := warnings, activeFix := name } :=
  ⟨coherent.path, coherent.opened, coherent.text, coherent.reads, coherent.render,
    coherent.faultless⟩

/-- A tree that takes the place of another is printed at once, so that the printed form is its own. -/
theorem Coherent.replace_root (coherent : draft.Coherent path opened last) (root : Node) :
    (draft.replaceRoot root).Coherent path opened last :=
  ⟨coherent.path, coherent.opened, coherent.text, coherent.reads, rfl, coherent.faultless⟩

/-- A tree that was read back is not printed yet, whatever was printed before. -/
theorem Coherent.reread (coherent : draft.Coherent path opened last) {text : String}
    {parsed : Grammar.Parsed} (reads : parseFile draft.path text = .ok parsed) :
    (draft.reread text parsed).Coherent path opened text :=
  ⟨coherent.path, coherent.opened, rfl, reads, rfl, coherent.faultless⟩

/-- What a transformation leads to. Its visitor changes the warnings and the name only, so that what is
replaced is the tree that was walked over. -/
theorem transform_leads (visitor : Onlooker) (coherent : draft.Coherent path opened last) :
    (Action.transform visitor).Leads draft ((Action.transform visitor).edit.answer draft)
        ((Action.transform visitor).edit.after draft) ∧
      ((Action.transform visitor).edit.after draft).Coherent path opened last := by
  obtain ⟨warnings, name, ran⟩ := visitor.run_transform draft
  cases transformed : (draft.root.transform visitor.visit).answer draft with
  | error thrown =>
    rw [transformed] at ran
    simp only [Edit.answer, Edit.after, Action.edit, Edit.run_bind, ran]
    exact ⟨.thrown transformed (still_aside draft warnings name), coherent.aside warnings name⟩
  | ok result =>
    rw [transformed] at ran
    by_cases none : result.replaced = 0
    · simp only [Edit.answer, Edit.after, Action.edit, Edit.run_bind, ran, none, if_true]
      exact ⟨.kept transformed none (still_aside draft warnings name), coherent.aside warnings name⟩
    · simp only [Edit.answer, Edit.after, Action.edit, Edit.run_bind, ran, none, if_false]
      exact ⟨.replaced transformed none rfl rfl rfl, (coherent.aside warnings name).replace_root _⟩

/-- What reading a draft back leads to, with the text that was read last. A text that cannot be read
leaves the draft as it was. -/
theorem refresh_leads (coherent : draft.Coherent path opened last) :
    Action.refresh.Leads draft (Action.refresh.edit.answer draft) (Action.refresh.edit.after draft) ∧
      (Action.refresh.edit.after draft).Coherent path opened
        ((Action.refresh.reads draft).getD last) := by
  have ran := FixedPoint.run_refresh draft
  rw [coherent.faultless] at ran
  cases read : parseFile draft.path draft.render with
  | error cause =>
    rw [read] at ran
    simp only [Action.reads, Edit.answer, Edit.after, Action.edit, Edit.run_bind, ran]
    exact ⟨.unread read ⟨rfl, rfl, rfl, rfl⟩, coherent⟩
  | ok parsed =>
    rw [read] at ran
    simp only [Action.reads, Edit.answer, Edit.after, Action.edit, Edit.run_bind, ran]
    exact ⟨.reread read rfl rfl, coherent.reread read⟩

/-- What any operation leads to. -/
theorem Action.leads (action : Action) (coherent : draft.Coherent path opened last) :
    action.Leads draft (action.edit.answer draft) (action.edit.after draft) ∧
      (action.edit.after draft).Coherent path opened ((action.reads draft).getD last) := by
  cases action with
  | transform visitor => exact transform_leads visitor coherent
  | refresh => exact refresh_leads coherent
  | render => exact ⟨.rendered draft, coherent⟩
  | warn generation node message =>
    exact ⟨.warned ⟨rfl, rfl, rfl, rfl⟩, coherent.aside _ draft.activeFix⟩
  | clearWarnings => exact ⟨.cleared ⟨rfl, rfl, rfl, rfl⟩, coherent.aside [] draft.activeFix⟩
  | setActiveFix name => exact ⟨.named ⟨rfl, rfl, rfl, rfl⟩, coherent.aside draft.warnings name⟩

/-- Operations in a row keep a draft in agreement with itself. The induction is on the operations; each
hands the text that was read last to the next. -/
theorem Coherent.performed (actions : List Action) (coherent : draft.Coherent path opened last) :
    (draft.performed actions).Coherent path opened ((draft.readTexts actions).getLastD last) := by
  induction actions generalizing draft last with
  | nil => exact coherent
  | cons action rest inductionHypothesis =>
    have stepped := inductionHypothesis (action.leads coherent).2
    rw [Draft.performed, Draft.readTexts]
    cases read : action.reads draft with
    | none =>
      rw [read] at stepped
      exact stepped
    | some text =>
      rw [read] at stepped
      rw [Option.toList_some, List.singleton_append, List.getLastD_cons]
      exact stepped

/-- A transformation answers yes exactly when the tree was replaced. The revision counts the trees that
were put in, and the count goes up in that case only. -/
theorem Action.Leads.told {visitor : Onlooker} {next : Draft} {reply : Except Thrown Reply}
    (leads : (Action.transform visitor).Leads draft reply next) :
    reply = .ok (.replaced true) ↔ next.revision ≠ draft.revision := by
  cases leads with
  | replaced transformed some root revision text =>
    refine iff_of_true rfl ?_
    rw [revision]
    exact Nat.succ_ne_self draft.revision
  | kept transformed none still =>
    refine iff_of_false ?_ (not_not_intro still.revision)
    simp
  | thrown transformed still =>
    refine iff_of_false ?_ (not_not_intro still.revision)
    simp

/-- Opening a text gives a draft that agrees with itself. -/
theorem coherent_of_parse {text : String} (parsed : Draft.parse path text = .ok draft) :
    draft.Coherent path text text := by
  obtain ⟨tree, read, rfl⟩ := Draft.of_parse parsed
  exact ⟨rfl, rfl, rfl, read, rfl, rfl⟩

/-- In the whole life of a draft, the printed form is that of the current tree, the text is the one that was
read last, and the path and the text at the start stay. From there every operation leads where it says:
a transformation that replaces nothing or throws, and a text that cannot be read back, leave the tree, the
text and the printed form; what was read back is the tree of the text that was printed; and a
transformation answers yes exactly when the tree was replaced. -/
theorem life_coherent (path text : String) (draft : Draft)
    (parsed : Draft.parse path text = .ok draft) (actions : List Action) :
    (draft.performed actions).Coherent path text ((draft.readTexts actions).getLastD text) ∧
    (∀ action : Action, action.Leads (draft.performed actions)
      (action.edit.answer (draft.performed actions)) (action.edit.after (draft.performed actions))) ∧
    ∀ visitor : Onlooker,
      (Action.transform visitor).edit.answer (draft.performed actions) = .ok (.replaced true) ↔
        ((Action.transform visitor).edit.after (draft.performed actions)).revision ≠
          (draft.performed actions).revision := by
  have coherent : (draft.performed actions).Coherent path text
      ((draft.readTexts actions).getLastD text) := (coherent_of_parse parsed).performed actions
  have leads (action : Action) := (action.leads coherent).1
  refine ⟨coherent, leads, ?_⟩
  intro visitor
  exact (leads (.transform visitor)).told

/-- Puts identifiers of one name in the place of those of another. -/
def Action.rename (old new : String) : Action :=
  .transform (.ofAnswers fun node => .ok (node.renamed old new))

/-- A name that cannot be read back is printed, is left alone when reading it back fails, and is then given
another name, under which the text is read. -/
theorem renamed_life : ∃ draft, Draft.parse "/a.ts" "a" = .ok draft ∧
    (draft.performed [.rename "a" "(", .refresh, .rename "(" "b", .refresh]).Coherent "/a.ts" "a"
      "b;\n" := by
  have checked : (Draft.parse "/a.ts" "a").toOption.map
      (·.readTexts [.rename "a" "(", .refresh, .rename "(" "b", .refresh]) = some ["b;\n"] := by
    decide +kernel
  cases parsed : Draft.parse "/a.ts" "a" with
  | error cause =>
    rw [parsed] at checked
    cases checked
  | ok draft =>
    rw [parsed] at checked
    have texts : draft.readTexts [.rename "a" "(", .refresh, .rename "(" "b", .refresh] = ["b;\n"] :=
      Option.some.inj checked
    have lives := (life_coherent "/a.ts" "a" draft parsed
      [.rename "a" "(", .refresh, .rename "(" "b", .refresh]).1
    rw [texts] at lives
    exact ⟨draft, rfl, lives⟩

/-- A visitor that renames `a` in the draft while a transformation of it is under way, and answers that
the node that it is given stays. -/
def meddling : Visitor Edit := fun _ => do
  let _ ← Edit.transform fun node => return node.renamed "a" "b"
  return none

/-- A transformation by a visitor that itself transforms the draft can answer no although the tree was
replaced: what the visitor put in its place stays, and is printed. -/
theorem meddling_concealed : ∃ draft, Draft.parse "/a.ts" "a" = .ok draft ∧
    (Edit.transform meddling).answer draft = .ok false ∧
    ((Edit.transform meddling).after draft).revision ≠ draft.revision ∧
    draft.render = "a;\n" ∧ ((Edit.transform meddling).after draft).render = "b;\n" := by
  have checked : (Draft.parse "/a.ts" "a").toOption.any (fun draft =>
      (match (Edit.transform meddling).answer draft with
        | .ok changed => changed == false
        | .error _ => false) &&
      ((Edit.transform meddling).after draft).revision != draft.revision &&
      draft.render == "a;\n" && ((Edit.transform meddling).after draft).render == "b;\n") = true := by
    decide +kernel
  cases parsed : Draft.parse "/a.ts" "a" with
  | error cause =>
    rw [parsed] at checked
    cases checked
  | ok draft =>
    rw [parsed] at checked
    simp only [Except.toOption, Option.any_some, Bool.and_eq_true, bne_iff_ne, beq_iff_eq] at checked
    obtain ⟨⟨⟨answered, moved⟩, before⟩, after⟩ := checked
    refine ⟨draft, rfl, ?_, moved, before, after⟩
    split at answered
    · rename_i changed told
      rw [told, eq_of_beq answered]
    · cases answered

end Draft

end Codemod
