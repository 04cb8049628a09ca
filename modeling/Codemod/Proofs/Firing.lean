import Codemod.Proofs.Remaking

/-!
# What a fix does to a file

A fix that comes with the program follows a rule. On a draft that was just read it fires when
the file loads the module and the rule has something to replace in its tree; the tree that it leaves
is then the mended one, up to positions. It fails only where it goes through a tree that
lacks a part.

What a tree fires does not depend on positions. So when what a fix leaves is printed and read back as
the same tree, up to positions and trivia, the fix does not fire on it, and other fixes fire as before.
-/
namespace Codemod

open Syntax Node Imports FixedPoint

namespace Fix

/-- The rule that a fix follows. -/
inductive Follows : Fix → Rule → Prop where
  | keyed : Follows netAddrKeyed keyedRule
  | dial : Follows netDial dialRule

namespace Rule

/-- Whether the fix that follows a rule has something to replace in a file. -/
def fires (rule : Rule) (root : Node) : Bool :=
  importsModule root netModule && rule.hits (collect root netModule) (fun _ => false) root

/-- A file with a rule applied. -/
def mended (rule : Rule) (root : Node) : Node :=
  rule.mend (collect root netModule) (fun _ => false) root

end Rule

variable {fix other : Fix} {rule otherRule : Rule} {root : Node} {trivia : Bool}

/-- The rules of the fixes that come with the program are lawful. -/
theorem Follows.lawful (follows : fix.Follows rule) : rule.Lawful := by
  cases follows with
  | keyed => exact keyed_lawful
  | dial => exact dial_lawful

/-- A fix with a rule is one of those that come with the program. -/
theorem Follows.builtin (follows : fix.Follows rule) : fix ∈ builtin := by
  cases follows with
  | keyed => exact List.mem_cons_self
  | dial => exact List.mem_cons_of_mem _ List.mem_cons_self

section

variable {before after : Node}

end

/-- The transformation of a fix that finds what it looks for bound is the transformation by its rule; on
the way it may raise warnings. -/
theorem run_transform_bound (follows : fix.Follows rule) {draft : Draft}
    (bound : fix.name = netAddrKeyed.name → (collect draft.root netModule).isEmpty = false) :
    ∃ added, fix.transform.run draft =
      match draft.root.transform (m := Except Thrown) fun node =>
        .ok (rule.answer draft.parsed.root (collect draft.root netModule) node) with
      | .error thrown => (.error thrown, draft.noting added)
      | .ok result =>
        if result.replaced = 0 then (.ok false, draft.noting added)
        else (.ok true, (draft.noting added).replaceRoot result.node) := by
  cases follows with
  | dial =>
    obtain ⟨added, _, ran⟩ := Edit.run_transform (undialled_notes draft.parsed.root
      (collect draft.root netModule)) draft
    simp only [redialled_eq] at ran
    exact ⟨added, (run_net_dial _).trans ran⟩
  | keyed =>
    obtain ⟨added, _, ran⟩ := Edit.run_transform (fun node => Edit.Notes.silent (keyed draft.parsed.root
      (collect draft.root netModule) node)) draft
    refine ⟨added, ?_⟩
    rw [run_net_addr_keyed, bound rfl, if_neg Bool.false_ne_true]
    refine ran.trans ?_
    simp only [keyed_eq]
    rfl

end Fix

/-- What passes a test is there. -/
theorem ok_of_any {ε α : Type} {result : Except ε α} {test : α → Bool}
    (some : result.toOption.any test = true) : ∃ value, result = .ok value ∧ test value = true := by
  cases result with
  | error cause => cases some
  | ok value => exact ⟨value, rfl, some⟩

section

variable {path text : String} {draft left : Draft} {fix : Fix} {rule : Fix.Rule} {trivia : Bool}

/-- The tree of a fresh draft is a whole file whose nodes were given their places. -/
theorem Draft.Fresh.located (fresh : draft.Fresh) : ∃ root : Node,
    draft.root = root.locate [] ∧ draft.parsed.root = root.locate [] ∧ root.kind = .sourceFile := by
  have read := parse_of_file fresh.reads
  obtain ⟨root, located⟩ := Grammar.parse_located read
  refine ⟨root, fresh.root.trans located, located, ?_⟩
  rw [← kind_locate [] root, ← located]
  exact Grammar.kind_of_parse read

/-- The texts that a file goes through, with the trees that they are read as, when fixes that come with
the program fire on it one after another. -/
inductive Reached (path text : String) : String → Grammar.Parsed → Prop where
  | opened {parsed : Grammar.Parsed} (reads : parseFile path text = .ok parsed) :
    Reached path text text parsed
  | fired {before : String} {parsed again : Grammar.Parsed} {fix : Fix} {left : Draft}
      (reached : Reached path text before parsed) (known : fix ∈ Fix.builtin)
      (ran : (runFix fix).run (Draft.ofParsed path before parsed) = (.ok true, left))
      (reads : parseFile path left.render = .ok again) : Reached path text left.render again

/-- A tree that a fix that comes with the program leaves when it fires on a file, or on what such
fixes make of the file. -/
def Produced (path text : String) (left : Draft) : Prop :=
  ∃ before parsed, Reached path text before parsed ∧ ∃ fix ∈ Fix.builtin,
    (runFix fix).run (Draft.ofParsed path before parsed) = (.ok true, left)

/-- A fresh draft of a text that a file goes through. -/
structure Draft.Follows (path text : String) (draft : Draft) : Prop extends draft.Fresh where
  samePath : draft.path = path
  reached : Reached path text draft.text draft.parsed

/-- What makes a draft one that a file goes through is all part of its view. -/
theorem Draft.Follows.of_view {other : Draft} (follows : draft.Follows path text)
    (same : other.view = draft.view) : other.Follows path text where
  toFresh := follows.toFresh.of_view same
  samePath := (congrArg Draft.View.path same).trans follows.samePath
  reached := by
    have texts : other.text = draft.text := congrArg Draft.View.text same
    have trees : other.parsed = draft.parsed := congrArg Draft.View.parsed same
    rw [texts, trees]
    exact follows.reached

end

end Codemod
