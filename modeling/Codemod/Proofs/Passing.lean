import Codemod.Proofs.Dialling

/-!
# What a call passes

When a program runs, a plain argument of a call is one value and a spread argument is any finite list of values, so
that the values which a call passes need not be as many as its arguments. Parentheses around an argument
change nothing about that.

The fix for calls counts arguments. What it leaves of a call passes the values that the call passed, less the
empty text that was dropped. These are the first and the third of three values in every run exactly when neither
of the arguments that are left is spread.
-/
namespace Codemod.Fix

open Syntax Node Imports

/-- What arguments stand for in a run of a program: one value each, or a list of values for one that is
spread. -/
structure Evaluation (Value : Type) where
  text : String → Value
  plain : Node → Value
  spread : Node → List Value
  /-- A text literal stands for its text. -/
  literal : ∀ node : Node, node.isText = true → plain node = text node.text
  /-- An expression in parentheses stands for what the expression does. -/
  placed : ∀ node : Node, plain node.parenthesized = plain node

namespace Evaluation

variable {Value : Type} (evaluation : Evaluation Value)

/-- The values that an argument stands for. -/
def values (argument : Node) : List Value :=
  if argument.kind == .spreadElement then evaluation.spread argument else [evaluation.plain argument]

/-- The values that a call passes. -/
def passed (call : Node) : List Value :=
  (call.items .arguments).flatMap evaluation.values

/-- A call passes three values, an empty text as the second, and the other call the first and the third
of them. -/
def DropsSecond (call other : Node) : Prop :=
  ∃ first third, evaluation.passed call = [first, evaluation.text "", third] ∧
    evaluation.passed other = [first, third]

/-- The evaluation in which expressions stand for the texts that they are spelled with. -/
def spelled (spread : Node → List String) : Evaluation String where
  text := id
  plain node := node.unwrap.text
  spread
  literal node isText := by
    have bare : node.unwrap = node := unwrap_of_not_single fun single => by
      simp [Node.isText, single.1] at isText
    rw [bare]
    rfl
  placed node := by
    have bare : node.parenthesized.unwrap = node.unwrap := unwrap_parenthesized rfl rfl
    rw [bare]

/-- Parentheses that an argument is given do not change the values that it passes. An expression in
parentheses has its value, and what spreads never needs them. -/
@[simp] theorem values_as_member (argument : Node) :
    evaluation.values argument.asMember = evaluation.values argument := by
  by_cases binds : argument.strength > 0
  · rw [as_member_of_strength binds]
  · have put : argument.asMember = argument.parenthesized := by
      rw [asMember, inParensUnless, if_neg (by simpa using binds)]
    have notSpread : (argument.kind == .spreadElement) = false := by
      refine beq_false_of_ne fun isSpread => binds ?_
      rw [strength, isSpread]
      exact (by decide : (1 : Int) > 0)
    rw [put, values, values, notSpread, evaluation.placed]
    rfl

/-- An empty text is one value. -/
theorem values_empty {argument : Node} (empty : argument.isEmptyText = true) :
    evaluation.values argument = [evaluation.text ""] := by
  simp only [isEmptyText, Bool.and_eq_true, beq_iff_eq] at empty
  have notSpread : (argument.kind == .spreadElement) = false := by
    refine beq_false_of_ne fun isSpread => ?_
    have isText := empty.1
    simp [Node.isText, isSpread] at isText
  rw [values, notSpread, if_neg Bool.false_ne_true, evaluation.literal argument empty.1, empty.2]

/-- What is left of a call passes what the call passed, less the empty text. The values are those of the
arguments in order, and the empty text is the value of the second. -/
theorem passed_dropped {file call network localAddress address : Node} {bindings : Bindings}
    (dials : Dials file bindings call network localAddress address)
    (empty : localAddress.isEmptyText = true) :
    evaluation.passed call =
        evaluation.values network ++ evaluation.text "" :: evaluation.values address ∧
      evaluation.passed (withArguments call [network, address]) =
        evaluation.values network ++ evaluation.values address := by
  have given : (withArguments call [network, address]).items .arguments =
      [network.asMember, address.asMember] := arguments_given call _
  constructor
  · rw [passed, dials.arguments]
    simp [values_empty evaluation empty]
  · rw [passed, given]
    simp

end Evaluation

section

variable {file call network localAddress address : Node} {bindings : Bindings}

/-- In every run the right values are dropped when no argument that is left is spread. When one is, it may
be spread to nothing. -/
theorem drops_second_iff (dials : Dials file bindings call network localAddress address)
    (empty : localAddress.isEmptyText = true) :
    (∀ (Value : Type) (evaluation : Evaluation Value),
        evaluation.DropsSecond call (withArguments call [network, address])) ↔
      network.kind ≠ .spreadElement ∧ address.kind ≠ .spreadElement := by
  constructor
  · intro drops
    obtain ⟨first, third, before, after⟩ := drops String (.spelled fun _ => [])
    obtain ⟨original, rewritten⟩ :=
      (Evaluation.spelled fun _ => []).passed_dropped dials empty
    have two := congrArg List.length (rewritten.symm.trans after)
    have single (argument : Node) (isSpread : argument.kind = .spreadElement) :
        (Evaluation.spelled fun _ => []).values argument = [] := by
      rw [Evaluation.values, isSpread]
      rfl
    have most (argument : Node) :
        ((Evaluation.spelled fun _ => []).values argument).length ≤ 1 := by
      rw [Evaluation.values]
      split
      · exact Nat.zero_le 1
      · exact Nat.le_refl 1
    rw [List.length_append] at two
    have networkMost := most network
    have addressMost := most address
    constructor
    · intro isSpread
      rw [single network isSpread] at two
      simp at two
      omega
    · intro isSpread
      rw [single address isSpread] at two
      simp at two
      omega
  · rintro ⟨networkPlain, addressPlain⟩ Value evaluation
    obtain ⟨before, after⟩ := evaluation.passed_dropped dials empty
    have plain {argument : Node} (notSpread : argument.kind ≠ .spreadElement) :
        evaluation.values argument = [evaluation.plain argument] := by
      rw [Evaluation.values, beq_false_of_ne notSpread, if_neg Bool.false_ne_true]
    rw [plain networkPlain, plain addressPlain] at before after
    exact ⟨_, _, before, after⟩

end

/-- What the fix for calls leaves of a call passes what the call passed, less the empty text that was dropped,
whatever spread arguments stand for. In every run these are the first and the third of three values, and the second
of the three was the empty text, exactly when neither argument that is left is spread. -/
theorem rewritten_call_passes {file call replacement : Node} {bindings : Bindings} {draft left : Draft}
    (rewrites : (undialled file bindings call).run draft = (.ok (some replacement), left)) :
    ∃ network localAddress address, call.items .arguments = [network, localAddress, address] ∧
      localAddress.isEmptyText = true ∧
      (∀ (Value : Type) (evaluation : Evaluation Value),
        evaluation.passed call =
            evaluation.values network ++ evaluation.text "" :: evaluation.values address ∧
          evaluation.passed replacement = evaluation.values network ++ evaluation.values address) ∧
      ((∀ (Value : Type) (evaluation : Evaluation Value), evaluation.DropsSecond call replacement) ↔
        network.kind ≠ .spreadElement ∧ address.kind ≠ .spreadElement) := by
  rw [run_undialled, redialled_eq] at rewrites
  have given : (dialRule.renewal (resolve file bindings) call).map (withArguments call) =
      some replacement := Except.ok.inj (congrArg Prod.fst rewrites)
  obtain ⟨arguments, renews, rfl⟩ := Option.map_eq_some_iff.mp given
  obtain ⟨network, localAddress, address, dials, empty, rfl⟩ := renewal_dial_iff.mp renews
  exact ⟨network, localAddress, address, dials.arguments, empty,
    fun _ evaluation => evaluation.passed_dropped dials empty, drops_second_iff dials empty⟩

/-- A file with two calls that drop their local address; in the second the first argument is spread. -/
def spreadDial : String :=
  "import n from\"net\";n.dial(a,\"\",b);n.dial(...xs,\"\",b)"

/-- Whether that file is read as a draft with a call at a place that the fix rewrites, so that the call and what
it becomes pass a test. -/
def rewritten (place : List Nat) (test : Node → Node → Bool) : Bool :=
  (Draft.parse "/a.ts" spreadDial).toOption.any fun draft => (draft.root.visited? place).any fun call =>
    (redialled draft.parsed.root (collect draft.root netModule) call).any (test call)

/-- A call of a file that the fix rewrites. -/
theorem rewritten_call {place : List Nat} {test : Node → Node → Bool}
    (checked : rewritten place test = true) : ∃ draft call replacement,
      Draft.parse "/a.ts" spreadDial = .ok draft ∧ draft.root.Visits place call ∧
        (undialled draft.parsed.root (collect draft.root netModule) call).run draft =
          (.ok (some replacement), draft) ∧ test call replacement = true := by
  obtain ⟨draft, opened, found⟩ := ok_of_any checked
  obtain ⟨call, visited, found⟩ := (Option.any_eq_true _ _).mp found
  obtain ⟨replacement, given, passed⟩ := (Option.any_eq_true _ _).mp found
  refine ⟨draft, call, replacement, opened, visits_of_visited visited, ?_, passed⟩
  rw [run_undialled, given, if_neg fun impossible => (by cases impossible.2)]

/-- Both calls are rewritten: the first has no spread argument, and the second passes one value where it passed
two when its first argument is spread to nothing. -/
theorem spread_dial_rewritten :
    rewritten [1, 0] (fun call _ => (call.items .arguments).all (·.kind != .spreadElement)) = true ∧
      rewritten [2, 0] (fun call replacement =>
        (Evaluation.spelled fun _ => []).passed call == ["", "b"] &&
          (Evaluation.spelled fun _ => []).passed replacement == ["b"]) = true := by
  decide +kernel

/-- The first call of that file is rewritten to one that passes the right values in every run. It holds
no spread before the argument that is dropped. -/
theorem plain_call_passes : ∃ draft call replacement, Draft.parse "/a.ts" spreadDial = .ok draft ∧
    draft.root.Visits [1, 0] call ∧
    (undialled draft.parsed.root (collect draft.root netModule) call).run draft =
      (.ok (some replacement), draft) ∧
    ∀ (Value : Type) (evaluation : Evaluation Value), evaluation.DropsSecond call replacement := by
  obtain ⟨draft, call, replacement, opened, visits, rewrites, plain⟩ :=
    rewritten_call spread_dial_rewritten.1
  obtain ⟨network, localAddress, address, listed, _, _, always⟩ := rewritten_call_passes rewrites
  rw [listed] at plain
  simp only [List.all_cons, Bool.and_eq_true, bne_iff_ne] at plain
  exact ⟨draft, call, replacement, opened, visits, rewrites, always.mpr ⟨plain.1, plain.2.2.1⟩⟩

/-- The second call is rewritten too. When its first argument is spread to nothing it passes two values, the first of
which is the empty text, and what it becomes passes one. -/
theorem spread_call_passes_two : ∃ draft call replacement, Draft.parse "/a.ts" spreadDial = .ok draft ∧
    draft.root.Visits [2, 0] call ∧
    (undialled draft.parsed.root (collect draft.root netModule) call).run draft =
      (.ok (some replacement), draft) ∧
    (Evaluation.spelled fun _ => []).passed call = ["", "b"] ∧
    (Evaluation.spelled fun _ => []).passed replacement = ["b"] ∧
    ¬(Evaluation.spelled fun _ => []).DropsSecond call replacement := by
  obtain ⟨draft, call, replacement, opened, visits, rewrites, passes⟩ :=
    rewritten_call spread_dial_rewritten.2
  rw [Bool.and_eq_true, beq_iff_eq, beq_iff_eq] at passes
  refine ⟨draft, call, replacement, opened, visits, rewrites, passes.1, passes.2, ?_⟩
  rintro ⟨first, third, before, _⟩
  have number : 2 = 3 := congrArg List.length (passes.1.symm.trans before)
  exact absurd number (by decide)

end Codemod.Fix
