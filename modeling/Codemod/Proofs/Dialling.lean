import Codemod.Proofs.Keying
import Codemod.Proofs.Reporting

/-!
# Calls without their empty local address

A call with three arguments whose callee refers to `dial`, as the scopes of the file have it, either has an
empty text as its second argument or not. The transformation of the fix for calls takes the second argument
out of the calls of the first kind, at whatever depth and within one another, and warns about the calls of
the second kind, one warning for each, in the order in which they stand in the text. Nothing else
is changed.

What stands around a call that is changed is rebuilt, and its parts are put in the parentheses that their
places demand then; so are the two arguments that are left. Where a transformation does not visit,
calls are left as they are. A tree in which a part is missing is not transformed at all, though warnings
may have been given by then.
-/
namespace Codemod.Fix

open Syntax Node Imports

/-- A call of `dial` of a module that a file binds, with its three arguments. -/
structure Dials (file : Node) (bindings : Bindings) (node network localAddress address : Node) : Prop where
  call : node.kind = .callExpression
  refers : ∃ callee, node.child? .expression = some callee ∧ resolve file bindings callee = some "dial"
  arguments : node.items .arguments = [network, localAddress, address]

/-- A call of `dial` whose local address is an empty text. -/
def Drops (file : Node) (bindings : Bindings) (node : Node) : Prop :=
  ∃ network localAddress address, Dials file bindings node network localAddress address ∧
    localAddress.isEmptyText = true

/-- A call of `dial` with any other local address. -/
def Keeps (file : Node) (bindings : Bindings) (node : Node) : Prop :=
  ∃ network localAddress address, Dials file bindings node network localAddress address ∧
    localAddress.isEmptyText = false

/-- A transformation visits such a call below the node. -/
def HasDroppedBelow (file : Node) (bindings : Bindings) (node : Node) : Prop :=
  ∃ place target, node.Visits place target ∧ place ≠ [] ∧ Drops file bindings target

mutual

/-- What a tree becomes when every call that is visited in it loses its empty local address. Another node is
what it becomes below. Such a call keeps its callee, without parentheses around it, what its first and
third arguments became, and all else that it became below. -/
inductive Redialled (file : Node) (bindings : Bindings) : Node → Node → Prop where
  | other {node inner : Node} (kept : ¬Drops file bindings node)
      (below : RedialledBelow file bindings node inner) : Redialled file bindings node inner
  | dropped {node inner callee name network localAddress address first third : Node}
      (dials : Dials file bindings node network localAddress address)
      (empty : localAddress.isEmptyText = true) (below : RedialledBelow file bindings node inner)
      (called : node.child? .expression = some callee) (again : Redialled file bindings callee name)
      (stays : inner.child? .expression = some name) (before : Redialled file bindings network first)
      (after : Redialled file bindings address third) :
    Redialled file bindings node (inner.given [first, third])

/-- What a node becomes below: it stays when no such call is visited there, and is put together again around
what its parts become when one is. Parts that are not visited stay. -/
inductive RedialledBelow (file : Node) (bindings : Bindings) : Node → Node → Prop where
  | kept {node : Node} (none : ¬HasDroppedBelow file bindings node) : RedialledBelow file bindings node node
  | around {node : Node} {results : List Node} (within : HasDroppedBelow file bindings node)
      (number : results.length = node.parts.length)
      (visited : ∀ (index : Nat) (role : Role) (part result : Node), node.parts[index]? = some (role, part) →
        results[index]? = some result → role.isVisited node.kind = true → Redialled file bindings part result)
      (passed : ∀ (index : Nat) (role : Role) (part result : Node), node.parts[index]? = some (role, part) →
        results[index]? = some result → role.isVisited node.kind = false → result = part) :
    RedialledBelow file bindings node (node.refit results)

end

/-! ## The calls that lose an argument -/

section

variable {root file node network localAddress address : Node} {bindings : Bindings} {shade : Shade}

/-- A call drops its local address when the rule has new arguments for it. The rule asks for the kind of
the node, for what its callee refers to and for three arguments of which the second is the empty text. -/
theorem renewal_dial_iff {arguments : List Node} :
    dialRule.renewal (resolve file bindings) node = some arguments ↔
      ∃ network localAddress address, Dials file bindings node network localAddress address ∧
        localAddress.isEmptyText = true ∧ arguments = [network, address] := by
  constructor
  · intro renews
    have isCall : node.kind = .callExpression := Rule.kind_of_renewal renews
    obtain ⟨exported, refers, renewed⟩ := Rule.renew_of_renewal renews
    obtain ⟨callee, called, resolved⟩ := Option.bind_eq_some_iff.mp refers
    obtain ⟨rfl, network, localAddress, address, given, empty, same⟩ := dial_renews renewed
    exact ⟨network, localAddress, address, ⟨isCall, ⟨callee, called, resolved⟩, given⟩, empty, same⟩
  · rintro ⟨network, localAddress, address, ⟨isCall, ⟨callee, called, resolved⟩, given⟩, empty, rfl⟩
    have sameKind : (node.kind == dialRule.kind) = true := by
      rw [isCall]
      rfl
    rw [Rule.renewal, if_pos sameKind, called, Option.bind_some, resolved, Option.bind_some, given]
    simp [dialRule, empty]

/-- The rule for calls renews a node exactly if it is a call that drops its local address. -/
theorem drops_iff :
    (dialRule.renewal (resolve file bindings) node).isSome = true ↔ Drops file bindings node := by
  rw [Option.isSome_iff_exists]
  constructor
  · rintro ⟨arguments, renews⟩
    obtain ⟨network, localAddress, address, dials, empty, _⟩ := renewal_dial_iff.mp renews
    exact ⟨network, localAddress, address, dials, empty⟩
  · rintro ⟨network, localAddress, address, dials, empty⟩
    exact ⟨_, renewal_dial_iff.mpr ⟨network, localAddress, address, dials, empty, rfl⟩⟩

end

/-! ## The calls that are warned about -/

/-- Whether a call of `dial` keeps its local address. -/
def keepsAddress (file : Node) (bindings : Bindings) (node : Node) : Bool :=
  isDial file bindings node && (redialled file bindings node).isNone

section

variable {file node network localAddress address : Node} {bindings : Bindings}

/-- The test for calls of `dial` finds those with three arguments that refer to it. -/
theorem is_dial_iff : isDial file bindings node = true ↔
    ∃ network localAddress address, Dials file bindings node network localAddress address := by
  simp only [isDial, Bool.and_eq_true, beq_iff_eq, List.length_eq_three, Option.bind_eq_some_iff]
  constructor
  · rintro ⟨⟨isCall, network, localAddress, address, given⟩, callee, called, resolved⟩
    exact ⟨network, localAddress, address, isCall, ⟨callee, called, resolved⟩, given⟩
  · rintro ⟨network, localAddress, address, isCall, ⟨callee, called, resolved⟩, given⟩
    exact ⟨⟨isCall, network, localAddress, address, given⟩, callee, called, resolved⟩

/-- The test for calls that keep their address finds those that are calls of `dial` and drop nothing. A
call of three arguments either drops its second one or keeps it, and the empty text decides. -/
theorem keeps_iff : keepsAddress file bindings node = true ↔ Keeps file bindings node := by
  have dropped : (redialled file bindings node).isNone = true ↔ ¬Drops file bindings node := by
    rw [redialled_eq, Option.isNone_map, ← drops_iff, Bool.not_eq_true, Option.isSome_eq_false_iff]
  rw [keepsAddress, Bool.and_eq_true, is_dial_iff, dropped]
  constructor
  · rintro ⟨⟨network, localAddress, address, dials⟩, kept⟩
    exact ⟨network, localAddress, address, dials,
      Bool.eq_false_iff.mpr fun empty => kept ⟨network, localAddress, address, dials, empty⟩⟩
  · rintro ⟨network, localAddress, address, dials, given⟩
    refine ⟨⟨network, localAddress, address, dials⟩, ?_⟩
    rintro ⟨_, _, _, others, empty⟩
    cases dials.arguments.symm.trans others.arguments
    rw [given] at empty
    cases empty

/-- What is no call does not keep a local address. -/
theorem keeps_call (keeps : keepsAddress file bindings node = true) : node.kind = .callExpression := by
  obtain ⟨_, _, _, dials, _⟩ := keeps_iff.mp keeps
  exact dials.call

/-- Parentheses among the members of a list do not matter to what is warned about in them. -/
theorem passing_as_member (file : Node) (bindings : Bindings) (node : Node) :
    node.asMember.passing (keepsAddress file bindings) = node.passing (keepsAddress file bindings) := by
  rw [asMember, inParensUnless]
  split
  · rfl
  · have bare : keepsAddress file bindings node.parenthesized = false :=
      Bool.eq_false_iff.mpr fun keeps => (by cases keeps_call keeps)
    rw [passing_eq, bare, if_neg Bool.false_ne_true, List.nil_append]
    exact List.append_nil _

/-- Nothing is warned about in an empty text. -/
theorem passing_empty (empty : node.isEmptyText = true) :
    node.passing (keepsAddress file bindings) = [] := by
  obtain ⟨plain, none⟩ := plain_of_zero (zero_of_empty_text empty)
  have notCall : keepsAddress file bindings node = false := by
    refine Bool.eq_false_iff.mpr fun keeps => ?_
    have kinds := plain.kinds
    rw [keeps_call keeps] at kinds
    simp at kinds
  rw [passing_eq, notCall, passingBelow, none]
  rfl

/-- A node whose arguments come last has them after its other parts. The induction is on the layout:
before the arguments parts are kept as they come, and behind the first argument there is nothing else. -/
theorem parts_of_arranged (arranged : ArgumentsLast node.info.layout) :
    node.parts = node.parts.filter (·.1 != .arguments) ++
      (node.items .arguments).map fun argument => (.arguments, argument) := by
  rw [items, parts]
  rw [ArgumentsLast] at arranged
  generalize node.info.layout = layout at arranged
  generalize node.children = children
  induction layout generalizing children with
  | nil => rfl
  | cons role layout inductionHypothesis =>
    cases children with
    | nil => rfl
    | cons child children =>
      rw [List.pairwise_cons] at arranged
      have rest := inductionHypothesis arranged.2 children
      rw [List.zip_cons_cons]
      by_cases isArgument : role = .arguments
      · subst isArgument
        have none : (layout.zip children).filter (·.1 != .arguments) = [] := by
          refine List.filter_eq_nil_iff.mpr fun part present => ?_
          simpa using arranged.1 part.1 (List.of_mem_zip present).1 rfl
        rw [none, List.nil_append] at rest
        rw [List.filter_cons_of_neg (by simp), List.filter_cons_of_pos (by simp), none, List.nil_append,
          List.map_cons, List.map_cons, ← rest]
      · rw [List.filter_cons_of_pos (by simpa using isArgument),
          List.filter_cons_of_neg (by simpa using isArgument), List.cons_append, ← rest]

/-- A call without its empty local address has what is warned about in the call below it. What is dropped
is an empty text, below which there is nothing to be warned about. -/
theorem passing_dropped (arranged : ArgumentsLast node.info.layout)
    (dials : Dials file bindings node network localAddress address)
    (empty : localAddress.isEmptyText = true) :
    (withArguments node [network, address]).passingBelow (keepsAddress file bindings) =
      node.passingBelow (keepsAddress file bindings) := by
  have visited : Role.isVisited node.kind .arguments = true := by rw [dials.call]; rfl
  have parts : (withArguments node [network, address]).parts =
      node.parts.filter (·.1 != .arguments) ++
        [(.arguments, network.asMember), (.arguments, address.asMember)] := parts_given node _
  have kind : (withArguments node [network, address]).kind = node.kind := rfl
  rw [passingBelow, passingBelow, parts, kind, parts_of_arranged arranged, dials.arguments,
    List.flatMap_append, List.flatMap_append]
  have others : (node.parts.filter (·.1 != .arguments) ++
      [(Role.arguments, network), (.arguments, localAddress), (.arguments, address)]).filter
        (·.1 != .arguments) = node.parts.filter (·.1 != .arguments) := by
    simp [List.filter_filter]
  rw [List.map_cons, List.map_cons, List.map_cons, List.map_nil, others]
  simp only [List.flatMap_cons, List.flatMap_nil, visited, if_true, passing_as_member, passing_empty empty,
    List.nil_append]

/-- Parentheses around a node with spans have the span of the node. -/
theorem spanned_parenthesized (spanned : node.Spanned) : node.parenthesized.Spanned := by
  refine .mk spanned.own ?_ fun child present => ?_
  · exact List.pairwise_singleton _ _
  · rw [List.mem_singleton.mp present]
    exact spanned

/-- A node of a file that was read can be given some of its arguments. Parentheses that an argument is
given have its span, and the other parts stay. -/
theorem spanned_with_arguments (spanned : node.Spanned) {arguments : List Node}
    (some : ∀ argument ∈ arguments, argument.Spanned) : (withArguments node arguments).Spanned := by
  refine .mk spanned.own ?_ fun child present => ?_
  · refine List.pairwise_append.mpr ⟨?_, ?_, ?_⟩
    · refine List.Pairwise.imp_of_mem ?_ (List.pairwise_of_forall fun _ _ => trivial)
      intro first second listed _ _ isArgument
      obtain ⟨part, kept, rfl⟩ := List.mem_map.mp listed
      simp [isArgument] at kept
    · exact List.pairwise_map.mpr (List.pairwise_of_forall fun _ _ _ => rfl)
    · intro first _ second listed _
      obtain ⟨_, _, rfl⟩ := List.mem_map.mp listed
      rfl
  · rw [List.append_assoc, List.mem_append, List.mem_append] at present
    rcases present with kept | new | rest
    · obtain ⟨part, listed, rfl⟩ := List.mem_map.mp kept
      exact spanned.child (mem_of_part (List.mem_of_mem_filter listed))
    · obtain ⟨argument, listed, rfl⟩ := List.mem_map.mp new
      rw [asMember, inParensUnless]
      split
      · exact some argument listed
      · exact spanned_parenthesized (some argument listed)
    · exact spanned.child (List.mem_of_mem_drop rest)

/-- The fix for calls warns about the calls that keep their local address, in what was read. A call that
loses an argument is not warned about, and neither is it afterwards; what it passes on to its parts is
what they would be told of before. -/
theorem undialled_reporting (file : Node) (bindings : Bindings) :
    Reporting dialMessage (undialled file bindings) (redialled file bindings)
      (keepsAddress file bindings) Spanned where
  tells node := by
    refine ⟨_, List.prefix_rfl, fun _ _ => rfl, fun draft => ?_⟩
    rw [run_undialled]
    by_cases keeps : keepsAddress file bindings node = true
    · have warns : isDial file bindings node = true ∧ redialled file bindings node = none := by
        rwa [keepsAddress, Bool.and_eq_true, Option.isNone_iff_eq_none] at keeps
      rw [if_pos warns, if_pos keeps]
      rfl
    · have silent : ¬(isDial file bindings node = true ∧ redialled file bindings node = none) := by
        rwa [keepsAddress, Bool.and_eq_true, Option.isNone_iff_eq_none] at keeps
      rw [if_neg silent, if_neg keeps]
      rfl
  part spanned present := spanned.child (mem_of_part present)
  put {node replacement} spanned given := by
    have dropped := given
    rw [redialled_eq, Option.map_eq_some_iff] at dropped
    obtain ⟨arguments, renews, rfl⟩ := dropped
    obtain ⟨network, localAddress, address, dials, empty, rfl⟩ := renewal_dial_iff.mp renews
    refine ⟨spanned_with_arguments spanned ?_, ?_, passing_dropped spanned.arranged dials empty⟩
    · intro argument listed
      have given : argument ∈ node.items .arguments := by
        rw [dials.arguments]
        rcases List.mem_cons.mp listed with rfl | later
        · exact List.mem_cons_self
        · rw [List.mem_singleton.mp later]
          simp
      exact spanned.child (mem_children_of_items given)
    · rw [keepsAddress, given]
      exact Bool.and_false _

end

/-! ## The whole transformation -/

/-- The nodes with a property that a transformation visits in a tree, with their places: each of them once, a
node before what stands in it, and what stands in a node in its order. -/
structure Lists (root : Node) (property : Node → Prop) (stops : List (List Nat × Node)) : Prop where
  ordered : stops.Pairwise fun one other => one.1 < other.1
  listed : ∀ place node, (place, node) ∈ stops ↔ root.Visits place node ∧ property node

/-- A warning of the running fix about a call of a draft: its line and column are where the call starts in the
text. -/
structure Told (draft : Draft) (call : Node) (warning : Warning) : Prop where
  fix : warning.fix = draft.activeFix
  message : warning.message = dialMessage
  start : ∃ start, call.start? (Source.ofString draft.text) = some start ∧
    (Source.ofString draft.text).reached start = { line := warning.line, column := warning.column }

/-- The part of a tour that passes a test. -/
theorem lists_tour (root : Node) (test : Node → Bool) :
    Lists root (test · = true) (root.tour.filter fun stop => test stop.2) where
  ordered := root.stops_sorted.filter _
  listed place node := by rw [List.mem_filter, mem_tour]

/-- The calls of a file that was read which keep their local address, and the warnings about the first of
them: each tells where its call starts. -/
theorem kept_calls {draft : Draft} (fresh : draft.Fresh) (bindings : Bindings) : ∃ kept,
    Lists draft.root (Keeps draft.root bindings) kept ∧
      kept.map Prod.snd = draft.root.passing (keepsAddress draft.root bindings) ∧
      ∀ told, told <+: kept.map Prod.snd → List.Forall₂ (Told draft) told
        (told.map fun call => draft.remark draft.activeFix call dialMessage) := by
  have lists := lists_tour draft.root (keepsAddress draft.root bindings)
  simp only [keeps_iff] at lists
  refine ⟨_, lists, ?_, fun told initial => ?_⟩
  · rw [passing, List.filter_map]
    rfl
  · refine List.forall₂_map_right_iff.mpr (List.forall₂_same.mpr fun call present => ?_)
    obtain ⟨⟨place, _⟩, listed, rfl⟩ := List.mem_map.mp (initial.subset present)
    obtain ⟨visits, _⟩ := (lists.listed place _).mp listed
    obtain ⟨start, starts, position⟩ := fresh.current.placed (below_of_visits visits)
    rw [(Grammar.parse_runs (parse_of_file fresh.reads)).1] at starts
    refine ⟨rfl, rfl, start, starts, ?_⟩
    simp only [Draft.remark, position, Option.getD_some]

/-- The transformation of the fix for calls, of a file that was read: what it warns about first, and then the
tree that it puts in the place of the other. -/
theorem run_dial {draft : Draft} (fresh : draft.Fresh) :
    ∃ told, told <+: draft.root.passing (keepsAddress draft.root (collect draft.root netModule)) ∧
      netDial.transform.run draft =
        match draft.root.transform (m := Except Thrown) fun node =>
          .ok (dialRule.answer draft.root (collect draft.root netModule) node) with
        | .error thrown => (.error thrown, draft.reporting dialMessage told)
        | .ok result =>
          let noted := draft.reporting dialMessage (draft.root.passing
            (keepsAddress draft.root (collect draft.root netModule)))
          if result.replaced = 0 then (.ok false, noted) else (.ok true, noted.replaceRoot result.node) := by
  have spanned : draft.root.Spanned := by
    rw [fresh.root]
    exact Grammar.spanned_of_parse (parse_of_file fresh.reads)
  have answers : dialRule.answer draft.root (collect draft.root netModule) =
      redialled draft.root (collect draft.root netModule) :=
    funext fun node => (redialled_eq _ _ node).symm
  rw [run_net_dial, answers, ← fresh.root]
  exact (undialled_reporting draft.root (collect draft.root netModule)).run_transform spanned

end Codemod.Fix
