import Codemod.Proofs.Misreading
import Codemod.Proofs.Passing

/-!
# Arguments in parentheses

Files may differ in positions and in how many parentheses stand around arguments, and around the values of
properties. Their calls and constructions correspond one by one. What a fix does to one it does to the other,
unless it misreads the arguments of one of them. When it misreads nothing, the fix fails on both files or on
neither, replaces the same nodes, warns about the same calls, and leaves trees that differ in such parentheses
alone.
-/
namespace Codemod.Fix

open Syntax Node Imports

/-! ## Twins -/

/-- A node of a file, with the names bound around it, in which a transformation comes to nothing but nodes
with a property. -/
structure Within (root : Node) (property : Node → Prop) (shade : Shade) (node : Node) : Prop where
  stands : At (root.locate []) shade node
  holds : ∀ place target, node.Visits place target → property target

section

variable {root other node a b : Node} {property : Node → Prop} {first second : Node → Prop} {shade : Shade}

/-- What a transformation comes to in a part, it comes to in the whole. -/
theorem Within.part (within : Within root property shade node) {part : Role × Node}
    (present : part ∈ node.parts) (visited : part.1.isVisited node.kind = true) :
    Within root property (shade.under node) part.2 where
  stands := within.stands.child (mem_of_part present)
  holds place target visits := by
    obtain ⟨index, numbered⟩ := List.getElem?_of_mem present
    exact within.holds (index :: place) target (.step numbered visited visits)

/-- What is said of a node in parentheses is said of the node: parentheses are visited as the node is,
and bind no names. -/
theorem Within.shed (within : Within root property shade node) (kind : Kind) (role : Role) :
    Within root property shade (shed kind role node) := by
  rw [Node.shed]
  split
  · refine core_induction (Within root property shade) ?_ within
    intro outer inner encloses around
    have plain := encloses.plain
    have present : (Role.expression, inner) ∈ outer.parts := by
      rw [encloses.parts]
      exact List.mem_cons_self
    have inside := around.part present (List.all_eq_true.mp plain.visited _ present)
    rwa [Rule.under_plain (Rule.of_plain plain).2.1] at inside
  · exact within

/-- Two nodes of files that are the same when they are stripped, in which a transformation comes to nothing
but nodes with certain properties. -/
structure Twins (root other : Node) (first second : Node → Prop) (shade : Shade) (a b : Node) : Prop where
  same : a.stripped = b.stripped
  one : Within root first shade a
  two : Within other second shade b

/-- Twins bind the same names, as these do not depend on parentheses around arguments. -/
theorem Twins.under (twins : Twins root other first second shade a b) : shade.under a = shade.under b := by
  rw [stripped_shading.under (rfl : IsStripped a _), twins.same,
    ← stripped_shading.under (rfl : IsStripped b _)]

/-- The parts of twins are twins, without parentheses that are left out of account. What is left when the
parentheses are taken off is the same on both sides, part by part. -/
theorem Twins.parts (twins : Twins root other first second shade a b) :
    List.Forall₂ (fun p q : Role × Node => p.1 = q.1 ∧ p ∈ a.parts ∧
        (shed a.kind p.1 p.2).stripped = (shed a.kind q.1 q.2).stripped ∧
        (p.1.isVisited a.kind = true → Twins root other first second (shade.under a)
          (shed a.kind p.1 p.2) (shed a.kind q.1 q.2)))
      a.parts b.parts := by
  have related := parts_of_stripped twins.same
  have kind := kind_of_stripped twins.same
  have inSecond : List.Forall₂ (fun p q : Role × Node => q ∈ b.parts ∧ p.1 = q.1 ∧
      (shed a.kind p.1 p.2).stripped = (shed a.kind q.1 q.2).stripped) a.parts b.parts :=
    ((List.forall₂_and_left _ _).mpr ⟨fun _ present => present, related.flip⟩).flip
  refine ((List.forall₂_and_left a.parts b.parts).mpr ⟨fun _ present => present, inSecond⟩).imp ?_
  rintro p q ⟨present, presentToo, role, same⟩
  refine ⟨role, present, same, fun visited => ⟨same, (twins.one.part present visited).shed _ _, ?_⟩⟩
  rw [twins.under]
  exact (twins.two.part presentToo (role ▸ kind ▸ visited)).shed _ _

/-- The part of a node is smaller, with or without parentheses. -/
theorem size_shed_lt {part : Role × Node} (present : part ∈ node.parts) (kind : Kind) :
    (shed kind part.1 part.2).size < node.size :=
  Nat.lt_of_le_of_lt (size_shed_le kind part.1 part.2) (size_lt_of_mem (mem_of_part present))

end

namespace Rule

variable {rule : Rule} {misreads : Misreading} {bindings : Bindings} {shade : Shade}
  {root other a b : Node}

/-- A node whose arguments a rule does not misread, by the scopes of a file. -/
def Reads (rule : Rule) (misreads : Misreading) (bindings : Bindings) (file node : Node) :
    Prop :=
  rule.misreadsAt misreads (resolve file bindings) node = false

/-- Twins of which a rule misreads nothing. -/
abbrev ReadTwins (rule : Rule) (misreads : Misreading) (bindings : Bindings)
    (root other : Node) : Shade → Node → Node → Prop :=
  Twins root other (rule.Reads misreads bindings (root.locate []))
    (rule.Reads misreads bindings (other.locate []))

/-- A node that is not misread by the scopes of its file is not misread by the names bound on the way
down to it. -/
theorem read_of_within (lawful : rule.Lawful) {node : Node}
    (within : Within root (rule.Reads misreads bindings (root.locate [])) shade node) :
    rule.misreadsAt misreads (resolveIn shade bindings) node = false := by
  rw [← misreads_at lawful within.stands]
  exact within.holds [] node (.here node)

/-- Twins that are not misread are renewed alike: both are left, or both are given arguments that are the
same up to parentheses. -/
theorem renewal_of_twins (lawful : rule.Lawful) (reads : rule.Misreads misreads)
    (twins : rule.ReadTwins misreads bindings root other shade a b) :
    Option.Rel SameCores (rule.renewal (resolveIn shade bindings) a)
      (rule.renewal (resolveIn shade bindings) b) :=
  (renewal_of_stripped lawful reads twins.same (read_of_within lawful twins.two)).mpr
    (read_of_within lawful twins.one)

/-- What is hit below one of such twins is hit below the other, if it is in their parts. Both bind the
same names and have parts of the same roles; parentheses around a part hide nothing from the rule. -/
theorem hits_below_of_parts (lawful : rule.Lawful)
    (twins : rule.ReadTwins misreads bindings root other shade a b)
    (each : ∀ p ∈ a.parts, ∀ q : Node,
      rule.ReadTwins misreads bindings root other (shade.under a) (shed a.kind p.1 p.2) q →
        rule.hits bindings (shade.under a) (shed a.kind p.1 p.2) = rule.hits bindings (shade.under a) q) :
    rule.hitsBelow bindings shade a = rule.hitsBelow bindings shade b := by
  have hits_shed (kind : Kind) (role : Role) (node : Node) :
      rule.hits bindings (shade.under a) (shed kind role node) = rule.hits bindings (shade.under a) node := by
    rw [shed]
    split
    · exact hits_core lawful bindings _ node
    · rfl
  rw [hitsBelow, hitsBelow, ← twins.under, ← kind_of_stripped twins.same]
  refine any_of_forall₂ twins.parts ?_
  rintro p present q ⟨role, _, _, alike⟩
  rw [← role]
  cases visited : p.1.isVisited a.kind with
  | false => rfl
  | true =>
    have same := each p present _ (alike visited)
    rw [hits_shed, hits_shed] at same
    rw [same]

/-- What is hit in one of such twins is hit in the other. -/
theorem hits_of_twins (lawful : rule.Lawful) (reads : rule.Misreads misreads) :
    ∀ {shade : Shade} {a b : Node}, rule.ReadTwins misreads bindings root other shade a b →
      rule.hits bindings shade a = rule.hits bindings shade b
  | shade, a, b, twins => by
    have below := hits_below_of_parts lawful twins fun p present q alike => by
      have smaller := size_shed_lt present a.kind
      exact hits_of_twins lawful reads alike
    rw [hits_eq, hits_eq, below, is_some_of_rel (renewal_of_twins lawful reads twins)]
termination_by _ a => a.size

/-- New parts of a node without parentheses that are left out of account. The induction is on the roles
with the children that have them. -/
theorem shed_all_parts (node : Node) (f : Role × Node → Node) :
    shedAll node.kind node.info.layout (node.parts.map f) =
      node.parts.map fun part => shed node.kind part.1 (f part) := by
  rw [Node.parts]
  generalize node.info.layout = roles
  generalize node.children = children
  induction roles generalizing children with
  | nil => rfl
  | cons role roles inductionHypothesis =>
    cases children with
    | nil => rfl
    | cons child children =>
      rw [List.zip_cons_cons, List.map_cons, List.map_cons, shedAll, inductionHypothesis]

/-- Twins of which a rule misreads nothing are the same when they are mended and stripped. The induction is
on the tree; parentheses around a part are mended inside. -/
theorem mend_of_twins (lawful : rule.Lawful) (reads : rule.Misreads misreads) :
    ∀ {shade : Shade} {a b : Node}, rule.ReadTwins misreads bindings root other shade a b →
      (rule.mend bindings shade a).stripped = (rule.mend bindings shade b).stripped
  | shade, a, b, twins => by
    have kind := kind_of_stripped twins.same
    have hit := hits_below_of_parts lawful twins fun _ _ _ => hits_of_twins lawful reads
    have shed_mend (role : Role) (node : Node) :
        (shed a.kind role (rule.mend bindings (shade.under a) node)).stripped =
          (rule.mend bindings (shade.under a) (shed a.kind role node)).stripped := by
      rw [shed, shed]
      split
      · rw [mend_core lawful]
      · rfl
    have inner : (rule.below bindings shade a).stripped = (rule.below bindings shade b).stripped := by
      rw [below, below, hit]
      split
      · have parts := shed_all_parts b fun part =>
          (rule.part bindings (shade.under b) b.kind part).stripped
        rw [← kind, ← layout_of_stripped twins.same, ← twins.under] at parts
        refine refit_of_stripped twins.same ?_
        rw [List.map_map, List.map_map, ← twins.under, ← kind]
        refine (shed_all_parts a _).trans (Eq.trans ?_ parts.symm)
        rw [← List.forall₂_eq_eq_eq, List.forall₂_map_left_iff, List.forall₂_map_right_iff]
        refine twins.parts.imp ?_
        rintro p q ⟨role, present, same, alike⟩
        rw [← role] at same alike ⊢
        rw [Function.comp, shed_stripped, shed_stripped, Rule.part, Rule.part, ← role]
        split
        · rename_i visited
          have smaller := size_shed_lt present a.kind
          rw [shed_mend, shed_mend]
          exact mend_of_twins lawful reads (alike visited)
        · exact same
      · exact twins.same
    have read := (misreads_below lawful reads shade a).trans (read_of_within lawful twins.one)
    have readToo := (misreads_below lawful reads shade b).trans (read_of_within lawful twins.two)
    rw [mend_eq, mend_eq]
    exact applied_of_stripped lawful reads inner read readToo
termination_by _ a => a.size

end Rule

/-! ## What a transformation comes to -/

section

variable {root other a b : Node} {first second : Node → Prop} {shade : Shade}

/-- Whether a tree has a gap does not depend on what is stripped. A node lacks its part with or without
parentheses around others. The recursion is on the tree. -/
theorem gap_stripped : ∀ node : Node, node.stripped.hasGap = node.hasGap
  | node => by
    have complete : node.stripped.isIncomplete = node.isIncomplete := by
      rw [isIncomplete, isIncomplete, kind_stripped]
      by_cases isIndex : node.kind = .indexSignature
      · rcases stripped_like.child .type (rfl : IsStripped node _) (by rw [isIndex]; rfl) with
          ⟨noneA, noneB⟩ | ⟨x, y, someA, someB, _⟩
        · rw [noneA, noneB]
        · rw [someA, someB]
          rfl
      · rw [beq_false_of_ne isIndex, Bool.false_and, Bool.false_and]
    rw [has_gap_eq, has_gap_eq node, complete, kind_stripped, parts_stripped, List.any_map]
    congr 1
    refine any_of_mem fun part present => ?_
    have smaller := size_shed_lt present node.kind
    rw [Function.comp, gap_stripped (shed node.kind part.1 part.2), shed]
    split
    · rw [test_core fun _ => Rule.gap_plain]
    · rfl
termination_by node => node.size

/-- Nothing that is visited in the parentheses around its core passes a test that parentheses do not. The
induction goes through the parentheses from the outside, each of which has one visited part. -/
theorem passing_shed {test : Node → Bool}
    (bare : ∀ node, node.kind = .parenthesizedExpression → test node = false) (kind : Kind) (role : Role)
    (node : Node) : (shed kind role node).passing test = node.passing test := by
  rw [shed]
  split
  · refine core_induction (fun part => part.passing test = node.passing test) ?_ rfl
    intro outer inner encloses same
    have visited : Role.isVisited outer.kind .expression = true := by
      rw [encloses.kind]
      rfl
    rw [← same, passing_eq test outer, bare outer encloses.kind, passingBelow, encloses.parts]
    simp [visited]
  · rfl

/-- The nodes that pass a test in one of two twins correspond to those that pass another in the other, when
the tests agree on twins. -/
theorem passing_of_twins {test further : Node → Bool}
    (bare : ∀ node, node.kind = .parenthesizedExpression → test node = false)
    (bareToo : ∀ node, node.kind = .parenthesizedExpression → further node = false)
    (agree : ∀ {shade : Shade} {a b : Node}, Twins root other first second shade a b →
      test a = further b) :
    ∀ {shade : Shade} {a b : Node}, Twins root other first second shade a b →
      List.Forall₂ (fun x y => ∃ shade, Twins root other first second shade x y) (a.passing test)
        (b.passing further)
  | shade, a, b, twins => by
    rw [passing_eq, passing_eq, agree twins]
    refine List.rel_append ?_ ?_
    · split
      · exact .cons ⟨shade, twins⟩ .nil
      · exact .nil
    · rw [passingBelow, passingBelow]
      refine List.rel_flatMap twins.parts ?_
      rintro p q ⟨role, present, _, alike⟩
      rw [← role] at alike
      dsimp only
      rw [← role, ← kind_of_stripped twins.same]
      split
      · rename_i visited
        have smaller := size_shed_lt present a.kind
        rw [← passing_shed bare a.kind p.1 p.2, ← passing_shed bareToo a.kind p.1 q.2]
        exact passing_of_twins bare bareToo agree (alike visited)
      · exact .nil
termination_by _ a => a.size

end

/-! ## Files that differ in parentheses around arguments -/

/-- A node of a draft whose arguments a rule does not misread. -/
def Rule.ReadsIn (rule : Rule) (misreads : Misreading) (draft : Draft) (node : Node) :
    Prop :=
  rule.Reads misreads (collect draft.root netModule) draft.root node

/-- A draft in whose tree a transformation comes to no arguments that a rule misreads. -/
def Rule.ReadsAll (rule : Rule) (misreads : Misreading) (draft : Draft) : Prop :=
  ∀ place node, draft.root.Visits place node → rule.ReadsIn misreads draft node

section

variable {fix : Fix} {rule : Rule} {misreads : Misreading} {draft other : Draft}

/-- A fix that goes through a tree that lacks a part fails and leaves the tree. -/
theorem run_gap (follows : fix.Follows rule) (fresh : draft.Fresh)
    (bound : fix.name = netAddrKeyed.name → (collect draft.root netModule).isEmpty = false)
    (gap : draft.root.hasGap = true) : (fix.transform.run draft).1 = .error incomplete ∧
      (fix.transform.run draft).2.root = draft.root := by
  obtain ⟨root, here, parsed, whole⟩ := fresh.located
  obtain ⟨added, ran⟩ := run_transform_bound follows bound
  have remade := Rule.transform_file follows.lawful whole (collect draft.root netModule)
  rw [← here] at remade
  rw [parsed, ← here, remade.fails gap] at ran
  rw [ran]
  exact ⟨rfl, rfl⟩

/-- Otherwise it says whether it has something to replace, and leaves the mended tree, up to positions. A
fix goes through the tree unless it binds nothing of the module, in which case there is nothing to
replace either and the tree is its own mended tree. -/
theorem run_whole (follows : fix.Follows rule) (fresh : draft.Fresh)
    (complete : (fix.name = netAddrKeyed.name → (collect draft.root netModule).isEmpty = false) →
      draft.root.hasGap = false) :
    (fix.transform.run draft).1 =
        .ok (rule.hits (collect draft.root netModule) (fun _ => false) draft.root) ∧
      (fix.transform.run draft).2.root.stripped = (rule.mended draft.root).stripped := by
  by_cases bound : fix.name = netAddrKeyed.name → (collect draft.root netModule).isEmpty = false
  · obtain ⟨root, here, parsed, whole⟩ := fresh.located
    obtain ⟨added, ran⟩ := run_transform_bound follows bound
    have remade := Rule.transform_file follows.lawful whole (collect draft.root netModule)
    rw [← here] at remade
    obtain ⟨result, done, same, counted, _⟩ := remade.gives (complete bound)
    rw [parsed, ← here, done] at ran
    dsimp only at ran
    cases hit : rule.hits (collect draft.root netModule) (fun _ => false) draft.root with
    | false =>
      rw [if_pos (counted.mpr hit)] at ran
      rw [ran, Rule.mended, Rule.mend_unhit hit]
      exact ⟨rfl, rfl⟩
    | true =>
      have replaced : result.replaced ≠ 0 := by
        rw [Ne, counted, hit]
        exact Bool.noConfusion
      rw [if_neg replaced] at ran
      rw [ran]
      exact ⟨rfl, stripped_of_unmarked same⟩
  · cases follows with
    | dial => exact absurd (fun impossible => absurd impossible (by decide)) bound
    | keyed =>
      have empty : (collect draft.root netModule).isEmpty = true := by
        by_contra some
        exact bound fun _ => Bool.not_eq_true _ ▸ some
      have unhit := @Rule.hits_unbound keyedRule _ empty (fun _ => false) draft.root
      rw [run_net_addr_keyed, if_pos empty, Rule.mended, Rule.mend_unhit unhit, unhit]
      exact ⟨rfl, rfl⟩

/-- Drafts of files that differ in positions and in parentheses around arguments, and take the same names from
the module. -/
structure AlmostSame (draft other : Draft) : Prop where
  fresh : draft.Fresh
  freshToo : other.Fresh
  same : draft.root.stripped = other.root.stripped
  imports : collect draft.root netModule = collect other.root netModule

/-- The roots of such drafts are twins. Both were just read, and so each of their nodes has its place in
the tree. -/
theorem AlmostSame.twins (files : AlmostSame draft other) : ∃ root second : Node,
    draft.root = root.locate [] ∧ other.root = second.locate [] ∧
      ∀ {property further : Node → Prop},
        (∀ place node, draft.root.Visits place node → property node) →
          (∀ place node, other.root.Visits place node → further node) →
            Twins root second property further (fun _ => false) draft.root other.root := by
  obtain ⟨root, here, _⟩ := files.fresh.located
  obtain ⟨second, there, _⟩ := files.freshToo.located
  refine ⟨root, second, here, there, fun holds holdsToo => ⟨files.same, ⟨?_, holds⟩, ?_, holdsToo⟩⟩
  · rw [here]
    exact At.root _
  · rw [there]
    exact At.root _

/-- A fix that misreads nothing in such drafts answers the same for both, and leaves trees that differ in
positions and in parentheses around arguments. -/
theorem AlmostSame.run (files : AlmostSame draft other) (follows : fix.Follows rule)
    (reads : rule.Misreads misreads) (read : rule.ReadsAll misreads draft)
    (readToo : rule.ReadsAll misreads other) :
    (fix.transform.run draft).1 = (fix.transform.run other).1 ∧
      (fix.transform.run draft).2.root.stripped = (fix.transform.run other).2.root.stripped := by
  obtain ⟨root, second, here, there, twins⟩ := files.twins
  have alike : rule.ReadTwins misreads (collect other.root netModule) root second (fun _ => false) draft.root
      other.root := by
    refine twins (fun place node visits => ?_) fun place node visits => ?_
    · rw [← here, ← files.imports]
      exact read place node visits
    · rw [← there]
      exact readToo place node visits
  have gap : draft.root.hasGap = other.root.hasGap := by
    rw [← gap_stripped, files.same, gap_stripped]
  by_cases passes : (fix.name = netAddrKeyed.name → (collect draft.root netModule).isEmpty = false) →
      draft.root.hasGap = false
  · have passesToo := passes
    rw [files.imports, gap] at passesToo
    obtain ⟨answer, tree⟩ := run_whole follows files.fresh passes
    obtain ⟨answerToo, treeToo⟩ := run_whole follows files.freshToo passesToo
    have hits := Rule.hits_of_twins follows.lawful reads alike
    have mends := Rule.mend_of_twins follows.lawful reads alike
    rw [answer, answerToo, tree, treeToo, Rule.mended, Rule.mended, files.imports, hits]
    exact ⟨rfl, mends⟩
  · obtain ⟨bound, gapped⟩ := Classical.not_imp.mp passes
    rw [Bool.not_eq_false] at gapped
    have boundToo := bound
    rw [files.imports] at boundToo
    obtain ⟨answer, tree⟩ := run_gap follows files.fresh bound gapped
    obtain ⟨answerToo, treeToo⟩ := run_gap follows files.freshToo boundToo (gap ▸ gapped)
    rw [answer, answerToo, tree, treeToo]
    exact ⟨rfl, files.same⟩

/-- Nodes of two drafts that are the same up to positions and parentheses around arguments. Where a fix does
not misread the arguments of the second, it does the same to the first exactly when it does not misread its
arguments either. -/
structure Corresponds (draft other : Draft) (a b : Node) : Prop where
  same : a.stripped = b.stripped
  rekeyed : keyedRule.ReadsIn keyedMisreads other b →
    ((keyed draft.root (collect draft.root netModule) a).map stripped =
        (keyed other.root (collect other.root netModule) b).map stripped ↔
      keyedRule.ReadsIn keyedMisreads draft a)
  redialled : dialRule.ReadsIn dialMisreads other b →
    ((Fix.redialled draft.root (collect draft.root netModule) a).map stripped =
        (Fix.redialled other.root (collect other.root netModule) b).map stripped ↔
      dialRule.ReadsIn dialMisreads draft a)
  warned : dialRule.ReadsIn dialMisreads other b →
    (keepsAddress draft.root (collect draft.root netModule) a =
        keepsAddress other.root (collect other.root netModule) b ↔
      dialRule.ReadsIn dialMisreads draft a)

/-- Calls that are both warned about, or both not, lose the same argument or none. What is dropped is the
argument in the middle, so that the first and the last are left on both sides; and a call that is warned
about drops nothing. -/
theorem rel_of_kept {file second a b : Node} {bindings bound : Bindings}
    (cores : SameCores (a.items .arguments) (b.items .arguments))
    (dials : isDial file bindings a = isDial second bound b)
    (kept : (isDial file bindings a && (dialRule.renewal (resolve file bindings) a).isNone) =
      (isDial second bound b && (dialRule.renewal (resolve second bound) b).isNone)) :
    Option.Rel SameCores (dialRule.renewal (resolve file bindings) a)
      (dialRule.renewal (resolve second bound) b) := by
  have called {file node : Node} {bindings : Bindings} {arguments : List Node}
      (renews : dialRule.renewal (resolve file bindings) node = some arguments) :
      isDial file bindings node = true := by
    obtain ⟨network, localAddress, address, dials, _⟩ := renewal_dial_iff.mp renews
    exact is_dial_iff.mpr ⟨network, localAddress, address, dials⟩
  cases renews : dialRule.renewal (resolve file bindings) a with
  | none =>
    cases otherRenews : dialRule.renewal (resolve second bound) b with
    | none => exact .none
    | some ys =>
      rw [dials, called otherRenews, renews, otherRenews] at kept
      cases kept
  | some xs =>
    cases otherRenews : dialRule.renewal (resolve second bound) b with
    | none =>
      rw [← dials, called renews, renews, otherRenews] at kept
      cases kept
    | some ys =>
      obtain ⟨network, localAddress, address, dials, _, rfl⟩ := renewal_dial_iff.mp renews
      obtain ⟨_, _, _, others, _, rfl⟩ := renewal_dial_iff.mp otherRenews
      rw [dials.arguments, others.arguments] at cores
      rcases cores with _ | ⟨first, _ | ⟨_, third⟩⟩
      exact .some (.cons first third)

/-- Calls and constructions at corresponding places of such drafts correspond. Both are renewed by what
they refer to and by their arguments, which are the same up to parentheses, unless the arguments of one
of them are misread. -/
theorem AlmostSame.corresponds (files : AlmostSame draft other) {root second a b : Node} {shade : Shade}
    (here : draft.root = root.locate []) (there : other.root = second.locate [])
    (same : a.stripped = b.stripped) (isApplied : Rule.isApplication a.kind = true)
    (stands : At (root.locate []) shade a) (standsToo : At (second.locate []) shade b) :
    Corresponds draft other a b := by
  have isAppliedToo : Rule.isApplication b.kind = true := kind_of_stripped same ▸ isApplied
  have given (node : Node) (arguments : List Node) :
      (withArguments node arguments).stripped = (node.given arguments).stripped := by
    rw [withArguments, given, stripped_mk, stripped_mk]
    rfl
  have renewals {rule : Rule} {misreads : Misreading} (lawful : rule.Lawful)
      (reads : rule.Misreads misreads) (read : rule.ReadsIn misreads other b) :
      Option.Rel SameCores (rule.renewal (resolve draft.root (collect draft.root netModule)) a)
          (rule.renewal (resolve other.root (collect other.root netModule)) b) ↔
        rule.ReadsIn misreads draft a := by
    rw [Rule.ReadsIn, Rule.Reads, there, Rule.misreads_at lawful standsToo, ← there] at read
    rw [Rule.ReadsIn, Rule.Reads, files.imports, here, there, Rule.misreads_at lawful stands,
      Rule.renewal_at lawful stands, Rule.renewal_at lawful standsToo, ← there]
    exact Rule.renewal_of_stripped lawful reads same read
  have results {rule : Rule} {misreads : Misreading} (lawful : rule.Lawful)
      (reads : rule.Misreads misreads) (read : rule.ReadsIn misreads other b) :
      ((rule.renewal (resolve draft.root (collect draft.root netModule)) a).map (withArguments a)).map
            stripped =
          ((rule.renewal (resolve other.root (collect other.root netModule)) b).map
            (withArguments b)).map stripped ↔
        rule.ReadsIn misreads draft a := by
    rw [← renewals lawful reads read, Rule.results_iff isApplied same, Option.map_map, Option.map_map]
    simp only [Function.comp_def, given]
  refine ⟨same, ?_, ?_, ?_⟩
  · rw [keyed_eq, keyed_eq]
    exact results keyed_lawful keyed_misreads
  · rw [redialled_eq, redialled_eq]
    exact results dial_lawful dial_misreads
  · intro read
    have related := renewals dial_lawful dial_misreads read
    have dials : isDial draft.root (collect draft.root netModule) a =
        isDial other.root (collect other.root netModule) b := by
      rw [isDial, isDial, kind_of_stripped same,
        (Rule.arguments_of_stripped isApplied same).length_eq, files.imports, here, there,
        Rule.callee_at isApplied stands, Rule.callee_at isAppliedToo standsToo,
        Rule.callee_of_stripped isApplied same]
    rw [keepsAddress, keepsAddress, ← related, redialled_eq, redialled_eq, Option.isNone_map,
      Option.isNone_map]
    refine ⟨fun kept => rel_of_kept (Rule.arguments_of_stripped isApplied same) dials kept, fun related => ?_⟩
    rw [dials, ← Option.not_isSome, ← Option.not_isSome, is_some_of_rel related]

/-- The transformation of a fix adds these warnings to a draft, or an initial part of them when it fails. -/
structure Warns (fix : Fix) (draft : Draft) (warnings : List Warning) : Prop where
  all : ∀ replaced, (fix.transform.run draft).1 = .ok replaced →
    (fix.transform.run draft).2.warnings = draft.warnings ++ warnings
  initial : ∃ told, told <+: warnings ∧ (fix.transform.run draft).2.warnings = draft.warnings ++ told

/-- A fix does the same to two drafts, up to positions and parentheses around arguments: it answers the same,
leaves trees that are the same so far, and warns about corresponding calls in the same order. -/
structure RunsAlike (fix : Fix) (draft other : Draft) : Prop where
  answer : (fix.transform.run draft).1 = (fix.transform.run other).1
  tree : (fix.transform.run draft).2.root.stripped = (fix.transform.run other).2.root.stripped
  warned : ∃ calls others warnings further, List.Forall₂ (Corresponds draft other) calls others ∧
    List.Forall₂ (Told draft) calls warnings ∧ List.Forall₂ (Told other) others further ∧
    Warns fix draft warnings ∧ Warns fix other further

/-- The fix for constructions warns about nothing. -/
theorem warns_keyed (draft : Draft) : Warns netAddrKeyed draft [] := by
  have silent : (netAddrKeyed.transform.run draft).2.warnings = draft.warnings := by
    cases bound : (collect draft.root netModule).isEmpty with
    | true => rw [run_net_addr_keyed, if_pos bound]
    | false =>
      rw [run_keyed bound]
      split
      · rfl
      · split <;> rfl
  rw [← List.append_nil draft.warnings] at silent
  exact ⟨fun _ _ => silent, [], List.prefix_rfl, silent⟩

/-- The fix for calls warns about the calls that keep their local address, where these start. The
warnings are those about the stops of the tour at such calls, whether or not the fix finishes; each of
them tells the position of its call in the text that was read. -/
theorem warns_dial (fresh : draft.Fresh) : ∃ warnings,
    List.Forall₂ (Told draft)
        (draft.root.passing (keepsAddress draft.root (collect draft.root netModule))) warnings ∧
      Warns netDial draft warnings := by
  obtain ⟨kept, _, named, places⟩ := kept_calls fresh (collect draft.root netModule)
  obtain ⟨told, initial, ran⟩ := run_dial fresh
  simp only [Draft.reporting_eq] at ran
  have all := places _ List.prefix_rfl
  rw [named] at all
  refine ⟨_, all, ?_⟩
  cases transformed : draft.root.transform (m := Except Thrown) fun node =>
      .ok (dialRule.answer draft.root (collect draft.root netModule) node) with
  | error thrown =>
    rw [transformed] at ran
    refine ⟨fun _ done => ?_, _, initial.map _, by rw [ran]; rfl⟩
    rw [ran] at done
    cases done
  | ok result =>
    rw [transformed] at ran
    have noted : (netDial.transform.run draft).2.warnings = draft.warnings ++
        (draft.root.passing (keepsAddress draft.root (collect draft.root netModule))).map fun call =>
          draft.remark draft.activeFix call dialMessage := by
      rw [ran]
      dsimp only
      split <;> rfl
    exact ⟨fun _ _ => noted, _, List.prefix_rfl, noted⟩

/-- Twins in such drafts correspond when they are calls or constructions. A call or construction has the
place that its own text has, and what is in front of it is the same in both files. -/
theorem AlmostSame.paired (files : AlmostSame draft other) {root second : Node}
    {property further : Node → Prop} (here : draft.root = root.locate [])
    (there : other.root = second.locate []) {test : Node → Bool}
    (applied : ∀ node, test node = true → Rule.isApplication node.kind = true)
    {others : List Node} (paired : List.Forall₂ (fun a b => ∃ shade,
      Twins root second property further shade a b) (draft.root.passing test) others) :
    List.Forall₂ (Corresponds draft other) (draft.root.passing test) others := by
  have passed : ∀ node ∈ draft.root.passing test, Rule.isApplication node.kind = true :=
    fun node present => applied node (List.mem_filter.mp present).2
  refine ((List.forall₂_and_left _ _).mpr ⟨passed, paired⟩).imp ?_
  rintro a b ⟨isApplied, shade, twins⟩
  exact files.corresponds here there twins.same isApplied twins.one.stands twins.two.stands

/-- What is no call is not warned about. -/
theorem keeps_other {file node : Node} {bindings : Bindings} (notCall : node.kind ≠ .callExpression) :
    keepsAddress file bindings node = false :=
  Bool.eq_false_iff.mpr fun keeps => notCall (keeps_call keeps)

/-- The calls that are warned about in such drafts correspond, when no local address is misread. A call
is warned about for what its arguments are up to parentheses, and that is the same in twins. -/
theorem AlmostSame.kept (files : AlmostSame draft other) (read : dialRule.ReadsAll dialMisreads draft)
    (readToo : dialRule.ReadsAll dialMisreads other) :
    List.Forall₂ (Corresponds draft other)
      (draft.root.passing (keepsAddress draft.root (collect draft.root netModule)))
      (other.root.passing (keepsAddress other.root (collect other.root netModule))) := by
  obtain ⟨root, second, here, there, twins⟩ := files.twins
  have bare {file : Node} {bindings : Bindings} (node : Node)
      (isParenthesis : node.kind = .parenthesizedExpression) : keepsAddress file bindings node = false :=
    keeps_other (by rw [isParenthesis]; decide)
  refine files.paired here there (fun node keeps => ?_) (passing_of_twins bare bare ?_ (twins read readToo))
  · rw [keeps_call keeps]
    rfl
  · intro shade a b alike
    by_cases isCall : a.kind = .callExpression
    · have isApplied : Rule.isApplication a.kind = true := by rw [isCall]; rfl
      exact ((files.corresponds here there alike.same isApplied alike.one.stands alike.two.stands).warned
        (alike.two.holds [] b (.here b))).mpr (alike.one.holds [] a (.here a))
    · rw [keeps_other isCall, keeps_other (kind_of_stripped alike.same ▸ isCall)]

/-- The calls and constructions of such drafts correspond. The kind of a node that is no parenthesis is
the same in twins. -/
theorem AlmostSame.constructs (files : AlmostSame draft other) :
    List.Forall₂ (Corresponds draft other)
      (draft.root.passing fun node => Rule.isApplication node.kind)
      (other.root.passing fun node => Rule.isApplication node.kind) := by
  obtain ⟨root, second, here, there, twins⟩ := files.twins
  have bare (node : Node) (isParenthesis : node.kind = .parenthesizedExpression) :
      Rule.isApplication node.kind = false := by
    rw [isParenthesis]
    rfl
  have alike := @twins (fun _ => True) (fun _ => True) (fun _ _ _ => trivial) fun _ _ _ => trivial
  refine files.paired here there (fun _ => id) (passing_of_twins bare bare ?_ alike)
  intro shade a b alike
  rw [kind_of_stripped alike.same]

/-- Two files that differ only in positions and in how many parentheses stand around arguments and values of
properties, and take the same names from the module. Their calls and constructions correspond one by one, and
a fix does the same to both of two that correspond unless it misreads the arguments of one of them, which it
does not where none stands in parentheses. When it misreads none in either file, it does the same to both
files. -/
theorem enclosed_arguments_alike (fresh : draft.Fresh) (freshToo : other.Fresh)
    (same : draft.root.stripped = other.root.stripped)
    (imports : collect draft.root netModule = collect other.root netModule) :
    List.Forall₂ (Corresponds draft other)
        (draft.root.passing fun node => Rule.isApplication node.kind)
        (other.root.passing fun node => Rule.isApplication node.kind) ∧
      (∀ node : Node, (∀ argument ∈ node.items .arguments, ∀ inner, ¬Encloses argument inner) →
        keyedRule.ReadsIn keyedMisreads other node ∧ dialRule.ReadsIn dialMisreads other node) ∧
      (keyedRule.ReadsAll keyedMisreads draft → keyedRule.ReadsAll keyedMisreads other →
        RunsAlike netAddrKeyed draft other) ∧
      (dialRule.ReadsAll dialMisreads draft → dialRule.ReadsAll dialMisreads other →
        RunsAlike netDial draft other) := by
  have files : AlmostSame draft other := ⟨fresh, freshToo, same, imports⟩
  refine ⟨files.constructs, fun node bare => ?_, fun read readToo => ?_, fun read readToo => ?_⟩
  · have cores (argument : Node) (present : argument ∈ node.items .arguments) : argument.core = argument :=
      core_of_bare (bare argument present)
    exact ⟨Rule.misreads_bare keyed_misreads cores _, Rule.misreads_bare dial_misreads cores _⟩
  · obtain ⟨answer, tree⟩ := files.run .keyed keyed_misreads read readToo
    exact ⟨answer, tree, [], [], [], [], .nil, .nil, .nil, warns_keyed draft, warns_keyed other⟩
  · obtain ⟨answer, tree⟩ := files.run .dial dial_misreads read readToo
    obtain ⟨warnings, told, warns⟩ := warns_dial fresh
    obtain ⟨further, toldToo, warnsToo⟩ := warns_dial freshToo
    exact ⟨answer, tree, _, _, warnings, further, files.kept read readToo, told, toldToo, warns, warnsToo⟩

end

/-- Nothing in a file is misread exactly if the test finds nothing at the nodes of the tour. -/
theorem reads_all_iff {rule : Rule} {misreads : Misreading} {draft : Draft} : rule.ReadsAll misreads draft ↔
    (draft.root.tour.all fun stop => !rule.misreadsAt misreads
      (resolve draft.root (collect draft.root netModule)) stop.2) = true := by
  simp only [List.all_eq_true, Prod.forall, mem_tour, Bool.not_eq_true', Rule.ReadsAll, Rule.ReadsIn,
    Rule.Reads]

instance {rule : Rule} {misreads : Misreading} {draft : Draft} : Decidable (rule.ReadsAll misreads draft) :=
  decidable_of_iff _ reads_all_iff.symm

/-- Whether the same names are bound; field by field, so that it can be evaluated on files to be read. -/
def sameNames (bindings bound : Bindings) : Bool :=
  bindings.namespaces == bound.namespaces && bindings.named == bound.named

/-- Names that the test finds the same are the same. -/
theorem eq_of_same_names {bindings bound : Bindings} (same : sameNames bindings bound = true) :
    bindings = bound := by
  obtain ⟨_, _⟩ := bindings
  obtain ⟨_, _⟩ := bound
  simp only [sameNames, Bool.and_eq_true, beq_iff_eq] at same
  rw [same.1, same.2]

/-- Whether two texts are read as drafts of files that differ only in positions and in parentheses around
arguments, take the same names from the module, and pass a test. -/
def compared (one two : String) (test : Draft → Draft → Bool) : Bool :=
  (Draft.parse "/a.ts" one).toOption.any fun draft =>
    (Draft.parse "/a.ts" two).toOption.any fun other =>
      draft.root.stripped.sameAs other.root.stripped &&
        sameNames (collect draft.root netModule) (collect other.root netModule) && test draft other

/-- Two such files. -/
theorem drafts_of_compared {one two : String} {test : Draft → Draft → Bool}
    (checked : compared one two test = true) : ∃ draft other, Draft.parse "/a.ts" one = .ok draft ∧
      Draft.parse "/a.ts" two = .ok other ∧ draft.root.stripped = other.root.stripped ∧
      collect draft.root netModule = collect other.root netModule ∧ test draft other = true := by
  obtain ⟨draft, opened, found⟩ := ok_of_any checked
  obtain ⟨other, openedToo, found⟩ := ok_of_any found
  rw [Bool.and_eq_true, Bool.and_eq_true] at found
  exact ⟨draft, other, opened, openedToo, eq_of_same_as found.1.1, eq_of_same_names found.1.2, found.2⟩

/-- Whether the transformation of a fix answers this on a draft, and what it leaves passes a test. -/
def answered (fix : Fix) (replaced : Bool) (test : Draft → Bool) (draft : Draft) : Bool :=
  (fix.transform.run draft).1.toOption.any (· == replaced) && test (fix.transform.run draft).2

/-- A transformation that passes the test answers as said. -/
theorem run_of_answered {fix : Fix} {replaced : Bool} {test : Draft → Bool} {draft : Draft}
    (passed : answered fix replaced test draft = true) :
    ∃ left, fix.transform.run draft = (.ok replaced, left) ∧ test left = true := by
  rw [answered, Bool.and_eq_true] at passed
  obtain ⟨answer, ran, agrees⟩ := ok_of_any passed.1
  exact ⟨_, Prod.ext (ran.trans (congrArg _ (eq_of_beq agrees))) rfl, passed.2⟩

/-- A construction with arguments in parentheses, which are calls with arguments in parentheses. None of them
is misread. -/
def enclosedArguments : String :=
  "import n from\"net\";new n.UDPAddr((n.dial(c,(l),d)),(n.dial((c),\"\",d)))"

/-- The construction without these parentheses. -/
def bareArguments : String :=
  "import n from\"net\";new n.UDPAddr(n.dial(c,l,d),n.dial(c,\"\",d))"

/-- The construction with keys for its arguments. -/
def enclosedKeyed : String :=
  "import n from \"net\";\nnew n.UDPAddr(\x7b IP: (n.dial(c, (l), d)), Port: (n.dial((c), \"\", d)) \x7d);\n"

/-- The construction with the call that had an empty address replaced. -/
def enclosedDialled : String :=
  "import n from \"net\";\nnew n.UDPAddr((n.dial(c, (l), d)), (n.dial((c), d)));\n"

/-- Both fixes do the same to both files: the construction is given keys, one call loses its empty address,
and the other is warned about. -/
theorem enclosed_changed_alike : ∃ draft other, Draft.parse "/a.ts" enclosedArguments = .ok draft ∧
    Draft.parse "/a.ts" bareArguments = .ok other ∧
    RunsAlike netAddrKeyed draft other ∧ (netAddrKeyed.transform.run draft).2.render = enclosedKeyed ∧
    RunsAlike netDial draft other ∧ (netDial.transform.run draft).2.render = enclosedDialled ∧
    (netDial.transform.run draft).2.warnings.length = 1 := by
  have checked : compared enclosedArguments bareArguments (fun draft other =>
      decide (keyedRule.ReadsAll keyedMisreads draft) && decide (keyedRule.ReadsAll keyedMisreads other) &&
        (netAddrKeyed.transform.run draft).2.render == enclosedKeyed &&
        decide (dialRule.ReadsAll dialMisreads draft) && decide (dialRule.ReadsAll dialMisreads other) &&
        (netDial.transform.run draft).2.render == enclosedDialled &&
        (netDial.transform.run draft).2.warnings.length == 1) = true := by
    decide +kernel
  obtain ⟨draft, other, opened, openedToo, same, imports, passed⟩ := drafts_of_compared checked
  simp only [Bool.and_eq_true, decide_eq_true_eq, beq_iff_eq] at passed
  obtain ⟨⟨⟨⟨⟨⟨keyedOne, keyedTwo⟩, keys⟩, dialOne⟩, dialTwo⟩, dials⟩, warned⟩ := passed
  obtain ⟨fresh, _⟩ := Draft.fresh_of_parse opened
  obtain ⟨freshToo, _⟩ := Draft.fresh_of_parse openedToo
  obtain ⟨_, _, keyed, redialled⟩ := enclosed_arguments_alike fresh freshToo same imports
  exact ⟨draft, other, opened, openedToo, keyed keyedOne keyedTwo, keys, redialled dialOne dialTwo, dials,
    warned⟩

/-- A construction that has its key already and a call with an empty address, both in parentheses. -/
def hiddenArguments : String :=
  "import n from\"net\";new n.IPAddr((\x7bIP:n.dial(c,(\"\"),d)\x7d))"

/-- The same without the parentheses. -/
def plainArguments : String :=
  "import n from\"net\";new n.IPAddr(\x7bIP:n.dial(c,\"\",d)\x7d)"

/-- The construction with a key within its key. -/
def hiddenKeyed : String :=
  "import n from \"net\";\nnew n.IPAddr(\x7b IP: (\x7b IP: n.dial(c, (\"\"), d) \x7d) \x7d);\n"

/-- In parentheses a construction that has its key is given it again, and a call with an empty address is
warned about. Without the parentheses the construction is left alone, and the call loses its empty address. -/
theorem hidden_arguments_misread : ∃ draft other, Draft.parse "/a.ts" hiddenArguments = .ok draft ∧
    Draft.parse "/a.ts" plainArguments = .ok other ∧ draft.root.stripped = other.root.stripped ∧
    collect draft.root netModule = collect other.root netModule ∧
    (∃ left, netAddrKeyed.transform.run draft = (.ok true, left) ∧ left.render = hiddenKeyed) ∧
    (netAddrKeyed.transform.run other).1 = .ok false ∧
    (∃ left, netDial.transform.run draft = (.ok false, left) ∧ left.warnings.length = 1) ∧
    (∃ left, netDial.transform.run other = (.ok true, left) ∧ left.warnings = []) := by
  have keyed : compared hiddenArguments plainArguments (fun draft other =>
      answered netAddrKeyed true (·.render == hiddenKeyed) draft &&
        answered netAddrKeyed false (fun _ => true) other &&
        answered netDial false (·.warnings.length == 1) draft &&
        answered netDial true (·.warnings.isEmpty) other) = true := by
    decide +kernel
  obtain ⟨draft, other, opened, openedToo, same, imports, passed⟩ := drafts_of_compared keyed
  simp only [Bool.and_eq_true] at passed
  obtain ⟨⟨⟨keyed, unkeyed⟩, kept⟩, redialled⟩ := passed
  obtain ⟨keyedLeft, keyed, shown⟩ := run_of_answered keyed
  obtain ⟨_, unkeyed, _⟩ := run_of_answered unkeyed
  obtain ⟨keptLeft, kept, warned⟩ := run_of_answered kept
  obtain ⟨left, redialled, silent⟩ := run_of_answered redialled
  exact ⟨draft, other, opened, openedToo, same, imports, ⟨keyedLeft, keyed, eq_of_beq shown⟩,
    congrArg Prod.fst unkeyed, ⟨keptLeft, kept, eq_of_beq warned⟩,
    ⟨left, redialled, List.isEmpty_iff.mp silent⟩⟩

end Codemod.Fix
