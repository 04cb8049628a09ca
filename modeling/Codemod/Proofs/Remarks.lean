import Codemod.Proofs.Calls
import Codemod.Proofs.Lifecycle
import Codemod.Proofs.Visiting
import Mathlib.Data.List.Forall2

/-!
# Warnings of the last pass

Warnings are dropped when a pass begins, and the last pass changes nothing. So the warnings that an
outcome reports are those of the last pass, fix by fix in the order of the list, and all of them are about
nodes of one tree: the one that the final text is read as. The line and the column of a warning are where
the node that it was raised about starts in that text.

This holds of fixes whose calls, where they keep the tree, do nothing to the warnings but raise some about
nodes of the tree which they are given, and keep the name of the running fix. A fix that changed the tree
before it warned is not concerned: the pass in which it did so was not the last. One that has another fix
named warns in the name of that fix, and one that drops the warnings drops those of the fixes before it.
-/
namespace Codemod

open Syntax FixedPoint

/-- The draft with warnings about some nodes. -/
def Draft.remarked (draft : Draft) (remarks : List (Node × String)) : Draft :=
  remarks.foldl (fun draft remark => draft.warned draft.generation remark.1 remark.2) draft

/-- Remarks made one after the other are made together. -/
theorem Draft.remarked_append (draft : Draft) (first second : List (Node × String)) :
    (draft.remarked first).remarked second = draft.remarked (first ++ second) := by
  simp only [Draft.remarked, List.foldl_append]

/-- A warning tells the name of the running fix and a place; other warnings do not matter for that. -/
theorem Draft.remarked_eq (draft : Draft) (remarks : List (Node × String)) :
    draft.remarked remarks =
      draft.noting (remarks.map fun remark => draft.remark draft.activeFix remark.1 remark.2) := by
  induction remarks generalizing draft with
  | nil => simp [Draft.remarked]
  | cons remark rest inductionHypothesis =>
    have first : draft.remarked (remark :: rest) =
        (draft.noting [draft.remark draft.activeFix remark.1 remark.2]).remarked rest := rfl
    rw [first, inductionHypothesis, Draft.noting_noting]
    rfl

/-- A node that stands in another. -/
def Syntax.Node.Holds (node inner : Node) : Prop :=
  ∃ place, node.below? place = some inner

/-- What stands in a child of a node stands in the node. -/
theorem Syntax.Node.Holds.of_child {node child inner : Node} (present : child ∈ node.children)
    (holds : child.Holds inner) : node.Holds inner := by
  obtain ⟨place, found⟩ := holds
  obtain ⟨index, numbered⟩ := List.mem_iff_getElem?.mp present
  exact ⟨index :: place, by rw [Node.below_cons, numbered]; exact found⟩

/-- A computation that warns as is noted: where it keeps the tree, it keeps the name of the running fix, and
what it does to the warnings is to raise one about each noted node in turn. All these are nodes of the
tree that it is given. -/
def Edit.WarnsAs {α : Type} (edit : Edit α) (noted : Draft → List (Node × String)) : Prop :=
  ∀ draft value left, edit.run draft = (.ok value, left) → left.revision = draft.revision →
    left.activeFix = draft.activeFix ∧
      left.warnings = (draft.remarked (noted draft)).warnings ∧
      ∀ remark ∈ noted draft, draft.root.Holds remark.1

/-- A computation that, where it keeps the tree, keeps the name of the running fix and does nothing to
the warnings but raise some about nodes of the tree. -/
def Edit.Remarks {α : Type} (edit : Edit α) : Prop :=
  ∀ draft value left, edit.run draft = (.ok value, left) → left.revision = draft.revision →
    left.activeFix = draft.activeFix ∧
      ∃ remarks : List (Node × String), (∀ remark ∈ remarks, draft.root.Holds remark.1) ∧
        left.warnings = (draft.remarked remarks).warnings

/-- What such a computation warns about can be noted: there is one run on each draft. For each draft the
remarks of its one run are chosen, and none where it does not end. -/
theorem Edit.Remarks.warns {α : Type} {edit : Edit α} (remarks : edit.Remarks) :
    ∃ noted, edit.WarnsAs noted := by
  have each (draft : Draft) : ∃ listed : List (Node × String), ∀ value left,
      edit.run draft = (.ok value, left) → left.revision = draft.revision →
        left.activeFix = draft.activeFix ∧ left.warnings = (draft.remarked listed).warnings ∧
          ∀ remark ∈ listed, draft.root.Holds remark.1 := by
    by_cases quiet : ∃ value left, edit.run draft = (.ok value, left) ∧ left.revision = draft.revision
    · obtain ⟨value, left, ran, still⟩ := quiet
      obtain ⟨active, listed, held, warnings⟩ := remarks draft value left ran still
      refine ⟨listed, ?_⟩
      intro _ _ also _
      cases ran.symm.trans also
      exact ⟨active, warnings, held⟩
    · refine ⟨[], ?_⟩
      intro value left ran still
      exact absurd ⟨value, left, ran, still⟩ quiet
  exact Classical.skolem.mp each

/-- A fix whose calls warn as is noted, and whose test does not change the tree. -/
structure Fix.WarnsAs (fix : Fix) (noted : Fix.Call → Draft → List (Node × String)) : Prop
    extends fix.Orderly where
  calls : ∀ call, (fix.called call).WarnsAs (noted call)

/-- A fix both of whose calls warn only about nodes of the tree that they are given. What they warn about
can be noted call by call. -/
theorem Fix.Orderly.warns {fix : Fix} (orderly : fix.Orderly) (tests : fix.precondition.Remarks)
    (transforms : fix.transform.Remarks) : ∃ noted, fix.WarnsAs noted := by
  have each (call : Fix.Call) : ∃ noted, (fix.called call).WarnsAs noted := by
    cases call with
    | test => exact tests.warns
    | transform => exact transforms.warns
  obtain ⟨noted, warns⟩ := Classical.skolem.mp each
  exact ⟨noted, orderly, warns⟩

/-- A remark of a fix: the node that it is about and what it says. -/
structure Remark where
  fix : String
  node : Node
  message : String

/-- A remark in the name of a fix. -/
def Remark.by (fix : Fix) (remark : Node × String) : Remark where
  fix := fix.name
  node := remark.1
  message := remark.2

/-- The warning that tells a remark about a node of the tree of a draft: it carries the name of the fix and
the message, and its line and column are where that node starts in the text, counted from one. -/
structure Warning.Tells (warning : Warning) (remark : Remark) (draft : Draft) : Prop where
  fix : warning.fix = remark.fix
  message : warning.message = remark.message
  line : 1 ≤ warning.line
  column : 1 ≤ warning.column
  held : draft.root.Holds remark.node
  place : ∃ start, remark.node.start? (Source.ofString draft.text) = some start ∧
    (Source.ofString draft.text).reached start = { line := warning.line, column := warning.column }

namespace FixedPoint

/-- What a fix remarks in a turn in which it does not fire: what its test notes on the draft that it is
given, and, when the test agrees, what its transformation notes on what the test left. -/
inductive Remarked (fix : Fix) (noted : Fix.Call → Draft → List (Node × String)) (draft : Draft) :
    List (Node × String) → Draft → Prop where
  | refused {left : Draft}
      (tested : fix.precondition.run (draft.running fix.name) = (.ok false, left)) :
    Remarked fix noted draft (noted .test (draft.running fix.name)) (left.running "")
  | idle {middle left : Draft}
      (tested : fix.precondition.run (draft.running fix.name) = (.ok true, middle))
      (transformed : fix.transform.run middle = (.ok false, left))
      (kept : left.revision = draft.revision) :
    Remarked fix noted draft (noted .test (draft.running fix.name) ++ noted .transform middle)
      (left.running "")

/-- A pass in which no fix fires, with what the fixes remark in it, one fix after another. -/
inductive Recorded (noted : Fix → Fix.Call → Draft → List (Node × String)) :
    List Fix → Draft → List Remark → Draft → Prop where
  | done (draft : Draft) : Recorded noted [] draft [] draft
  | turn {fix : Fix} {rest : List Fix} {draft next last : Draft} {remarks : List (Node × String)}
      {later : List Remark} (remarked : Remarked fix (noted fix) draft remarks next)
      (more : Recorded noted rest next later last) :
    Recorded noted (fix :: rest) draft (remarks.map (Remark.by fix) ++ later) last

/-- A fix that does not fire remarks something, if only nothing at all. -/
theorem Behaves.remarked {fix : Fix} (noted : Fix.Call → Draft → List (Node × String))
    {draft next : Draft} (behaves : Behaves fix draft false next) :
    ∃ remarks, Remarked fix noted draft remarks next := by
  cases behaves with
  | refused asked =>
    cases asked with
    | refused tested => exact ⟨_, .refused tested⟩
  | idle asked kept =>
    cases asked with
    | answered tested transformed => exact ⟨_, .idle tested transformed kept⟩

/-- So does a pass in which no fix fires. The induction is on the fixes, none of which fires, so that
each turn leaves its own remarks. -/
theorem Through.recorded {fixes : List Fix} (noted : Fix → Fix.Call → Draft → List (Node × String))
    {draft last : Draft} (through : Through fixes draft [] last) :
    ∃ remarks, Recorded noted fixes draft remarks last := by
  induction fixes generalizing draft with
  | nil =>
    cases through
    exact ⟨[], .done _⟩
  | cons fix rest inductionHypothesis =>
    cases through with
    | rested behaves more =>
      obtain ⟨remarks, remarked⟩ := behaves.remarked (noted fix)
      obtain ⟨later, recorded⟩ := inductionHypothesis more
      exact ⟨_, .turn remarked recorded⟩

end FixedPoint

/-- A warning about a node of the tree of a current draft gives the place of the node. The position of
the node is found from its span and the text that was read. -/
theorem Draft.Current.remark_tells {draft : Draft} (current : draft.Current) (name : String)
    {node : Node} (holds : draft.root.Holds node) (message : String) :
    (draft.remark name node message).Tells { fix := name, node, message } draft := by
  obtain ⟨place, found⟩ := id holds
  obtain ⟨start, starts, position⟩ := current.placed found
  rw [(Grammar.parse_runs (parse_of_file current.reads)).1] at starts
  have told : draft.remark name node message =
      { fix := name, line := ((Source.ofString draft.text).reached start).line
        column := ((Source.ofString draft.text).reached start).column, message } := by
    simp only [Draft.remark, position, Option.getD_some]
  obtain ⟨line, column⟩ := (Source.ofString draft.text).reached_pos start
  rw [told]
  exact ⟨rfl, rfl, line, column, holds, start, starts, rfl⟩

/-- What a warning tells shows in the tree and the text alone. -/
theorem Warning.Tells.of_agrees {warning : Warning} {remark : Remark} {next draft : Draft}
    (tells : warning.Tells remark next) (agrees : next.Agrees draft) :
    warning.Tells remark draft := by
  obtain ⟨fix, message, line, column, held, place⟩ := tells
  rw [agrees.root] at held
  rw [agrees.text] at place
  exact ⟨fix, message, line, column, held, place⟩

/-- Warnings that tell remarks one by one, as lists. -/
def Warning.TellAll (warnings : List Warning) (remarks : List Remark) (draft : Draft) : Prop :=
  List.Forall₂ (fun warning remark => warning.Tells remark draft) warnings remarks

/-- What warnings tell of a draft they tell of any draft with the same text and tree. -/
theorem Warning.TellAll.of_agrees {warnings : List Warning} {remarks : List Remark}
    {next draft : Draft} (tells : TellAll warnings remarks next) (agrees : next.Agrees draft) :
    TellAll warnings remarks draft :=
  tells.imp fun _ _ told => told.of_agrees agrees

/-- What a computation adds to the warnings of a current draft whose tree it keeps: a warning for each
noted node, in the name of the fix that runs. -/
theorem Edit.WarnsAs.adds {fix : Fix} {call : Fix.Call} {noted : Draft → List (Node × String)}
    (warns : (fix.called call).WarnsAs noted) {draft left : Draft} {value : Bool}
    (current : draft.Current) (named : draft.activeFix = fix.name)
    (ran : (fix.called call).run draft = (.ok value, left))
    (still : left.revision = draft.revision) :
    left.activeFix = fix.name ∧ ∃ added, left.warnings = draft.warnings ++ added ∧
      Warning.TellAll added ((noted draft).map (Remark.by fix)) draft := by
  obtain ⟨active, warnings, held⟩ := warns draft value left ran still
  rw [Draft.remarked_eq, named] at warnings
  refine ⟨active.trans named, _, warnings, ?_⟩
  rw [Warning.TellAll, List.forall₂_map_left_iff, List.forall₂_map_right_iff, List.forall₂_same]
  intro remark present
  exact current.remark_tells fix.name (held remark present) remark.2

namespace FixedPoint

/-- The turn of a fix that does not fire keeps the tree, and its warnings tell what the fix remarks. The
test and the transformation are asked under the name of the fix, and about one tree. -/
theorem Remarked.tells {fix : Fix} {noted : Fix.Call → Draft → List (Node × String)}
    (warns : fix.WarnsAs noted) {draft next : Draft} {remarks : List (Node × String)}
    (remarked : Remarked fix noted draft remarks next) (current : draft.Current) :
    next.Agrees draft ∧ ∃ added, next.warnings = draft.warnings ++ added ∧
      Warning.TellAll added (remarks.map (Remark.by fix)) draft := by
  have running := draft.running_agrees fix.name
  have ready : (draft.running fix.name).Current := current.of_agrees running
  cases remarked with
  | @refused left tested =>
    obtain ⟨agrees, still⟩ := test_agrees warns.toOrderly tested
    obtain ⟨_, added, warnings, tells⟩ := (warns.calls .test).adds ready rfl tested still
    exact ⟨(left.running_agrees "").trans agrees, added, warnings, tells.of_agrees running⟩
  | @idle middle left tested transformed kept =>
    obtain ⟨tests, testStill⟩ := test_agrees warns.toOrderly tested
    have still : left.revision = middle.revision := kept.trans testStill.symm
    have transforms := (warns.transform.leaves transformed).2 still
    obtain ⟨named, first, firstWarnings, firstTells⟩ :=
      (warns.calls .test).adds ready rfl tested testStill
    obtain ⟨_, second, secondWarnings, secondTells⟩ :=
      (warns.calls .transform).adds (current.of_agrees tests) named transformed still
    refine ⟨(left.running_agrees "").trans (transforms.trans tests), first ++ second, ?_, ?_⟩
    · rw [← List.append_assoc, ← show middle.warnings = draft.warnings ++ first from firstWarnings]
      exact secondWarnings
    · rw [List.map_append]
      exact List.rel_append (firstTells.of_agrees running) (secondTells.of_agrees tests)

/-- A pass in which no fix fires keeps the text and the tree, and its warnings tell what the fixes
remark, in the order in which they do. -/
theorem Recorded.tells {fixes : List Fix} {noted : Fix → Fix.Call → Draft → List (Node × String)}
    (warns : ∀ fix ∈ fixes, fix.WarnsAs (noted fix)) {draft last : Draft} {remarks : List Remark}
    (recorded : Recorded noted fixes draft remarks last) (current : draft.Current) :
    last.Agrees draft ∧ ∃ added, last.warnings = draft.warnings ++ added ∧
      Warning.TellAll added remarks draft := by
  induction recorded with
  | done draft => exact ⟨⟨rfl, rfl, rfl, rfl, rfl⟩, [], by simp, .nil⟩
  | turn remarked more inductionHypothesis =>
    obtain ⟨agrees, first, firstWarnings, firstTells⟩ :=
      remarked.tells (warns _ List.mem_cons_self) current
    obtain ⟨lastAgrees, second, secondWarnings, secondTells⟩ := inductionHypothesis
      (fun other member => warns other (List.mem_cons_of_mem _ member)) (current.of_agrees agrees)
    refine ⟨lastAgrees.trans agrees, first ++ second, ?_, ?_⟩
    · rw [secondWarnings, firstWarnings, List.append_assoc]
    · exact List.rel_append firstTells (secondTells.of_agrees agrees)

end FixedPoint

/-- Warnings describe the final text. When a text was processed without failure, its warnings tell, one by
one, what the fixes remarked in the last pass, in the order of the fixes: each carries the name of the fix
and its message, and gives the line and the column where the node that it is about, a node of the final tree,
starts in the final text. That text is the new one when no fix was applied, or when the printer gives it back.

All passes before the last are `rounds`. The last begins without warnings and changes nothing, so that the tree
at its end is the one that every fix was asked about. -/
theorem warnings_describe_final_text (path text : String) (fixes : List Fix) (cap : Int)
    (noted : Fix → Fix.Call → Draft → List (Node × String))
    (warns : ∀ fix ∈ fixes, fix.WarnsAs (noted fix))
    (succeeded : (processSource path text fixes cap).error = none) :
    ∃ opened rounds before remarks last, Draft.parse path text = .ok opened ∧
      Laps fixes opened rounds before ∧ rounds.length < cap.toNat ∧
      Recorded noted fixes before.cleared remarks last ∧
      Warning.TellAll (processSource path text fixes cap).warnings remarks last ∧
      parseFile path last.text = .ok last.parsed ∧ last.root = last.parsed.root ∧
      ((processSource path text fixes cap).appliedFixNames = [] ∨ Reproduced path last.text →
        (processSource path text fixes cap).newText = last.text) := by
  obtain ⟨opened, driven, last, parsed, ran, outcome⟩ := process_ok succeeded
  obtain ⟨rounds, ⟨before, laps, fewer, through⟩, rfl⟩ := drive_ok.mp ran
  have orderly : ∀ fix ∈ fixes, fix.Orderly := fun fix member => (warns fix member).toOrderly
  obtain ⟨current, openedPath, _⟩ := Draft.current_of_parse parsed
  obtain ⟨beforeCurrent, beforePath⟩ := laps.current orderly current
  obtain ⟨remarks, recorded⟩ := through.recorded noted
  obtain ⟨agrees, added, warnings, tells⟩ := recorded.tells warns beforeCurrent.cleared
  have lastCurrent : last.Current := beforeCurrent.cleared.of_agrees agrees
  have lastPath : last.path = path := agrees.path.trans (beforePath.trans openedPath)
  have reads : parseFile path last.text = .ok last.parsed := lastPath ▸ lastCurrent.reads
  have newText : (processSource path text fixes cap).newText =
      if rounds = [] then text else last.render := by
    rw [outcome, settled_text laps]
  refine ⟨opened, rounds, before, remarks, last, parsed, laps, fewer, recorded, ?_, reads,
    lastCurrent.root, ?_⟩
  · have told : (Outcome.settled path text ⟨rounds.foldl addNames [], 1 + rounds.length⟩ last).warnings =
        added := warnings
    rw [outcome, told]
    exact tells.of_agrees agrees.symm
  · intro settled
    rw [newText]
    by_cases unchanged : rounds = []
    · subst unchanged
      cases laps
      rw [if_pos rfl, agrees.text]
      exact (Draft.text_of_parse parsed).symm
    · rw [if_neg unchanged, Draft.render_of_root lastCurrent.printed lastCurrent.root]
      rcases settled with unapplied | reproduced
      · rw [outcome] at unapplied
        exact absurd ((applied_nil_iff laps).mp unapplied) unchanged
      · exact reproduced last.parsed reads

/-! ## Visitors that warn -/

section

variable {visit : Visitor Edit}

/-- A visitor that does nothing to a draft but warn about the node that it is given. -/
def Syntax.Remarking (visit : Visitor Edit) : Prop :=
  ∀ node draft, ∃ messages : List String,
    (visit node).after draft = draft.remarked (messages.map (node, ·))

/-- A visitor that only makes remarks does nothing to a draft but add warnings. -/
theorem Syntax.Remarking.aside (remarking : Remarking visit) (node : Node) : (visit node).Aside := by
  intro draft
  obtain ⟨messages, left⟩ := remarking node draft
  rw [left, Draft.remarked_eq]
  exact ⟨_, draft.activeFix, rfl⟩

/-- What a computation at a node leaves, when it replaced nothing: warnings about what stands in the
node. -/
def Syntax.Node.Within (node : Node) (one : Node → Edit Transformed) : Prop :=
  ∀ draft left result, (one node).run draft = (.ok result, left) → result.replaced = 0 →
    ∃ remarks : List (Node × String), (∀ remark ∈ remarks, node.Holds remark.1) ∧
      left = draft.remarked remarks

/-- The warnings about the children of a node, one child after another. The induction is on the roles;
children that are not entered are not warned about. -/
theorem remarks_children {kind : Kind} {one : Node → Edit Transformed} {roles : List Role}
    {children : List Node} (within : ∀ child ∈ children, child.Within one) {draft last : Draft}
    {results : List Transformed}
    (ran : (Node.transformChildren kind one roles children).run draft = (.ok results, last))
    (still : (results.map (·.replaced)).sum = 0) :
    ∃ remarks : List (Node × String),
      (∀ remark ∈ remarks, ∃ child ∈ children, child.Holds remark.1) ∧
        last = draft.remarked remarks := by
  induction roles generalizing children draft results with
  | nil =>
    cases ran
    exact ⟨[], by simp, rfl⟩
  | cons role roles inductionHypothesis =>
    cases children with
    | nil =>
      cases ran
      exact ⟨[], by simp, rfl⟩
    | cons child rest =>
      obtain ⟨result, left, more, childRan, restRan, rfl⟩ := Edit.transform_children_ok ran
      simp only [List.map_cons, List.sum_cons, Nat.add_eq_zero_iff] at still
      have entered : ∃ remarks : List (Node × String), (∀ remark ∈ remarks, child.Holds remark.1) ∧
          left = draft.remarked remarks := by
        split at childRan
        · exact within child List.mem_cons_self draft left result childRan still.1
        · cases childRan
          exact ⟨[], by simp, rfl⟩
      obtain ⟨first, firstHeld, rfl⟩ := entered
      obtain ⟨second, secondHeld, rfl⟩ := inductionHypothesis
        (fun other listed => within other (List.mem_cons_of_mem child listed)) restRan still.2
      refine ⟨first ++ second, ?_, Draft.remarked_append draft first second⟩
      intro remark present
      rcases List.mem_append.mp present with early | late
      · exact ⟨child, List.mem_cons_self, firstHeld remark early⟩
      · obtain ⟨other, listed, holds⟩ := secondHeld remark late
        exact ⟨other, List.mem_cons_of_mem child listed, holds⟩

/-- The warnings below a node are about what stands in it. Putting the node together again warns about
nothing, so that they come from its children. -/
theorem remarks_below {one : Node → Edit Transformed} {node : Node}
    (within : ∀ child ∈ node.children, child.Within one) {draft left : Draft} {result : Transformed}
    (ran : (Node.transformBelow one node).run draft = (.ok result, left))
    (still : result.replaced = 0) :
    ∃ remarks : List (Node × String), (∀ remark ∈ remarks, node.Holds remark.1) ∧
      left = draft.remarked remarks := by
  obtain ⟨results, childrenRan, _, rfl⟩ := Edit.transform_below_ok ran
  rw [Node.replaced_assemble] at still
  obtain ⟨remarks, held, leftIs⟩ := remarks_children within childrenRan still
  refine ⟨remarks, ?_, leftIs⟩
  intro remark present
  obtain ⟨child, listed, holds⟩ := held remark present
  exact .of_child listed holds

/-- The warnings about a node come before those about what stands below it. The visitor sees the node
first and what stands below it afterwards. -/
theorem remarks_visit (remarking : Remarking visit) {one : Node → Edit Transformed} {node : Node}
    (within : ∀ child ∈ node.children, child.Within one) {draft middle left : Draft}
    {found : Option Node} {result : Transformed}
    (visited : (visit node).run draft = (.ok found, middle))
    (ran : (Node.transformBelow one node).run middle = (.ok result, left))
    (still : result.replaced = 0) :
    ∃ remarks : List (Node × String), (∀ remark ∈ remarks, node.Holds remark.1) ∧
      left = draft.remarked remarks := by
  obtain ⟨messages, told⟩ := remarking node draft
  rw [Edit.after, visited] at told
  obtain ⟨below, held, rfl⟩ := remarks_below within ran still
  refine ⟨messages.map (node, ·) ++ below, ?_, ?_⟩
  · intro remark present
    rcases List.mem_append.mp present with own | deeper
    · obtain ⟨message, _, rfl⟩ := List.mem_map.mp own
      exact ⟨[], rfl⟩
    · exact held remark deeper
  · rw [← Draft.remarked_append]
    exact congrArg (Draft.remarked · below) told

/-- However deep a node is, the warnings of a walk over it are about what stands in it. -/
theorem remarks_node (remarking : Remarking visit) (fuel : Nat) (node : Node) :
    node.Within (Node.transformNode visit fuel) := by
  induction fuel generalizing node with
  | zero =>
    intro draft left result ran
    cases ran
  | succ fuel inductionHypothesis =>
    intro draft left result ran still
    obtain ⟨less, middle, same, visited, below⟩ := Edit.quiet_visit ran still
    cases same
    exact remarks_visit remarking (fun child _ => inductionHypothesis child) visited below still

/-- Transforming a draft by a visitor that warns about the nodes that it is given: without a replacement
all these are nodes of the tree. -/
theorem Edit.transform_remarks (remarking : Remarking visit) : (Edit.transform visit).Remarks := by
  intro draft value left ran still
  obtain ⟨warnings, name, walked⟩ :=
    transform_keeps Edit.Aside.pure Edit.Aside.throw Edit.Aside.bind remarking.aside draft.root draft
  rw [Edit.transform, Edit.run_reading] at ran
  obtain ⟨result, middle, rootRan, continued⟩ := (Edit.bind_ok _ _ _ _ _).mp ran
  rw [Edit.after, rootRan] at walked
  by_cases none : result.replaced = 0
  · rw [if_pos none] at continued
    cases continued
    obtain ⟨found, first, visited, below⟩ := Edit.quiet_root rootRan none
    obtain ⟨remarks, held, rfl⟩ := remarks_visit remarking
      (fun child _ => remarks_node remarking _ child) visited below none
    refine ⟨?_, remarks, held, rfl⟩
    rw [Draft.remarked_eq]
    rfl
  · -- A tree that took the place of the other counted a revision.
    rw [if_neg none] at continued
    cases continued
    subst walked
    exact absurd still (Nat.succ_ne_self draft.revision)

end

/-- An answer makes no remarks. -/
theorem Edit.Remarks.pure {α : Type} (value : α) : (pure value : Edit α).Remarks := by
  intro draft answer left ran _
  cases ran
  exact ⟨rfl, [], by simp, rfl⟩

/-- Reading the draft first is the same as being given it. -/
theorem Edit.Remarks.reading {β : Type} {next : Draft → Edit β}
    (second : ∀ draft, (next draft).Remarks) : (get >>= next).Remarks := by
  intro draft value left ran still
  rw [Edit.run_reading] at ran
  exact second draft draft value left ran still

namespace Fix

/-- A call of `dial` is warned about at the call itself. -/
theorem undialled_remarking (file : Node) (bindings : Imports.Bindings) :
    Remarking (undialled file bindings) := by
  intro node draft
  rw [undialled]
  split
  · exact ⟨[], rfl⟩
  · split
    · split
      · exact ⟨[], rfl⟩
      · exact ⟨[dialMessage], rfl⟩
    · exact ⟨[], rfl⟩

/-- What `net-dial` warns about can be noted: its test warns about nothing, and its transformation about
calls that it visits. -/
theorem net_dial_warns : ∃ noted, netDial.WarnsAs noted :=
  net_dial_depends.orderly.warns (.reading fun _ => .pure _)
    (.reading fun _ => Edit.transform_remarks (undialled_remarking _ _))

/-- So can what `net-addr-keyed` warns about, which is nothing. -/
theorem net_addr_keyed_warns : ∃ noted, netAddrKeyed.WarnsAs noted := by
  refine net_addr_keyed_depends.orderly.warns (.reading fun _ => .pure _) (.reading fun draft => ?_)
  dsimp only
  split
  · exact .pure false
  · apply Edit.transform_remarks
    intro node asked
    exact ⟨[], rfl⟩

/-- The fixes that come with the program warn only about nodes of the tree that they are given. -/
theorem builtin_warns : ∃ noted : Fix → Fix.Call → Draft → List (Node × String),
    ∀ fix ∈ builtin, fix.WarnsAs (noted fix) := by
  have each (fix : Fix) : ∃ noted, fix ∈ builtin → fix.WarnsAs noted := by
    by_cases member : fix ∈ builtin
    · simp only [builtin, List.mem_cons, List.not_mem_nil, or_false] at member
      rcases member with rfl | rfl
      · exact net_addr_keyed_warns.imp fun noted warns _ => warns
      · exact net_dial_warns.imp fun noted warns _ => warns
    · exact ⟨fun _ _ => [], fun present => absurd present member⟩
  exact Classical.skolem.mp each

end Fix

/-- A file that dials twice, the second time with a local address. -/
def dialledTwice : String :=
  "import n from\"net\";n.dial(a,\"\",b);n.dial(a,l,b)"

/-- The second call is warned about where it stands in the text that the first was changed in. That the
run succeeds, and with which warnings, is computed; that the one warning tells of a remark follows from
the general statement. -/
theorem dialled_twice_warned :
    ∃ (noted : Fix → Fix.Call → Draft → List (Node × String)) (remark : Remark) (last : Draft),
    (∀ fix ∈ Fix.builtin, fix.WarnsAs (noted fix)) ∧
    parseFile "/a.ts" last.text = .ok last.parsed ∧
    (processSource "/a.ts" dialledTwice Fix.builtin 8).warnings =
      [{ fix := "net-dial", line := 3, column := 1, message := Fix.dialMessage }] ∧
    Warning.Tells { fix := "net-dial", line := 3, column := 1, message := Fix.dialMessage }
      remark last := by
  have checked : (processSource "/a.ts" dialledTwice Fix.builtin 8).error = none ∧
      (processSource "/a.ts" dialledTwice Fix.builtin 8).warnings =
        [{ fix := "net-dial", line := 3, column := 1, message := Fix.dialMessage }] := by
    decide +kernel
  obtain ⟨noted, warns⟩ := Fix.builtin_warns
  obtain ⟨opened, rounds, before, remarks, last, _, _, _, _, tells, reads, _⟩ :=
    warnings_describe_final_text "/a.ts" dialledTwice Fix.builtin 8 noted warns checked.1
  rw [checked.2, Warning.TellAll, List.forall₂_cons_left_iff] at tells
  obtain ⟨remark, _, told, _⟩ := tells
  exact ⟨noted, remark, last, warns, reads, checked.2, told⟩

namespace Fix

/-- The transformation of the fix that poses as another warns about the file, a node of every tree. -/
theorem posing_warns : Edit.WarnsAs posing.transform fun draft => [(draft.root, "saw it")] := by
  intro draft value left ran _
  cases ran
  refine ⟨rfl, rfl, ?_⟩
  intro remark present
  cases List.mem_singleton.mp present
  exact ⟨[], rfl⟩

/-- A fix that warns about the file. -/
def seeing : Fix where
  name := "seeing"
  date := "2020-01-01"
  description := "Warns about the file."
  precondition := return true
  transform := do
    Edit.warn (← get).root "saw it"
    return false

/-- A fix that drops the warnings. -/
def sweeping : Fix where
  name := "sweeping"
  date := "2020-01-02"
  description := "Drops the warnings."
  precondition := return true
  transform := do
    Edit.clearWarnings
    return false

end Fix

/-- Two ways in which warnings do not describe what was recorded, with tests that change no tree and
warnings that are about a node of the tree. A test that has another fix named leaves that name to the
warnings of its transformation; and a fix that drops the warnings drops those that were recorded in the last
pass before it. -/
theorem warnings_misdescribe :
    (Fix.posing.Orderly ∧ Edit.WarnsAs Fix.posing.transform (fun draft => [(draft.root, "saw it")]) ∧
      (processSource "/a.ts" "a;\n" [Fix.posing] 8).error = none ∧
      (processSource "/a.ts" "a;\n" [Fix.posing] 8).warnings =
        [{ fix := "other", line := 1, column := 1, message := "saw it" }]) ∧
    (processSource "/a.ts" "a;\n" [Fix.seeing] 8).warnings =
      [{ fix := "seeing", line := 1, column := 1, message := "saw it" }] ∧
    (processSource "/a.ts" "a;\n" [Fix.seeing, Fix.sweeping] 8).error = none ∧
    (processSource "/a.ts" "a;\n" [Fix.seeing, Fix.sweeping] 8).warnings = [] :=
  ⟨⟨Fix.posing_orderly, Fix.posing_warns, by decide +kernel, by decide +kernel⟩, by decide +kernel,
    by decide +kernel, by decide +kernel⟩

end Codemod
