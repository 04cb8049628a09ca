import Codemod.Proofs.Honesty
import Codemod.Proofs.Positions
import Codemod.Proofs.Spans.Statements

/-!
# What a fix is given

A run calls fixes: the test of each fix in a pass, and its transformation when the test agrees. The
passes before the call and the fixes before it in its pass have all kept to their word, or there would
be no call. Every draft that a fix is called with is current: its tree is the one that its text is read
as, nothing waits to be read back, and every node of the tree has a place in the text.

Fixes are arbitrary computations that work on a draft through its operations: they keep its path, and
put no other tree into it without counting a revision. Their tests count none. The name of the running fix is
one of the things that a fix can set: a test that sets it leaves another name to the transformation.
-/
namespace Codemod

open Syntax FixedPoint

/-- A draft whose tree is the one that its text is read as, with nothing printed since. -/
structure Draft.Current (draft : Draft) : Prop where
  reads : parseFile draft.path draft.text = .ok draft.parsed
  root : draft.root = draft.parsed.root
  printed : draft.printed = none

/-- A fresh draft is current. It can also be read back. -/
theorem Draft.Fresh.current {draft : Draft} (fresh : draft.Fresh) : draft.Current :=
  ⟨fresh.reads, fresh.root, fresh.printed⟩

/-- A draft of the same file, with the text and the tree of another. -/
structure Draft.Agrees (next draft : Draft) : Prop where
  path : next.path = draft.path
  text : next.text = draft.text
  parsed : next.parsed = draft.parsed
  root : next.root = draft.root
  printed : next.printed = draft.printed

/-- Drafts that agree with the same draft agree with one another, by way of it. -/
theorem Draft.Agrees.trans {first second third : Draft} (one : first.Agrees second)
    (other : second.Agrees third) : first.Agrees third :=
  ⟨one.path.trans other.path, one.text.trans other.text, one.parsed.trans other.parsed,
    one.root.trans other.root, one.printed.trans other.printed⟩

/-- Drafts agree with each other. -/
theorem Draft.Agrees.symm {next draft : Draft} (agrees : next.Agrees draft) : draft.Agrees next :=
  ⟨agrees.path.symm, agrees.text.symm, agrees.parsed.symm, agrees.root.symm, agrees.printed.symm⟩

/-- The name of the fix that runs is no part of the text or of the tree. -/
theorem Draft.running_agrees (draft : Draft) (name : String) : (draft.running name).Agrees draft :=
  ⟨rfl, rfl, rfl, rfl, rfl⟩

/-- Whether a draft is current shows in the file, the text and the tree. -/
theorem Draft.Current.of_agrees {next draft : Draft} (current : draft.Current)
    (agrees : next.Agrees draft) : next.Current where
  reads := by
    rw [agrees.path, agrees.text, agrees.parsed]
    exact current.reads
  root := by
    rw [agrees.root, agrees.parsed]
    exact current.root
  printed := agrees.printed.trans current.printed

/-- Counting revisions from zero again leaves a draft current. -/
theorem Draft.Current.cleared {draft : Draft} (current : draft.Current) : draft.cleared.Current :=
  current.of_agrees ⟨rfl, rfl, rfl, rfl, rfl⟩

/-- A computation that keeps the path of a draft, and its text and tree unless it counts a revision. -/
structure Edit.Orderly {α : Type} (edit : Edit α) : Prop where
  path : ∀ draft, (edit.after draft).path = draft.path
  kept : ∀ draft, (edit.after draft).revision = draft.revision → (edit.after draft).Agrees draft

/-- What an orderly computation leaves, whatever it answers. -/
theorem Edit.Orderly.leaves {α : Type} {edit : Edit α} (orderly : edit.Orderly) {draft left : Draft}
    {reply : Except Thrown α} (ran : edit.run draft = (reply, left)) :
    left.path = draft.path ∧ (left.revision = draft.revision → left.Agrees draft) := by
  have leftIs : edit.after draft = left := by
    simp only [Edit.after, ran]
  rw [← leftIs]
  exact ⟨orderly.path draft, orderly.kept draft⟩

/-- A fix that works on a draft through its operations, and whose test does not change the tree. -/
structure Fix.Orderly (fix : Fix) : Prop where
  precondition : fix.precondition.Orderly
  transform : fix.transform.Orderly
  untouched : ∀ draft, (fix.precondition.after draft).revision = draft.revision

/-- What leaves a draft's whole view alone unless it counts a revision leaves the text and the tree
alone, which are part of the view. -/
theorem Edit.Proper.orderly {α : Type} {edit : Edit α} (proper : edit.Proper) : edit.Orderly where
  path := proper.path
  kept draft still := by
    have same := proper.kept draft still
    simp only [Draft.view, Draft.View.mk.injEq] at same
    obtain ⟨path, text, parsed, root, printed, _⟩ := same
    exact ⟨path, text, parsed, root, printed⟩

/-- A fix that depends on what it works on is orderly. -/
theorem Fix.DependsOn.orderly {σ : Type} {look : Draft → σ} {fix : Fix}
    (dependent : fix.DependsOn look) : fix.Orderly where
  precondition := dependent.precondition.toProper.orderly
  transform := dependent.transform.toProper.orderly
  untouched := dependent.untouched

/-- What a fix is called for. -/
inductive Fix.Call where
  | test
  | transform

/-- The computation that a call of a fix runs. -/
def Fix.called (fix : Fix) : Fix.Call → Edit Bool
  | .test => fix.precondition
  | .transform => fix.transform

namespace FixedPoint

/-- A fix that a pass comes to, and the draft that its turn starts on. The fixes before it have kept to
their word. -/
inductive Comes : List Fix → Draft → Fix → Draft → Prop where
  | here (fix : Fix) (rest : List Fix) (draft : Draft) : Comes (fix :: rest) draft fix draft
  | later {fix other : Fix} {rest : List Fix} {draft next start : Draft} {fired : Bool}
      (behaves : Behaves fix draft fired next) (comes : Comes rest next other start) :
    Comes (fix :: rest) draft other start

/-- The calls of a fix in a turn, with the draft that each is given: the test, and the transformation
when the test agrees. -/
inductive Calls (fix : Fix) (start : Draft) : Fix.Call → Draft → Prop where
  | test : Calls fix start .test (start.running fix.name)
  | transform {left : Draft}
      (tested : fix.precondition.run (start.running fix.name) = (.ok true, left)) :
    Calls fix start .transform left

/-- The calls of a run of at most so many passes, with the draft that each is given. -/
inductive Made (fixes : List Fix) (limit : Nat) (opened : Draft) (fix : Fix) (call : Fix.Call)
    (given : Draft) : Prop where
  | intro {rounds : List (List String)} {before start : Draft} (laps : Laps fixes opened rounds before)
      (fewer : rounds.length < limit) (comes : Comes fixes before.cleared fix start)
      (calls : Calls fix start call given)

/-- The turns of a run of at most so many passes: a fix, and the draft that its turn starts on. -/
inductive Turns (fixes : List Fix) (limit : Nat) (opened : Draft) (fix : Fix) (start : Draft) : Prop where
  | intro {rounds : List (List String)} {before : Draft} (laps : Laps fixes opened rounds before)
      (fewer : rounds.length < limit) (comes : Comes fixes before.cleared fix start) :
    Turns fixes limit opened fix start

/-! ## No call is left out

A run is decided by what its turns do, and a turn by what its calls do. Fixes that do the same there may be
put in the place of others. -/

/-- The turn of a fix is decided by what asking it comes to. -/
theorem turn_of_attempts {fix other : Fix} {draft : Draft} (name : other.name = fix.name)
    (attempted : (attempt other).run draft = (attempt fix).run draft) :
    (turn other).run draft = (turn fix).run draft := by
  simp only [run_turn, attempted, fixError, name]

/-- The turn of a fix is decided by its calls. It calls the test, and the transformation only where the
test says so, on what the test left. -/
theorem turn_of_calls {fix other : Fix} {draft : Draft} (name : other.name = fix.name)
    (same : ∀ call given, Calls fix draft call given →
      (other.called call).run given = (fix.called call).run given) :
    (turn other).run draft = (turn fix).run draft := by
  have tested : other.precondition.run (draft.running fix.name) =
      fix.precondition.run (draft.running fix.name) := same .test _ .test
  refine turn_of_attempts name ?_
  rw [run_attempt, run_attempt, name, tested]
  rcases ran : fix.precondition.run (draft.running fix.name) with ⟨thrown | _ | _, left⟩
  · rfl
  · rfl
  · have transformed : other.transform.run left = fix.transform.run left :=
      same .transform left (.transform ran)
    simp only [transformed]

/-- A pass is decided by its turns. The induction is on the fixes: the first turn comes to the same, and
so the rest are given the same draft. -/
theorem pass_of_turns {fixes : List Fix} {alter : Fix → Fix} {draft : Draft}
    (names : ∀ fix, (alter fix).name = fix.name)
    (same : ∀ fix start, Comes fixes draft fix start →
      (turn (alter fix)).run start = (turn fix).run start) :
    (runPass (fixes.map alter)).run draft = (runPass fixes).run draft := by
  induction fixes generalizing draft with
  | nil => rfl
  | cons fix rest inductionHypothesis =>
    have turned := same fix draft (.here fix rest draft)
    have later {fired : Bool} {next : Draft} (ran : (turn fix).run draft = (.ok fired, next)) :
        (runPass (rest.map alter)).run next = (runPass rest).run next :=
      inductionHypothesis fun other start comes => same other start (.later (turn_ok.mp ran) comes)
    rw [List.map_cons, run_pass_turn, run_pass_turn, turned, names]
    rcases ran : (turn fix).run draft with ⟨thrown | _ | _, next⟩
    · rfl
    · exact later ran
    · simp only [run_named, later ran]

/-- Two lists of fixes, equally named, run alike when each turn comes to the same in both. Only the turns
that come up count, and these are the same: as long as turns come to the same, so do the drafts that the
later ones are given. -/
theorem passes_of_turns {fixes : List Fix} {alter : Fix → Fix} (cap : Int)
    (names : ∀ fix, (alter fix).name = fix.name) (remaining number : Nat)
    (applied fired : List String) (draft : Draft)
    (same : ∀ fix start, Turns fixes remaining draft fix start →
      (turn (alter fix)).run start = (turn fix).run start) :
    (passes (fixes.map alter) cap remaining number applied fired).run draft =
      (passes fixes cap remaining number applied fired).run draft := by
  induction remaining generalizing number applied fired draft with
  | zero => rfl
  | succ remaining inductionHypothesis =>
    have passed : (runPass (fixes.map alter)).run draft.cleared =
        (runPass fixes).run draft.cleared :=
      pass_of_turns names fun fix start comes =>
        same fix start ⟨.none draft, Nat.succ_pos remaining, comes⟩
    rw [run_passes_succ, run_passes_succ, passed]
    rcases ran : (runPass fixes).run draft.cleared with ⟨thrown | _ | ⟨name, fired⟩, next⟩
    · rfl
    · rfl
    · apply inductionHypothesis
      rintro fix start ⟨laps, fewer, comes⟩
      have lap := Laps.lap (pass_ok.mp ran) (List.cons_ne_nil name fired) laps
      exact same fix start ⟨lap, Nat.succ_lt_succ fewer, comes⟩

/-- A run is decided by the turns that it is said to have. -/
theorem drive_of_turns {fixes : List Fix} {alter : Fix → Fix} {cap : Int} {opened : Draft}
    (names : ∀ fix, (alter fix).name = fix.name)
    (same : ∀ fix start, Turns fixes cap.toNat opened fix start →
      (turn (alter fix)).run start = (turn fix).run start) :
    (drive (fixes.map alter) cap).run opened = (drive fixes cap).run opened :=
  passes_of_turns cap names cap.toNat 1 [] [] opened same

/-- A run is decided by the calls that it is said to make. -/
theorem drive_of_calls {fixes : List Fix} {alter : Fix → Fix} {cap : Int} {opened : Draft}
    (names : ∀ fix, (alter fix).name = fix.name)
    (same : ∀ fix call given, Made fixes cap.toNat opened fix call given →
      ((alter fix).called call).run given = (fix.called call).run given) :
    (drive (fixes.map alter) cap).run opened = (drive fixes cap).run opened := by
  refine drive_of_turns names fun fix start turns => ?_
  obtain ⟨laps, fewer, comes⟩ := turns
  exact turn_of_calls (names fix) fun call given calls =>
    same fix call given ⟨laps, fewer, comes, calls⟩

/-! ## What is given -/

/-- A fix whose turn comes is one of the list. -/
theorem comes_mem {fixes : List Fix} {draft start : Draft} {fix : Fix}
    (comes : Comes fixes draft fix start) : fix ∈ fixes := by
  induction comes with
  | here fix rest draft => exact List.mem_cons_self
  | later behaves comes inductionHypothesis => exact List.mem_cons_of_mem _ inductionHypothesis

variable {fix : Fix}

/-- The test of a fix leaves the text and the tree that it was given. -/
theorem test_agrees (orderly : fix.Orderly) {draft left : Draft} {reply : Except Thrown Bool}
    (tested : fix.precondition.run (draft.running fix.name) = (reply, left)) :
    left.Agrees draft ∧ left.revision = draft.revision := by
  have still : left.revision = draft.revision := by
    have untouched := orderly.untouched (draft.running fix.name)
    rw [Edit.after, tested] at untouched
    exact untouched
  have agrees := (orderly.precondition.leaves tested).2 still
  exact ⟨agrees.trans (draft.running_agrees fix.name), still⟩

/-- A fix that is through with its turn leaves a current draft of the same file, if it was given one. A
fix that fired is followed by reading the draft back; any other left it as it was. -/
theorem Behaves.current (orderly : fix.Orderly) {draft next : Draft} {fired : Bool}
    (behaves : Behaves fix draft fired next) (current : draft.Current) :
    next.Current ∧ next.path = draft.path := by
  cases behaves with
  | @refused left asked =>
    cases asked with
    | refused tested =>
      obtain ⟨agrees, _⟩ := test_agrees orderly tested
      exact ⟨(current.of_agrees agrees).of_agrees (left.running_agrees ""), agrees.path⟩
  | @idle left asked kept =>
    cases asked with
    | @answered _ middle _ tested transformed =>
      obtain ⟨tests, still⟩ := test_agrees orderly tested
      have transforms := (orderly.transform.leaves transformed).2 (kept.trans still.symm)
      have agrees : left.Agrees draft := transforms.trans tests
      exact ⟨(current.of_agrees agrees).of_agrees (left.running_agrees ""), agrees.path⟩
  | @fired left _ asked replaced reread =>
    cases asked with
    | @answered _ middle _ tested transformed =>
      obtain ⟨tests, _⟩ := test_agrees orderly tested
      have path : left.path = middle.path := (orderly.transform.leaves transformed).1
      obtain ⟨nextFresh, nextPath⟩ := refresh_fresh reread
      exact ⟨nextFresh.current, nextPath.trans (path.trans tests.path)⟩

variable {fixes : List Fix}

/-- So does a pass. -/
theorem Through.current {draft last : Draft} {names : List String}
    (through : Through fixes draft names last) (orderly : ∀ fix ∈ fixes, fix.Orderly)
    (current : draft.Current) : last.Current ∧ last.path = draft.path := by
  induction through with
  | done draft => exact ⟨current, rfl⟩
  | rested behaves more inductionHypothesis | fired behaves more inductionHypothesis =>
    obtain ⟨nextCurrent, nextPath⟩ := behaves.current (orderly _ List.mem_cons_self) current
    obtain ⟨lastCurrent, lastPath⟩ := inductionHypothesis
      (fun other member => orderly other (List.mem_cons_of_mem _ member)) nextCurrent
    exact ⟨lastCurrent, lastPath.trans nextPath⟩

/-- And so do passes in a row. -/
theorem Laps.current {draft last : Draft} {rounds : List (List String)}
    (laps : Laps fixes draft rounds last) (orderly : ∀ fix ∈ fixes, fix.Orderly)
    (current : draft.Current) : last.Current ∧ last.path = draft.path := by
  induction laps with
  | none draft => exact ⟨current, rfl⟩
  | lap through applied more inductionHypothesis =>
    obtain ⟨nextCurrent, nextPath⟩ := through.current orderly current.cleared
    obtain ⟨lastCurrent, lastPath⟩ := inductionHypothesis nextCurrent
    exact ⟨lastCurrent, lastPath.trans nextPath⟩

/-- The turn of every fix that a pass comes to starts on a current draft. -/
theorem Comes.current {draft start : Draft} (comes : Comes fixes draft fix start)
    (orderly : ∀ fix ∈ fixes, fix.Orderly) (current : draft.Current) :
    start.Current ∧ start.path = draft.path := by
  induction comes with
  | here fix rest draft => exact ⟨current, rfl⟩
  | later behaves comes inductionHypothesis =>
    obtain ⟨nextCurrent, nextPath⟩ := behaves.current (orderly _ List.mem_cons_self) current
    obtain ⟨startCurrent, startPath⟩ := inductionHypothesis
      (fun other member => orderly other (List.mem_cons_of_mem _ member)) nextCurrent
    exact ⟨startCurrent, startPath.trans nextPath⟩

/-- Both calls of a turn are given the text and the tree that the turn starts on. -/
theorem Calls.agrees (orderly : fix.Orderly) {start given : Draft} {call : Fix.Call}
    (calls : Calls fix start call given) : given.Agrees start := by
  cases calls with
  | test => exact start.running_agrees fix.name
  | transform tested => exact (test_agrees orderly tested).1

/-! ## The name of the fix that runs -/

/-- Reading a draft back does not name a fix. -/
theorem refresh_active (draft : Draft) : (Edit.refresh.after draft).activeFix = draft.activeFix := by
  rw [Edit.after, run_refresh]
  cases draft.fault with
  | some thrown => rfl
  | none =>
    cases parseFile draft.path draft.render with
    | error cause => rfl
    | ok parsed => rfl

/-- No fix runs after the turn of a fix, however the turn ends. Whether it threw, was refused or fired,
the name is taken back before anything else is done. -/
theorem turn_resets (fix : Fix) (draft : Draft) : ((turn fix).after draft).activeFix = "" := by
  rw [Edit.after, run_turn]
  rcases (attempt fix).run draft with ⟨thrown | _ | _ | _, left⟩
  · rfl
  · rfl
  · dsimp only
    split
    · rfl
    · rfl
  · have reset := refresh_active (left.running "")
    rw [Edit.after] at reset
    dsimp only
    split
    · rfl
    · split
      all_goals
        rename_i ran
        rw [ran] at reset
        exact reset

/-- No fix runs after a pass, since every turn takes the name back that it gave, whether it answers or
fails. The induction is on the fixes of the pass. -/
theorem pass_resets (fixes : List Fix) {draft : Draft} (unnamed : draft.activeFix = "") :
    ((runPass fixes).after draft).activeFix = "" := by
  induction fixes generalizing draft with
  | nil => exact unnamed
  | cons fix rest inductionHypothesis =>
    have reset := turn_resets fix draft
    rw [Edit.after] at reset ⊢
    rw [run_pass_turn]
    rcases ran : (turn fix).run draft with ⟨thrown | _ | _, next⟩
    all_goals
      rw [ran] at reset
    · exact reset
    · exact inductionHypothesis reset
    · have later := inductionHypothesis reset
      rw [Edit.after] at later
      simp only [run_named]
      rcases more : (runPass rest).run next with ⟨thrown | names, last⟩
      all_goals
        rw [more] at later
        exact later

/-- No fix runs after all passes, each of which begins and ends without a name. -/
theorem passes_resets (fixes : List Fix) (cap : Int) (remaining number : Nat)
    (applied fired : List String) {draft : Draft} (unnamed : draft.activeFix = "") :
    ((passes fixes cap remaining number applied fired).after draft).activeFix = "" := by
  induction remaining generalizing number applied fired draft with
  | zero => exact unnamed
  | succ remaining inductionHypothesis =>
    have reset : ((runPass fixes).after draft.cleared).activeFix = "" := pass_resets fixes unnamed
    rw [Edit.after] at reset ⊢
    rw [run_passes_succ]
    rcases ran : (runPass fixes).run draft.cleared with ⟨thrown | _ | ⟨name, names⟩, next⟩
    all_goals
      rw [ran] at reset
    · exact reset
    · exact reset
    · exact inductionHypothesis _ _ _ reset

end FixedPoint

/-- Every node of the tree of a current draft has a place in the text. Every node of a file that was read
has a span, and the position of a node is where its span starts, less the trivia in front of it. -/
theorem Draft.Current.placed {draft : Draft} (current : draft.Current) {place : List Nat} {node : Node}
    (found : draft.root.below? place = some node) :
    ∃ start, node.start? draft.parsed.source = some start ∧
      draft.positionOf draft.generation node = some ((Source.ofString draft.text).reached start) := by
  have read := parse_of_file current.reads
  rw [current.root] at found
  have spanned := (Grammar.spanned_below (Grammar.spanned_of_parse read) found).own
  have origin := Grammar.origin_of_parse read found
  obtain ⟨span, spans⟩ := Option.isSome_iff_exists.mp spanned
  have starts : (node.start? draft.parsed.source).isSome = true := by
    simp [Node.start?, spans]
  obtain ⟨start, starts⟩ := Option.isSome_iff_exists.mp starts
  refine ⟨start, starts, ?_⟩
  rw [← (Grammar.parse_runs read).1, ← Source.position_at_eq_reached]
  simp [Draft.positionOf, current.printed, origin, starts]

/-- A draft of a path that a fix can be called with: its tree is the one that its text is read as, nothing
is printed that was not read back, and every node of the tree has a position in the text. -/
structure Draft.Ready (path : String) (draft : Draft) : Prop where
  reads : parseFile path draft.text = .ok draft.parsed
  root : draft.root = draft.parsed.root
  printed : draft.printed = none
  placed : ∀ place node, draft.root.below? place = some node →
    ∃ offset ≤ (Source.ofString draft.text).size,
      draft.positionOf draft.generation node = some ((Source.ofString draft.text).reached offset)

/-- A fix can be called with a current draft. Every node of a tree as it was read has the position at
which the text says it starts. -/
theorem Draft.Current.ready {draft : Draft} (current : draft.Current) : draft.Ready draft.path where
  reads := current.reads
  root := current.root
  printed := current.printed
  placed place node found := by
    obtain ⟨start, _, position⟩ := current.placed found
    rw [Source.reached_min] at position
    exact ⟨min start _, Nat.min_le_right _ _, position⟩

/-- Opening a text gives a current draft, on which no fix runs. -/
theorem Draft.current_of_parse {path text : String} {draft : Draft}
    (parsed : Draft.parse path text = .ok draft) :
    draft.Current ∧ draft.path = path ∧ draft.activeFix = "" := by
  obtain ⟨tree, read, rfl⟩ := Draft.of_parse parsed
  exact ⟨⟨read, rfl, rfl⟩, rfl, rfl⟩

/-- Every call of a fix is given a draft that is read anew, and that names the fix as the one that runs. The
name is set for both calls at once, so a transformation finds it as its test left it: it is named if the test
keeps the name. However the run ends, no fix is named after it.

Between two turns the draft is current: a fix that changed it is followed by reading it back, and a fix
that did not change it left it as it was. -/
theorem calls_are_ready (path text : String) (fixes : List Fix) (cap : Int) (opened : Draft)
    (parsed : Draft.parse path text = .ok opened) (orderly : ∀ fix ∈ fixes, fix.Orderly) :
    (∀ fix given, Made fixes cap.toNat opened fix .test given →
      given.Ready path ∧ given.activeFix = fix.name) ∧
    (∀ fix given, Made fixes cap.toNat opened fix .transform given →
      given.Ready path ∧
        ((∀ draft, (fix.precondition.after draft).activeFix = draft.activeFix) →
          given.activeFix = fix.name)) ∧
    ((drive fixes cap).after opened).activeFix = "" := by
  obtain ⟨current, openedPath, unnamed⟩ := Draft.current_of_parse parsed
  have ready {fix : Fix} {call : Fix.Call} {given : Draft}
      (made : Made fixes cap.toNat opened fix call given) : given.Ready path := by
    obtain ⟨laps, _, comes, calls⟩ := made
    obtain ⟨beforeCurrent, beforePath⟩ := laps.current orderly current
    obtain ⟨startCurrent, startPath⟩ := comes.current orderly beforeCurrent.cleared
    have agrees := calls.agrees (orderly fix (comes_mem comes))
    have givenPath : given.path = path :=
      agrees.path.trans (startPath.trans (beforePath.trans openedPath))
    exact givenPath ▸ (startCurrent.of_agrees agrees).ready
  refine ⟨?_, ?_, ?_⟩
  · intro fix given made
    refine ⟨ready made, ?_⟩
    obtain ⟨_, _, _, calls⟩ := made
    cases calls
    rfl
  · intro fix given made
    refine ⟨ready made, ?_⟩
    intro nameless
    obtain @⟨_, _, start, _, _, _, calls⟩ := made
    cases calls with
    | transform tested =>
      have kept := nameless (start.running fix.name)
      rw [Edit.after, tested] at kept
      exact kept
  · exact passes_resets fixes cap cap.toNat 1 [] [] unnamed

/-- A file that loads the module passes the test of the fixes that come with the program, which leaves the
draft as it is. -/
theorem Fix.loads_net_run {draft : Draft}
    (loads : Imports.importsModule draft.root Fix.netModule = true) :
    Fix.loadsNet.run draft = (.ok true, draft) := by
  rw [← loads]
  rfl

/-- The file that dials is changed in the first of two passes. In the first, the transformation that is
called first is given what was opened, under the name of its fix; the fix that is called first in the
second pass is given what was read back. -/
theorem dialling_calls_ready : ∃ opened fired before,
    Draft.parse "/a.ts" dialling = .ok opened ∧ Laps Fix.builtin opened [fired] before ∧
      (before.cleared.running "net-addr-keyed").Ready "/a.ts" ∧
      (∃ given, Made Fix.builtin 8 opened Fix.netAddrKeyed .transform given ∧
        given.Ready "/a.ts" ∧ given.activeFix = "net-addr-keyed") ∧
      ((drive Fix.builtin 8).after opened).activeFix = "" := by
  obtain ⟨opened, driven, after, parsed, ran, rfl, _⟩ := dialling_drives
  obtain ⟨rounds, ⟨before, laps, fewer, _⟩, result⟩ := drive_ok.mp ran
  have one : rounds.length = 1 := by
    have counted : 2 = 1 + rounds.length := congrArg Driven.passes result
    omega
  obtain ⟨fired, rfl⟩ := List.length_eq_one_iff.mp one
  obtain ⟨tests, transforms, reset⟩ := calls_are_ready "/a.ts" dialling Fix.builtin 8 opened parsed
    fun fix member => (Fix.builtin_depends fix member).orderly
  have tested : Made Fix.builtin 8 opened Fix.netAddrKeyed .test
      (before.cleared.running "net-addr-keyed") := ⟨laps, fewer, .here _ _ _, .test⟩
  have loads : Imports.importsModule opened.root Fix.netModule = true := by
    have checked : (Draft.parse "/a.ts" dialling).toOption.all
        (fun draft => Imports.importsModule draft.root Fix.netModule) = true := by
      decide +kernel
    rw [parsed] at checked
    exact checked
  have transformed : Made Fix.builtin 8 opened Fix.netAddrKeyed .transform
      (opened.cleared.running "net-addr-keyed") :=
    ⟨.none opened, by decide, .here _ _ _, .transform (Fix.loads_net_run loads)⟩
  obtain ⟨ready, named⟩ := transforms _ _ transformed
  exact ⟨opened, fired, before, parsed, laps, (tests _ _ tested).1,
    ⟨_, transformed, ready, named fun _ => rfl⟩, reset⟩

/-- A fix whose test has another fix named as the one that runs, and which then warns about the file. -/
def Fix.posing : Fix where
  name := "posing"
  date := "2020-01-01"
  description := "Warns in the name of another fix."
  precondition := do
    Edit.setActiveFix "other"
    return true
  transform := do
    Edit.warn (← get).root "saw it"
    return false

/-- It works on a draft through its operations, and changes no tree. -/
theorem Fix.posing_orderly : Fix.posing.Orderly where
  precondition := ⟨fun _ => rfl, fun _ _ => ⟨rfl, rfl, rfl, rfl, rfl⟩⟩
  transform := ⟨fun _ => rfl, fun _ _ => ⟨rfl, rfl, rfl, rfl, rfl⟩⟩
  untouched _ := rfl

/-- The name of the running fix is set once for both calls. A test that has another fix named leaves that
name to the transformation, which is then called under it. -/
theorem posing_misnamed : ∃ opened given, Draft.parse "/a.ts" "a;\n" = .ok opened ∧
    Fix.posing.Orderly ∧ Made [Fix.posing] 8 opened Fix.posing .transform given ∧
    given.activeFix = "other" ∧ given.activeFix ≠ Fix.posing.name := by
  have checked : (Draft.parse "/a.ts" "a;\n").isOk = true := by decide +kernel
  cases parsed : Draft.parse "/a.ts" "a;\n" with
  | error cause =>
    rw [parsed] at checked
    cases checked
  | ok opened =>
    have made : Made [Fix.posing] 8 opened Fix.posing .transform (opened.cleared.running "other") :=
      ⟨.none opened, by decide, .here _ _ _, .transform rfl⟩
    have other : "other" ≠ "posing" := by decide
    exact ⟨opened, _, rfl, Fix.posing_orderly, made, rfl, other⟩

end Codemod
