import Codemod.Fix.NetDial
import Codemod.Outcome
import Codemod.Proofs.Driving

/-!
# Fixed points

A draft that was driven to an end is at a fixed point of its fixes, and driving
it once more changes nothing. The same holds of a whole text: the text that
processing gives is one that processing keeps, provided that the printer gives
back the text that the last tree was read from. Without that the next run starts
from a tree that no pass has seen.
-/
namespace Codemod

open Syntax FixedPoint

namespace Fix

/-- The test of the fixes that come with the program looks at the tree only. -/
theorem loads_net_looks : Edit.LooksAt Draft.view loadsNet := by
  refine Edit.LooksAt.reading (fun draft => Edit.LooksAt.pure _) fun {one other} same => ?_
  have root : one.root = other.root := congrArg Draft.View.root same
  simp only [root]

/-- A call of `dial` is changed, reported or left by the call, the tree that was read and what the
file binds. -/
theorem undialled_looks (file : Node) (bindings : Imports.Bindings) (node : Node) :
    Edit.LooksAt Draft.view (undialled file bindings node) := by
  rw [undialled]
  split
  · exact Edit.LooksAt.pure none
  · split
    · split
      · exact Edit.LooksAt.pure _
      · exact (Edit.LooksAt.warn node dialMessage).bind fun _ => Edit.LooksAt.pure none
    · exact Edit.LooksAt.pure none

/-- The fix for calls depends on the view of a draft: its test reads the tree, and its visitor answers by
the node alone. -/
theorem net_dial_depends : netDial.DependsOn Draft.view where
  precondition := loads_net_looks
  transform := by
    refine Edit.LooksAt.reading
      (fun draft => Edit.LooksAt.transform (undialled_looks draft.parsed.root _))
      fun {one other} same => ?_
    have root : one.root = other.root := congrArg Draft.View.root same
    have parsed : one.parsed = other.parsed := congrArg Draft.View.parsed same
    simp only [root, parsed]
  untouched _ := rfl

/-- The fix for constructions depends on the view of a draft, for the same reasons. What it collects and
how it rebuilds the tree come from the root and the text, which are in the view. -/
theorem net_addr_keyed_depends : netAddrKeyed.DependsOn Draft.view where
  precondition := loads_net_looks
  transform := by
    refine Edit.LooksAt.reading (fun draft => ?_) fun {one other} same => ?_
    · dsimp only
      split
      · exact Edit.LooksAt.pure false
      · exact Edit.LooksAt.transform fun node => Edit.LooksAt.pure _
    · have root : one.root = other.root := congrArg Draft.View.root same
      have parsed : one.parsed = other.parsed := congrArg Draft.View.parsed same
      simp only [root, parsed]
  untouched _ := rfl

/-- The fixes that come with the program depend on no more than they work on. -/
theorem builtin_depends : ∀ fix ∈ builtin, fix.DependsOn Draft.view := by
  intro fix member
  simp only [builtin, List.mem_cons, List.not_mem_nil, or_false] at member
  rcases member with rfl | rfl
  · exact net_addr_keyed_depends
  · exact net_dial_depends

end Fix

/-- A fix that may see the opened text too. -/
theorem Fix.DependsOn.full {fix : Fix} (dependent : fix.DependsOn Draft.view) :
    fix.DependsOn Draft.fullView where
  precondition := dependent.precondition.full
  transform := dependent.transform.full
  untouched := dependent.untouched

namespace FixedPoint

/-- At most `cap` passes, so that a cap of at least one allows one. -/
theorem one_pass_allowed {cap : Int} (positive : 1 ≤ cap) : 0 < cap.toNat := by
  omega

/-- A draft on which a pass from no warnings applies nothing is driven in that one pass. -/
theorem drive_quiet {fixes : List Fix} {cap : Int} (positive : 1 ≤ cap) {draft last : Draft}
    (quiet : (runPass fixes).run draft.cleared = (.ok [], last)) :
    (drive fixes cap).run draft = (.ok { appliedFixNames := [], passes := 1 }, last) :=
  (passes_ok fixes cap cap.toNat 1 [] [] draft last _).mpr
    ⟨[], draft, .none draft, one_pass_allowed positive, quiet, rfl⟩

/-- Driving that comes to an end leaves a draft on which every fix has nothing to do. Driving that
draft again, with any cap that allows a pass, takes one pass, applies nothing, and leaves the tree,
its text, its printed form and the warnings as they were.

The last pass applied nothing, so all fixes were asked about the tree that is left. The second run
asks them about it again, from no warnings as the last pass did. -/
theorem drive_settles (fixes : List Fix) (cap : Int) (draft after : Draft) (driven : Driven)
    (dependent : ∀ fix ∈ fixes, fix.DependsOn Draft.fullView)
    (completed : (drive fixes cap).run draft = (.ok driven, after)) :
    (∀ fix ∈ fixes, fix.Rests after) ∧
      ∀ again : Int, 1 ≤ again →
        ∃ final, (drive fixes again).run after =
            (.ok { appliedFixNames := [], passes := 1 }, final) ∧
          final.root = after.root ∧ final.text = after.text ∧ final.render = after.render ∧
          final.warnings = after.warnings := by
  obtain ⟨rounds, before, _, _, quiet, _⟩ :=
    (passes_ok fixes cap _ _ _ _ draft after driven).mp completed
  have sees := Draft.full_view_sees
  obtain ⟨kept, rests⟩ := quiet_pass sees dependent quiet
  refine ⟨fun fix member => (dependent fix member).rests kept.symm (rests fix member), ?_⟩
  intro again positive
  have same : before.cleared.fullView = after.cleared.fullView :=
    kept.symm.trans (sees.cleared after).symm
  obtain ⟨final, finalQuiet, finalSame, finalWarnings⟩ :=
    quiet_pass_agrees sees dependent same rfl quiet
  have view : final.view = after.view := sees.view finalSame
  exact ⟨final, drive_quiet positive finalQuiet, congrArg Draft.View.root view,
    congrArg Draft.View.text view, Draft.render_of_view view, finalWarnings⟩

/-- A file that dials with an empty local address. -/
def dialling : String :=
  "import n from\"net\";n.dial(a,\"\",b)"

/-- The same file dialling without it. -/
def dialled : String :=
  "import n from \"net\";\nn.dial(a, b);\n"

/-- The run of the fixes that come with the program over that file: one of them applies. The run is
computed once, with everything that is asked of it. -/
theorem dialling_drives :
    ∃ opened driven after, Draft.parse "/a.ts" dialling = .ok opened ∧
      (drive Fix.builtin 8).run opened = (.ok driven, after) ∧
      driven = { appliedFixNames := ["net-dial"], passes := 2 } ∧ after.text = dialled ∧
      after.render = dialled ∧ after.warnings = [] := by
  have checked : (Draft.parse "/a.ts" dialling).toOption.any (fun opened =>
      ((drive Fix.builtin 8).run opened).1.toOption.any fun driven =>
        let after := ((drive Fix.builtin 8).run opened).2
        driven = { appliedFixNames := ["net-dial"], passes := 2 } ∧ after.text = dialled ∧
          after.render = dialled ∧ after.warnings = []) = true := by
    decide +kernel
  rcases opened : Draft.parse "/a.ts" dialling with cause | draft <;> rw [opened] at checked
  · cases checked
  · rcases ran : (drive Fix.builtin 8).run draft with ⟨thrown | driven, after⟩
    · change (((drive Fix.builtin 8).run draft).1.toOption.any _) = true at checked
      rw [ran] at checked
      cases checked
    · change (((drive Fix.builtin 8).run draft).1.toOption.any _) = true at checked
      rw [ran] at checked
      exact ⟨draft, driven, after, rfl, ran, of_decide_eq_true checked⟩

/-- The file that dials is driven in two passes, and then in one. The general statement is applied to
this run. -/
theorem dialling_settles :
    ∃ opened driven after final, Draft.parse "/a.ts" dialling = .ok opened ∧
      (drive Fix.builtin 8).run opened = (.ok driven, after) ∧ driven.passes = 2 ∧
      (∀ fix ∈ Fix.builtin, fix.Rests after) ∧
      (drive Fix.builtin 1).run after = (.ok { appliedFixNames := [], passes := 1 }, final) ∧
      final.text = dialled := by
  obtain ⟨opened, driven, after, parsed, ran, result, text, _⟩ := dialling_drives
  obtain ⟨rests, settles⟩ := drive_settles Fix.builtin 8 opened after driven
    (fun fix member => (Fix.builtin_depends fix member).full) ran
  obtain ⟨final, again, _, sameText, _⟩ := settles 1 (by decide)
  exact ⟨opened, driven, after, final, parsed, ran, by rw [result], rests, again,
    sameText.trans text⟩

end FixedPoint

/-- A file that was read was read in the dialect of its path. -/
theorem parse_of_file {path text : String} {parsed : Grammar.Parsed}
    (reads : parseFile path text = .ok parsed) :
    Grammar.parse (Grammar.Dialect.ofPath path) text = .ok parsed := by
  unfold parseFile at reads
  cases result : Grammar.parse (Grammar.Dialect.ofPath path) text with
  | error failure =>
    rw [result] at reads
    cases reads
  | ok other =>
    rw [result] at reads
    cases reads
    rfl

/-- A draft whose tree is the one that its text was read as. -/
structure Draft.Fresh (draft : Draft) : Prop where
  reads : parseFile draft.path draft.text = .ok draft.parsed
  root : draft.root = draft.parsed.root
  printed : draft.printed = none
  fault : draft.fault = none

/-- Whether a draft is fresh shows in what a fix works on. -/
theorem Draft.Fresh.of_view {first second : Draft} (fresh : first.Fresh)
    (same : second.view = first.view) : second.Fresh := by
  simp only [Draft.view, Draft.View.mk.injEq] at same
  obtain ⟨path, text, parsed, root, printed, fault⟩ := same
  exact ⟨by rw [path, text, parsed]; exact fresh.reads, by rw [root, parsed]; exact fresh.root,
    printed.trans fresh.printed, fault.trans fresh.fault⟩

/-- What a fix works on in a fresh draft is what it works on when the text is read anew. -/
theorem Draft.Fresh.view_eq {draft : Draft} (fresh : draft.Fresh) :
    (Draft.ofParsed draft.path draft.text draft.parsed).view = draft.view := by
  simp only [Draft.view, Draft.ofParsed, fresh.root, fresh.printed, fresh.fault]

/-- A draft that nothing was done to since its text was read is printed as that text, read, is printed. -/
theorem Draft.render_of_root {draft : Draft} (printed : draft.printed = none)
    (root : draft.root = draft.parsed.root) :
    draft.render = Layout.render draft.parsed.source draft.parsed.root := by
  simp only [Draft.render, printed, root, Option.getD_none]

/-- A draft that was opened is made of what its text was read as. Opening a draft fails only where
reading its text does. -/
theorem Draft.of_parse {path text : String} {draft : Draft}
    (opened : Draft.parse path text = .ok draft) :
    ∃ parsed, parseFile path text = .ok parsed ∧ draft = .ofParsed path text parsed := by
  rw [Draft.parse] at opened
  cases read : parseFile path text with
  | error cause =>
    rw [read] at opened
    cases opened
  | ok parsed =>
    rw [read] at opened
    cases opened
    exact ⟨parsed, rfl, rfl⟩

/-- Opening a text gives a fresh draft of it. -/
theorem Draft.fresh_of_parse {path text : String} {draft : Draft}
    (opened : Draft.parse path text = .ok draft) : draft.Fresh ∧ draft.path = path := by
  obtain ⟨parsed, read, rfl⟩ := Draft.of_parse opened
  exact ⟨⟨read, rfl, rfl, rfl⟩, rfl⟩

/-- The text of a draft that was opened. -/
theorem Draft.text_of_parse {path text : String} {draft : Draft}
    (opened : Draft.parse path text = .ok draft) : draft.text = text := by
  obtain ⟨parsed, _, rfl⟩ := Draft.of_parse opened
  rfl

namespace FixedPoint

/-- Reading a draft back: the printed tree is read, unless the draft cannot be read back. A fault that
was left by a rewriting is thrown first, and taken away with that. -/
theorem run_refresh (draft : Draft) :
    Edit.refresh.run draft =
      match draft.fault with
      | some thrown => (.error thrown, { draft with fault := none })
      | none =>
        match parseFile draft.path draft.render with
        | .ok parsed => (.ok (), draft.reread draft.render parsed)
        | .error cause => (.error (.error cause), draft) := by
  rw [Edit.refresh, Edit.run_reading]
  rcases draft.fault with _ | thrown
  · dsimp only
    rcases parseFile draft.path draft.render with cause | parsed <;> rfl
  · rfl

/-- Reading a draft back, when it succeeds, gives a fresh draft of the same file, whatever the draft
was before. -/
theorem refresh_fresh {draft next : Draft} {value : Unit}
    (reread : Edit.refresh.run draft = (.ok value, next)) :
    next.Fresh ∧ next.path = draft.path := by
  rw [run_refresh] at reread
  cases faulty : draft.fault with
  | some thrown =>
    rw [faulty] at reread
    cases reread
  | none =>
    rw [faulty] at reread
    cases read : parseFile draft.path draft.render with
    | error cause =>
      rw [read] at reread
      cases reread
    | ok parsed =>
      rw [read] at reread
      cases reread
      exact ⟨⟨read, rfl, rfl, faulty⟩, rfl⟩

/-- So does reading it back after a fix, which only blames the fix for a failure. A failure is never
turned into success. -/
theorem refresh_after_fresh {fix : Fix} {draft last : Draft} {value : Unit}
    (refreshed : (refreshAfter fix).run draft = (.ok value, last)) :
    last.Fresh ∧ last.path = draft.path := by
  rw [refreshAfter, Edit.run_reading] at refreshed
  dsimp only at refreshed
  rw [Edit.run_catch] at refreshed
  rcases reread : Edit.refresh.run draft with ⟨thrown | done, next⟩
  · rw [reread] at refreshed
    dsimp only at refreshed
    split at refreshed
    · cases refreshed
    · cases refreshed
  · rw [reread] at refreshed
    cases refreshed
    exact refresh_fresh reread

/-- A pass over a fresh draft leaves a fresh draft of the same file. A fix that does not fire keeps
what it works on; after one that fires the draft is read back. -/
theorem pass_fresh {fixes : List Fix} (dependent : ∀ fix ∈ fixes, fix.DependsOn Draft.view)
    {draft last : Draft} {fired : List String}
    (ran : (runPass fixes).run draft = (.ok fired, last)) (fresh : draft.Fresh) :
    last.Fresh ∧ last.path = draft.path := by
  induction fixes generalizing draft fired with
  | nil =>
    cases ran
    exact ⟨fresh, rfl⟩
  | cons fix rest inductionHypothesis =>
    have fixDependent := dependent fix List.mem_cons_self
    have restDependent : ∀ fix ∈ rest, fix.DependsOn Draft.view :=
      fun other member => dependent other (List.mem_cons_of_mem fix member)
    rw [run_pass_cons] at ran
    rcases fixRan : (runFix fix).run draft with ⟨thrown | _ | _, left⟩ <;> rw [fixRan] at ran
    · cases ran
    · have kept : left.view = draft.view := (quiet_fix Draft.view_sees fixDependent fixRan).1
      obtain ⟨restFresh, restPath⟩ :=
        inductionHypothesis restDependent ran (fresh.of_view kept)
      exact ⟨restFresh, restPath.trans (congrArg Draft.View.path kept)⟩
    · obtain ⟨_, refreshed, refreshRan, more⟩ := (Edit.bind_ok _ _ _ _ _).mp ran
      obtain ⟨names, final, restRan, named⟩ := (Edit.bind_ok _ _ _ _ _).mp more
      cases named
      obtain ⟨refreshedFresh, refreshedPath⟩ := refresh_after_fresh refreshRan
      obtain ⟨restFresh, restPath⟩ := inductionHypothesis restDependent restRan refreshedFresh
      obtain ⟨reply, asked, attempted, rfl, _⟩ := run_fix_ok fixRan
      have path : asked.path = draft.path := by
        simpa only [Edit.after, attempted] using
          (attempt_looks Draft.view_sees fixDependent).path draft
      exact ⟨restFresh, restPath.trans (refreshedPath.trans path)⟩

/-- Any number of rounds over a fresh draft leaves a fresh draft of the same file. -/
theorem rounds_fresh {fixes : List Fix} (dependent : ∀ fix ∈ fixes, fix.DependsOn Draft.view)
    {draft last : Draft} {rounds : List (List String)} (run : Rounds fixes draft rounds last)
    (fresh : draft.Fresh) : last.Fresh ∧ last.path = draft.path := by
  induction run with
  | none draft => exact ⟨fresh, rfl⟩
  | pass ran applied more inductionHypothesis =>
    obtain ⟨nextFresh, nextPath⟩ := pass_fresh dependent ran (fresh.of_view rfl)
    obtain ⟨lastFresh, lastPath⟩ := inductionHypothesis nextFresh
    exact ⟨lastFresh, lastPath.trans nextPath⟩

/-- Driving a fresh draft to an end leaves a fresh draft of the same file. -/
theorem drive_fresh {fixes : List Fix} {cap : Int}
    (dependent : ∀ fix ∈ fixes, fix.DependsOn Draft.view) {draft last : Draft} {driven : Driven}
    (ran : (drive fixes cap).run draft = (.ok driven, last)) (fresh : draft.Fresh) :
    last.Fresh ∧ last.path = draft.path := by
  obtain ⟨rounds, before, run, _, quiet, _⟩ := (passes_ok fixes cap _ _ _ _ _ _ _).mp ran
  obtain ⟨beforeFresh, beforePath⟩ := rounds_fresh dependent run fresh
  have kept : last.view = before.view := (quiet_pass Draft.view_sees dependent quiet).1
  exact ⟨beforeFresh.of_view kept, (congrArg Draft.View.path kept).trans beforePath⟩

/-- Names are added once each, so nothing but the order and number of the new ones is lost. The induction
is on the new names. -/
theorem mem_add_names (names new : List String) (name : String) :
    name ∈ addNames names new ↔ name ∈ names ∨ name ∈ new := by
  induction new generalizing names with
  | nil => simp [addNames]
  | cons first rest inductionHypothesis =>
    have unfolded : addNames names (first :: rest) =
        addNames (if names.contains first then names else names ++ [first]) rest := rfl
    rw [unfolded, inductionHypothesis]
    split
    · rename_i present
      rw [List.contains_iff_mem] at present
      rw [List.mem_cons]
      constructor
      · rintro (before | later)
        · exact .inl before
        · exact .inr (.inr later)
      · rintro (before | rfl | later)
        · exact .inl before
        · exact .inl present
        · exact .inr later
    · simp only [List.mem_append, List.mem_cons, List.not_mem_nil, or_false, or_assoc]

/-- Names once there are never dropped. The induction is on the new names, over those there were. -/
theorem add_names_ne_nil (names new : List String) (some : names ≠ [] ∨ new ≠ []) :
    addNames names new ≠ [] := by
  induction new generalizing names with
  | nil => simpa [addNames] using some
  | cons name rest inductionHypothesis =>
    rw [addNames, List.foldl_cons]
    refine inductionHypothesis _ (.inl ?_)
    split
    · rename_i present
      intro empty
      simp [empty] at present
    · simp

/-- When no fix is recorded as applied, there was no round: a round has a name, and names stay. A name
that was added once stays through all later rounds. -/
theorem no_rounds {fixes : List Fix} {draft last : Draft} {rounds : List (List String)}
    (run : Rounds fixes draft rounds last) (names : List String)
    (unapplied : rounds.foldl addNames names = []) : rounds = [] := by
  have stays (later : List (List String)) (names : List String) (present : names ≠ []) :
      later.foldl addNames names ≠ [] := by
    induction later generalizing names with
    | nil => exact present
    | cons new rest inductionHypothesis =>
      exact inductionHypothesis _ (add_names_ne_nil names new (.inl present))
  cases run with
  | none => rfl
  | pass ran applied more =>
    rw [List.foldl_cons] at unapplied
    exact absurd unapplied (stays _ _ (add_names_ne_nil names _ (.inr applied)))

end FixedPoint

/-- The printer gives back a text that was read for a path. -/
def Reproduced (path text : String) : Prop :=
  ∀ parsed, parseFile path text = .ok parsed → Layout.render parsed.source parsed.root = text

/-- The printer gives back the file that was migrated. -/
theorem dialled_reproduced : Reproduced "/a.ts" dialled := by
  have checked : (match parseFile "/a.ts" dialled with
      | .error _ => true
      | .ok parsed => Layout.render parsed.source parsed.root == dialled) = true := by
    decide +kernel
  intro parsed read
  rw [read] at checked
  exact eq_of_beq checked

/-- The outcome of a text that was kept as it is, with some warnings. -/
def Outcome.unchanged (path text : String) (warnings : List Warning) : Outcome :=
  { path, oldText := text, newText := text, appliedFixNames := [], changed := false, warnings
    error := none }

/-- Processing a text that was read: the draft is driven and what it came to is recorded. -/
theorem process_opened {path text : String} (fixes : List Fix) (cap : Int) {draft : Draft}
    (opened : Draft.parse path text = .ok draft) :
    processSource path text fixes cap =
      match (drive fixes cap).run draft with
      | (.ok driven, after) => .settled path text driven after
      | (.error thrown, _) => .failed path text (Outcome.failure path thrown) := by
  unfold processSource
  exact opened ▸ rfl

/-- A text that is read as a draft on which a pass applies nothing is kept as it is. -/
theorem process_quiet {path text : String} {fixes : List Fix} {cap : Int} (positive : 1 ≤ cap)
    {draft last : Draft} (opened : Draft.parse path text = .ok draft)
    (quiet : (runPass fixes).run draft.cleared = (.ok [], last)) :
    processSource path text fixes cap = .unchanged path text last.warnings := by
  rw [process_opened fixes cap opened, drive_quiet positive quiet]
  simp only [Outcome.settled, Outcome.unchanged, List.isEmpty_nil, if_true, bne_self_eq_false]

/-- A text that was processed without failure was read and driven to an end. Every other end of it has an
error. -/
theorem process_ok {path text : String} {fixes : List Fix} {cap : Int}
    (succeeded : (processSource path text fixes cap).error = none) :
    ∃ opened driven after, Draft.parse path text = .ok opened ∧
      (drive fixes cap).run opened = (.ok driven, after) ∧
      processSource path text fixes cap = .settled path text driven after := by
  rcases opened : Draft.parse path text with cause | draft
  · unfold processSource at succeeded
    rw [opened] at succeeded
    cases succeeded
  · have processed := process_opened fixes cap opened
    rcases ran : (drive fixes cap).run draft with ⟨thrown | driven, after⟩ <;>
      rw [ran] at processed
    · rw [processed] at succeeded
      cases succeeded
    · exact ⟨draft, driven, after, rfl, ran, processed⟩

/-- Processing is idempotent for fixes that depend on what they work on and whose tests do not change
the tree. When a text was processed without failure, and the printer gives back the text that the tree
was last read from if a fix was applied, then processing the new text with any cap that allows a pass
applies nothing, keeps the text and gives the same warnings.

Without an applied fix the new text is the old one, and its first pass is the last one already. Else
the draft in the end is fresh, so that its text is the new text and is read as the tree that the
last pass went over; the first pass of the second run goes the same way. -/
theorem process_idempotent (path text : String) (fixes : List Fix) (cap again : Int)
    (dependent : ∀ fix ∈ fixes, fix.DependsOn Draft.view)
    (succeeded : (processSource path text fixes cap).error = none)
    (reproduced : ∀ opened driven after, Draft.parse path text = .ok opened →
      (drive fixes cap).run opened = (.ok driven, after) → driven.appliedFixNames ≠ [] →
      Reproduced path after.text)
    (positive : 1 ≤ again) :
    processSource path (processSource path text fixes cap).newText fixes again =
      .unchanged path (processSource path text fixes cap).newText
        (processSource path text fixes cap).warnings := by
  obtain ⟨opened, driven, after, parsed, ran, outcome⟩ := process_ok succeeded
  obtain ⟨rounds, before, run, _, quiet, result⟩ := (passes_ok fixes cap _ _ _ _ _ _ _).mp ran
  rw [outcome]
  by_cases applied : driven.appliedFixNames = []
  · have newText : (Outcome.settled path text driven after).newText = text := by
      simp only [Outcome.settled, applied, List.isEmpty_nil, if_true]
    have none : rounds = [] := no_rounds run [] (by simpa only [result] using applied)
    subst none
    cases run
    rw [newText]
    exact process_quiet positive parsed quiet
  · obtain ⟨openedFresh, openedPath⟩ := Draft.fresh_of_parse parsed
    obtain ⟨beforeFresh, beforePath⟩ := rounds_fresh dependent run openedFresh
    have kept : after.view = before.view := (quiet_pass Draft.view_sees dependent quiet).1
    have fresh : after.Fresh := beforeFresh.of_view kept
    have afterPath : after.path = path :=
      (congrArg Draft.View.path kept).trans (beforePath.trans openedPath)
    have reads : parseFile path after.text = .ok after.parsed := afterPath ▸ fresh.reads
    have newText : (Outcome.settled path text driven after).newText = after.text := by
      simp only [Outcome.settled, List.isEmpty_iff, applied, if_false,
        Draft.render_of_root fresh.printed fresh.root]
      exact reproduced opened driven after parsed ran applied after.parsed reads
    have reopened : Draft.parse path after.text =
        .ok (Draft.ofParsed path after.text after.parsed) := by
      simp only [Draft.parse, reads, Except.map]
    have same : before.cleared.view =
        (Draft.ofParsed path after.text after.parsed).cleared.view := by
      have reread := fresh.view_eq
      rw [afterPath] at reread
      exact kept.symm.trans reread.symm
    obtain ⟨final, finalQuiet, _, finalWarnings⟩ :=
      quiet_pass_agrees Draft.view_sees dependent same rfl quiet
    rw [newText, process_quiet positive reopened finalQuiet, finalWarnings]
    rfl

/-- The file that dials is changed once; processing the result with a cap of one pass keeps it. The
general statement is applied to this run, of which it is known that what it left reproduces its text. -/
theorem dialling_idempotent :
    (processSource "/a.ts" dialling Fix.builtin 8).newText = dialled ∧
      processSource "/a.ts" dialled Fix.builtin 1 = .unchanged "/a.ts" dialled [] := by
  obtain ⟨opened, driven, after, parsed, ran, rfl, text, render, warnings⟩ := dialling_drives
  have outcome : processSource "/a.ts" dialling Fix.builtin 8 =
      .settled "/a.ts" dialling { appliedFixNames := ["net-dial"], passes := 2 } after := by
    rw [process_opened Fix.builtin 8 parsed, ran]
  have newText : (processSource "/a.ts" dialling Fix.builtin 8).newText = dialled := by
    rw [outcome]
    exact render
  have kept := process_idempotent "/a.ts" dialling Fix.builtin 8 1 Fix.builtin_depends
    (by rw [outcome]; rfl)
    (by
      intro opened' driven' after' parsed' ran' _
      cases parsed.symm.trans parsed'
      cases ran.symm.trans ran'
      exact text ▸ dialled_reproduced)
    (by decide)
  rw [newText] at kept
  refine ⟨newText, kept.trans ?_⟩
  rw [outcome]
  exact congrArg (Outcome.unchanged "/a.ts" dialled) warnings

namespace Fix

/-- A fix that puts `b` in the place of `a` where the text is `a;`. -/
def forth : Fix where
  name := "forth"
  date := "2020-01-01"
  description := "Renames a to b."
  precondition := do return (← get).text == "a;\n"
  transform := Edit.transform fun node => return node.renamed "a" "b"

/-- A fix whose test puts `a` in the place of `b` and then says that there is nothing to do. -/
def back : Fix where
  name := "back"
  date := "2020-01-02"
  description := "Renames b to a."
  precondition := do
    let _ ← Edit.transform fun node => return node.renamed "b" "a"
    return false
  transform := return false

/-- The one renames forth, and the test of the other renames back. -/
def swinging : List Fix :=
  [forth, back]

/-- A renaming looks at the tree only. -/
theorem renaming_looks (old new : String) :
    Edit.LooksAt Draft.view (Edit.transform fun node => return node.renamed old new) :=
  Edit.LooksAt.transform fun node => Edit.LooksAt.pure (node.renamed old new)

/-- Both fixes look at what a fix works on and at nothing else: the one at the text and the tree, the
other at the tree. Only the test of the second does more than look. -/
theorem swinging_looks : ∀ fix ∈ swinging,
    Edit.LooksAt Draft.view fix.precondition ∧ Edit.LooksAt Draft.view fix.transform := by
  intro fix member
  simp only [swinging, List.mem_cons, List.not_mem_nil, or_false] at member
  rcases member with rfl | rfl
  · refine ⟨Edit.LooksAt.reading (fun draft => Edit.LooksAt.pure _) fun {one other} same => ?_,
      renaming_looks "a" "b"⟩
    have text : one.text = other.text := congrArg Draft.View.text same
    simp only [text]
  · exact ⟨(renaming_looks "b" "a").bind fun _ => Edit.LooksAt.pure false, Edit.LooksAt.pure false⟩

end Fix

/-- What the two fixes do to `a;`. The first applies, the text is read back as `b;`, and the test of the
second has the tree print as `a;` again. In the second pass the text is still `b;`, so that nothing
applies; what is printed in the end is the text at the start. -/
theorem swinging_processed :
    processSource "/a.ts" "a;\n" Fix.swinging 8 =
      { path := "/a.ts", oldText := "a;\n", newText := "a;\n", appliedFixNames := ["forth"]
        changed := false, warnings := [], error := none } := by
  decide +kernel

/-- The text that was read last in that run is one that the printer gives back. It was read back in the
run, and printing what was read gives it again. -/
theorem swinging_reproduced (opened after : Draft) (driven : Driven)
    (parsed : Draft.parse "/a.ts" "a;\n" = .ok opened)
    (ran : (drive Fix.swinging 8).run opened = (.ok driven, after)) :
    Reproduced "/a.ts" after.text := by
  have checked : ((Draft.parse "/a.ts" "a;\n").toOption.all fun opened =>
      let text := ((drive Fix.swinging 8).run opened).2.text
      (parseFile "/a.ts" text).toOption.all fun parsed =>
        Layout.render parsed.source parsed.root == text) = true := by
    decide +kernel
  intro tree read
  rw [parsed] at checked
  simp only [ran, read, Except.toOption, Option.all_some] at checked
  exact eq_of_beq checked

/-- Where a test may change the tree, processing is not idempotent. The new text of that run is the text
at the start, to which a fix applies the second time as it did the first. -/
theorem swinging_not_idempotent :
    (∀ fix ∈ Fix.swinging,
      Edit.LooksAt Draft.view fix.precondition ∧ Edit.LooksAt Draft.view fix.transform) ∧
    (processSource "/a.ts" "a;\n" Fix.swinging 8).error = none ∧
    (∀ opened driven after, Draft.parse "/a.ts" "a;\n" = .ok opened →
      (drive Fix.swinging 8).run opened = (.ok driven, after) → Reproduced "/a.ts" after.text) ∧
    (processSource "/a.ts" (processSource "/a.ts" "a;\n" Fix.swinging 8).newText
      Fix.swinging 8).appliedFixNames = ["forth"] := by
  refine ⟨Fix.swinging_looks, ?_, ?_, ?_⟩
  · rw [swinging_processed]
  · intro opened driven after parsed ran
    exact swinging_reproduced opened after driven parsed ran
  · simp only [swinging_processed]

end Codemod
