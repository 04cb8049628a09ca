import Codemod.Proofs.Settling

/-!
# What outcomes say

A fix may do anything to a draft: throw, claim a change that it did not make, conceal one that it
made, or leave a tree that cannot be read back. Whatever it does, the outcome of a text holds that text,
and it holds a new one only when all passes came to an end without a failure. A failure is that of the
first fix in the order of the run that went wrong; the ones before it kept to their word. Running out
of passes is a failure of its own, and the parser's complaint about the text another one.

A text is also reported as changed exactly when a fix is reported as applied, for fixes that depend on
what they work on and whose tests do not change the tree: had they led back to the text at the start, the
first pass would have been the last. A test that changes the tree can lead back unnoticed.
-/
namespace Codemod

open Syntax FixedPoint

namespace FixedPoint

/-- What asking a fix comes to: its test runs first, and its transformation on what the test left. -/
inductive Asked (fix : Fix) (draft : Draft) : Except Thrown (Option Bool) → Draft → Prop where
  | untested {thrown : Thrown} {left : Draft}
      (tested : fix.precondition.run (draft.running fix.name) = (.error thrown, left)) :
    Asked fix draft (.error thrown) left
  | refused {left : Draft}
      (tested : fix.precondition.run (draft.running fix.name) = (.ok false, left)) :
    Asked fix draft (.ok none) left
  | untransformed {thrown : Thrown} {middle left : Draft}
      (tested : fix.precondition.run (draft.running fix.name) = (.ok true, middle))
      (transformed : fix.transform.run middle = (.error thrown, left)) :
    Asked fix draft (.error thrown) left
  | answered {changed : Bool} {middle left : Draft}
      (tested : fix.precondition.run (draft.running fix.name) = (.ok true, middle))
      (transformed : fix.transform.run middle = (.ok changed, left)) :
    Asked fix draft (.ok (some changed)) left

/-- A fix that keeps to its word on a draft: whether it fired, and the draft that comes after it. A
draft that it changed is read back. -/
inductive Behaves (fix : Fix) (draft : Draft) : Bool → Draft → Prop where
  | refused {left : Draft} (asked : Asked fix draft (.ok none) left) :
    Behaves fix draft false (left.running "")
  | idle {left : Draft} (asked : Asked fix draft (.ok (some false)) left)
      (kept : left.revision = draft.revision) : Behaves fix draft false (left.running "")
  | fired {left next : Draft} (asked : Asked fix draft (.ok (some true)) left)
      (replaced : left.revision ≠ draft.revision)
      (reread : Edit.refresh.run (left.running "") = (.ok (), next)) : Behaves fix draft true next

/-- A fix that goes wrong on a draft, with the failure that is recorded of it. -/
inductive Errs (path : String) (fix : Fix) (draft : Draft) : FileError → Prop where
  /-- It throws. -/
  | threw {thrown : Thrown} {left : Draft} (asked : Asked fix draft (.error thrown) left) :
    Errs path fix draft (.fix draft.path fix.name thrown.message)
  /-- It says that it replaced the tree, and did not. -/
  | overclaimed {left : Draft} (asked : Asked fix draft (.ok (some true)) left)
      (kept : left.revision = draft.revision) :
    Errs path fix draft
      (.fix draft.path fix.name "reported a change but left the tree untouched")
  /-- It says that it did not replace the tree, and did. -/
  | concealed {left : Draft} (asked : Asked fix draft (.ok (some false)) left)
      (replaced : left.revision ≠ draft.revision) :
    Errs path fix draft (.fix draft.path fix.name "changed the tree without reporting it")
  /-- What it made is printed to a text that the parser complains about. -/
  | broke {left last : Draft} {place detail : String} {line column : Int}
      (asked : Asked fix draft (.ok (some true)) left)
      (replaced : left.revision ≠ draft.revision)
      (unread : Edit.refresh.run (left.running "") =
        (.error (.error (.file (.parse place line column detail))), last)) :
    Errs path fix draft (.fix left.path fix.name ("produced unparsable output: " ++ detail))
  /-- What it made cannot be read back for a reason that is no failure of the file. -/
  | unread {left last : Draft} {thrown : Thrown}
      (asked : Asked fix draft (.ok (some true)) left)
      (replaced : left.revision ≠ draft.revision)
      (unread : Edit.refresh.run (left.running "") = (.error thrown, last))
      (other : ∀ cause, thrown ≠ .error (.file cause)) :
    Errs path fix draft (.fix path "unknown" thrown.message)
  /-- It makes reading back fail with another failure of the file. -/
  | misled {left last : Draft} {cause : FileError}
      (asked : Asked fix draft (.ok (some true)) left)
      (replaced : left.revision ≠ draft.revision)
      (unread : Edit.refresh.run (left.running "") = (.error (.error (.file cause)), last))
      (other : ∀ place line column detail, cause ≠ .parse place line column detail) :
    Errs path fix draft cause

/-- Fixes that keep to their word one after another, with the names of those that fired. -/
inductive Through : List Fix → Draft → List String → Draft → Prop where
  | done (draft : Draft) : Through [] draft [] draft
  | rested {fix : Fix} {rest : List Fix} {draft next last : Draft} {names : List String}
      (behaves : Behaves fix draft false next) (more : Through rest next names last) :
    Through (fix :: rest) draft names last
  | fired {fix : Fix} {rest : List Fix} {draft next last : Draft} {names : List String}
      (behaves : Behaves fix draft true next) (more : Through rest next names last) :
    Through (fix :: rest) draft (fix.name :: names) last

/-- The first of several fixes that goes wrong, all before it having kept to their word. -/
inductive Breaks (path : String) : List Fix → Draft → FileError → Prop where
  | here {fix : Fix} {rest : List Fix} {draft : Draft} {error : FileError}
      (errs : Errs path fix draft error) : Breaks path (fix :: rest) draft error
  | later {fix : Fix} {rest : List Fix} {draft next : Draft} {fired : Bool} {error : FileError}
      (behaves : Behaves fix draft fired next) (more : Breaks path rest next error) :
    Breaks path (fix :: rest) draft error

/-- Passes in a row in each of which all fixes keep to their word and some fire. -/
inductive Laps (fixes : List Fix) : Draft → List (List String) → Draft → Prop where
  | none (draft : Draft) : Laps fixes draft [] draft
  | lap {draft next last : Draft} {fired : List String} {later : List (List String)}
      (through : Through fixes draft.cleared fired next) (applied : fired ≠ [])
      (more : Laps fixes next later last) : Laps fixes draft (fired :: later) last

/-- A run that comes to an end: after fewer passes than are allowed, all fixes keep to their word in a
pass and none fires. -/
def Ends (fixes : List Fix) (cap : Int) (draft : Draft) (rounds : List (List String))
    (last : Draft) : Prop :=
  ∃ before, Laps fixes draft rounds before ∧ rounds.length < cap.toNat ∧
    Through fixes before.cleared [] last

/-- A run that fails: with what is recorded of the first fix that goes wrong; or for want of passes, when
some fix fired in each of those that are allowed and none went wrong. -/
def Fails (path : String) (fixes : List Fix) (cap : Int) (draft : Draft) (error : FileError) : Prop :=
  (∃ rounds before, Laps fixes draft rounds before ∧ rounds.length < cap.toNat ∧
    Breaks path fixes before.cleared error) ∨
  ∃ rounds last, Laps fixes draft rounds last ∧ rounds.length = cap.toNat ∧
    error = .convergence last.path cap (rounds.getLastD [])

/-- Asking a fix comes to the end that is said exactly if running it does. The cases are those of its
test and of its transformation: either may throw, the test may answer no, and else the transformation
answers. -/
theorem asked_iff {fix : Fix} {draft left : Draft} {reply : Except Thrown (Option Bool)} :
    Asked fix draft reply left ↔ (attempt fix).run draft = (reply, left) := by
  rw [run_attempt]
  constructor
  · intro asked
    cases asked with
    | untested tested => rw [tested]
    | refused tested => rw [tested]
    | untransformed tested transformed => simp only [tested, transformed]
    | answered tested transformed => simp only [tested, transformed]
  · intro ran
    rcases tested : fix.precondition.run (draft.running fix.name) with ⟨thrown | _ | _, middle⟩ <;>
      rw [tested] at ran
    · cases ran
      exact .untested tested
    · cases ran
      exact .refused tested
    · dsimp only at ran
      rcases transformed : fix.transform.run middle with ⟨thrown | changed, last⟩ <;>
        rw [transformed] at ran <;> cases ran
      · exact .untransformed tested transformed
      · exact .answered tested transformed

/-- The turn of a fix in a pass: it runs, and the draft is read back when it fired. -/
def turn (fix : Fix) : Edit Bool := do
  if ← runFix fix then
    refreshAfter fix
    return true
  else return false

/-- A name that is put before the names that a computation gives changes nothing else about it. -/
theorem run_named (name : String) (edit : Edit (List String)) (draft : Draft) :
    ((name :: ·) <$> edit : Edit (List String)).run draft =
      match edit.run draft with
      | (.ok names, last) => (.ok (name :: names), last)
      | (.error thrown, last) => (.error thrown, last) := by
  rw [map_eq_pure_bind, Edit.run_bind]
  rcases edit.run draft with ⟨thrown | names, last⟩ <;> rfl

/-- A pass is the turn of its first fix and then the rest of the pass. The name of a fix that fired is
put before the names of the rest. -/
theorem run_pass_turn (fix : Fix) (rest : List Fix) (draft : Draft) :
    (runPass (fix :: rest)).run draft =
      match (turn fix).run draft with
      | (.ok true, next) => ((fix.name :: ·) <$> runPass rest : Edit (List String)).run next
      | (.ok false, next) => (runPass rest).run next
      | (.error thrown, last) => (.error thrown, last) := by
  rw [run_pass_cons, turn, Edit.run_bind]
  rcases (runFix fix).run draft with ⟨thrown | _ | _, left⟩
  · rfl
  · rfl
  · simp only [if_true, Edit.run_bind]
    rcases (refreshAfter fix).run left with ⟨thrown | _, next⟩
    · rfl
    · simp only [Edit.run_pure, run_named]
      rcases (runPass rest).run next with ⟨thrown | names, last⟩ <;> rfl

/-- Reading the draft back after a fix changed it: a complaint of the parser is put down to the fix. Any
other failure is passed on as it is. -/
theorem run_refresh_blamed (fix : Fix) (draft : Draft) :
    (refreshAfter fix).run draft =
      match Edit.refresh.run draft with
      | (.ok (), next) => (.ok (), next)
      | (.error (.error (.file (.parse _ _ _ detail))), last) =>
        (.error (fixError draft.path fix ("produced unparsable output: " ++ detail)), last)
      | (.error thrown, last) => (.error thrown, last) := by
  rw [refreshAfter, Edit.run_reading]
  dsimp only
  rw [Edit.run_catch]
  rcases Edit.refresh.run draft with ⟨thrown | _, last⟩
  · dsimp only
    split <;> simp_all
  · rfl

/-- The turn of a fix, by what asking it comes to and by reading the draft back. The cases are those of
the answer and of whether the tree was replaced. Reading back happens only after a change that was
reported, and a failure to parse is then blamed on the fix. -/
theorem run_turn (fix : Fix) (draft : Draft) :
    (turn fix).run draft =
      match (attempt fix).run draft with
      | (.error thrown, left) => (.error (fixError draft.path fix thrown.message), left.running "")
      | (.ok none, left) => (.ok false, left.running "")
      | (.ok (some false), left) =>
        if left.revision = draft.revision then (.ok false, left.running "")
        else (.error (fixError draft.path fix "changed the tree without reporting it"), left.running "")
      | (.ok (some true), left) =>
        if left.revision = draft.revision then
          (.error (fixError draft.path fix "reported a change but left the tree untouched"),
            left.running "")
        else
          match Edit.refresh.run (left.running "") with
          | (.ok (), next) => (.ok true, next)
          | (.error (.error (.file (.parse _ _ _ detail))), last) =>
            (.error (fixError left.path fix ("produced unparsable output: " ++ detail)), last)
          | (.error thrown, last) => (.error thrown, last) := by
  rw [turn, Edit.run_bind, run_fix]
  rcases (attempt fix).run draft with ⟨thrown | _ | _ | _, left⟩
  · rfl
  · rfl
  · by_cases kept : left.revision = draft.revision <;> simp [kept]
  · by_cases kept : left.revision = draft.revision
    · simp [kept]
    · simp only [kept, beq_iff_eq, Bool.true_and, if_false, Bool.not_true, Bool.false_and,
        Bool.false_eq_true, if_true, Edit.run_bind, run_refresh_blamed]
      rcases Edit.refresh.run (left.running "") with ⟨thrown | _, last⟩
      · cases thrown with
        | value => rfl
        | error cause =>
          cases cause with
          | file cause => cases cause <;> rfl
          | _ => rfl
      · rfl

/-- The turn of a fix that keeps to its word. -/
theorem Behaves.run {fix : Fix} {draft next : Draft} {fired : Bool}
    (behaves : Behaves fix draft fired next) : (turn fix).run draft = (.ok fired, next) := by
  rw [run_turn]
  cases behaves with
  | refused asked => rw [asked_iff.mp asked]
  | idle asked kept => simp only [asked_iff.mp asked, kept, if_true]
  | fired asked replaced reread => simp only [asked_iff.mp asked, replaced, if_false, reread]

/-- The turn of a fix that goes wrong fails, and its failure is recorded as that of the fix. There is one
case for each way to go wrong. -/
theorem Errs.run {path : String} {fix : Fix} {draft : Draft} {error : FileError}
    (errs : Errs path fix draft error) :
    ∃ thrown last, (turn fix).run draft = (.error thrown, last) ∧
      Outcome.failure path thrown = error := by
  rw [run_turn]
  cases errs with
  | threw asked => exact ⟨_, _, by rw [asked_iff.mp asked], rfl⟩
  | overclaimed asked kept =>
    rw [asked_iff.mp asked]
    exact ⟨_, _, if_pos kept, rfl⟩
  | concealed asked replaced =>
    rw [asked_iff.mp asked]
    exact ⟨_, _, if_neg replaced, rfl⟩
  | broke asked replaced unread =>
    simp only [asked_iff.mp asked, replaced, if_false, unread]
    exact ⟨_, _, rfl, rfl⟩
  | @unread left last thrown asked replaced unread other =>
    refine ⟨thrown, last, ?_, ?_⟩
    · simp only [asked_iff.mp asked, replaced, if_false, unread]
      split <;> simp_all
    · unfold Outcome.failure
      split
      · exact absurd rfl (other _)
      · rfl
  | @misled left last _ asked replaced unread other =>
    refine ⟨.error (.file error), last, ?_, rfl⟩
    simp only [asked_iff.mp asked, replaced, if_false, unread]
    split <;> simp_all

/-- Every fix keeps to its word on a draft or goes wrong on it. The cases are those of the answer, of
whether the tree was replaced, and of reading it back. -/
theorem turn_cases (path : String) (fix : Fix) (draft : Draft) :
    (∃ fired next, Behaves fix draft fired next) ∨ ∃ error, Errs path fix draft error := by
  rcases asked : (attempt fix).run draft with ⟨thrown | _ | _ | _, left⟩
  · exact .inr ⟨_, .threw (asked_iff.mpr asked)⟩
  · exact .inl ⟨_, _, .refused (asked_iff.mpr asked)⟩
  · by_cases kept : left.revision = draft.revision
    · exact .inl ⟨_, _, .idle (asked_iff.mpr asked) kept⟩
    · exact .inr ⟨_, .concealed (asked_iff.mpr asked) kept⟩
  · by_cases kept : left.revision = draft.revision
    · exact .inr ⟨_, .overclaimed (asked_iff.mpr asked) kept⟩
    · rcases read : Edit.refresh.run (left.running "") with ⟨thrown | _, last⟩
      · refine .inr ?_
        by_cases known : ∃ cause, thrown = .error (.file cause)
        · obtain ⟨cause, rfl⟩ := known
          cases cause with
          | parse place line column detail =>
            exact ⟨_, .broke (asked_iff.mpr asked) kept read⟩
          | io | convergence | fix =>
            exact ⟨_, .misled (asked_iff.mpr asked) kept read (by simp)⟩
        · exact ⟨_, .unread (asked_iff.mpr asked) kept read fun cause same => known ⟨cause, same⟩⟩
      · exact .inl ⟨_, _, .fired (asked_iff.mpr asked) kept read⟩

/-- The turn of a fix answers exactly when it keeps to its word. -/
theorem turn_ok {fix : Fix} {draft next : Draft} {fired : Bool} :
    (turn fix).run draft = (.ok fired, next) ↔ Behaves fix draft fired next := by
  refine ⟨fun ran => ?_, Behaves.run⟩
  obtain ⟨other, last, behaves⟩ | ⟨error, errs⟩ := turn_cases draft.path fix draft
  · cases ran.symm.trans behaves.run
    exact behaves
  · obtain ⟨thrown, last, failed, _⟩ := errs.run
    cases ran.symm.trans failed

/-- The turn of a fix fails exactly when it goes wrong. -/
theorem turn_error {path : String} {fix : Fix} {draft : Draft} {error : FileError} :
    (∃ thrown last, (turn fix).run draft = (.error thrown, last) ∧
      Outcome.failure path thrown = error) ↔ Errs path fix draft error := by
  refine ⟨?_, Errs.run⟩
  rintro ⟨thrown, last, ran, recorded⟩
  obtain ⟨fired, next, behaves⟩ | ⟨other, errs⟩ := turn_cases path fix draft
  · cases ran.symm.trans behaves.run
  · obtain ⟨same, _, failed, also⟩ := errs.run
    cases ran.symm.trans failed
    rwa [← recorded, also]

/-- A pass answers exactly when all its fixes keep to their word. The induction is on the fixes: the
first has its turn, and the rest goes on from what it leaves. -/
theorem pass_ok {fixes : List Fix} {draft last : Draft} {names : List String} :
    (runPass fixes).run draft = (.ok names, last) ↔ Through fixes draft names last := by
  induction fixes generalizing draft names with
  | nil =>
    constructor
    · intro ran
      cases ran
      exact .done _
    · intro through
      cases through
      rfl
  | cons fix rest inductionHypothesis =>
    rw [run_pass_turn]
    constructor
    · intro ran
      rcases turned : (turn fix).run draft with ⟨thrown | _ | _, next⟩ <;> rw [turned] at ran
      · cases ran
      · exact .rested (turn_ok.mp turned) (inductionHypothesis.mp ran)
      · dsimp only at ran
        rw [run_named] at ran
        rcases more : (runPass rest).run next with ⟨thrown | later, final⟩ <;> rw [more] at ran
        · cases ran
        · cases ran
          exact .fired (turn_ok.mp turned) (inductionHypothesis.mp more)
    · intro through
      cases through with
      | rested behaves more => simpa only [behaves.run] using inductionHypothesis.mpr more
      | fired behaves more => simp only [behaves.run, run_named, inductionHypothesis.mpr more]

/-- A pass fails exactly when one of its fixes goes wrong, with what is recorded of the first one. The
induction is on the fixes: the first goes wrong, or it keeps to its word and one of the rest does. The
names that fired before are lost with the failure. -/
theorem pass_error {path : String} {fixes : List Fix} {draft : Draft} {error : FileError} :
    (∃ thrown last, (runPass fixes).run draft = (.error thrown, last) ∧
      Outcome.failure path thrown = error) ↔ Breaks path fixes draft error := by
  induction fixes generalizing draft with
  | nil =>
    constructor
    · rintro ⟨_, _, impossible, _⟩
      cases impossible
    · intro impossible
      cases impossible
  | cons fix rest inductionHypothesis =>
    constructor
    · rintro ⟨thrown, last, ran, recorded⟩
      rw [run_pass_turn] at ran
      rcases turned : (turn fix).run draft with ⟨other | _ | _, next⟩ <;> rw [turned] at ran
      · cases ran
        exact .here (turn_error.mp ⟨_, _, turned, recorded⟩)
      · exact .later (turn_ok.mp turned) (inductionHypothesis.mp ⟨_, _, ran, recorded⟩)
      · dsimp only at ran
        rw [run_named] at ran
        rcases more : (runPass rest).run next with ⟨other | later, final⟩ <;> rw [more] at ran
        · cases ran
          exact .later (turn_ok.mp turned) (inductionHypothesis.mp ⟨_, _, more, recorded⟩)
        · cases ran
    · intro breaks
      cases breaks with
      | here errs =>
        obtain ⟨thrown, last, failed, recorded⟩ := errs.run
        exact ⟨thrown, last, by rw [run_pass_turn, failed], recorded⟩
      | @later _ _ _ next fired _ behaves more =>
        obtain ⟨thrown, last, failed, recorded⟩ := inductionHypothesis.mpr more
        refine ⟨thrown, last, ?_, recorded⟩
        rw [run_pass_turn, behaves.run]
        cases fired with
        | false => exact failed
        | true => simp only [run_named, failed]

/-- The passes that a run makes are those in which each fix does what it says. The induction is on the
passes in both directions, each of which is taken apart into turns. -/
theorem rounds_iff_laps {fixes : List Fix} {draft last : Draft} {rounds : List (List String)} :
    Rounds fixes draft rounds last ↔ Laps fixes draft rounds last := by
  constructor
  · intro run
    induction run with
    | none draft => exact .none draft
    | pass ran applied more inductionHypothesis =>
      exact .lap (pass_ok.mp ran) applied inductionHypothesis
  · intro laps
    induction laps with
    | none draft => exact .none draft
    | lap through applied more inductionHypothesis =>
      exact .pass (pass_ok.mpr through) applied inductionHypothesis

/-- A pass and then, if it applied something, the passes after it. A pass that applied nothing is the
last one, and it is counted. -/
theorem run_passes_succ (fixes : List Fix) (cap : Int) (remaining number : Nat)
    (applied fired : List String) (draft : Draft) :
    (passes fixes cap (remaining + 1) number applied fired).run draft =
      match (runPass fixes).run draft.cleared with
      | (.ok [], last) => (.ok { appliedFixNames := applied, passes := number }, last)
      | (.ok (name :: names), next) =>
        (passes fixes cap remaining (number + 1) (addNames applied (name :: names))
          (name :: names)).run next
      | (.error thrown, last) => (.error thrown, last) := by
  rw [passes, Edit.run_bind, Edit.run_clear_warnings]
  dsimp only
  rw [Edit.run_bind]
  rcases (runPass fixes).run draft.cleared with ⟨thrown | _ | _, next⟩
  · rfl
  · rfl
  · rfl

/-- Driving fails exactly when, after fewer rounds than are allowed, a pass fails, or when there were as
many rounds as are allowed. -/
theorem passes_error (path : String) (fixes : List Fix) (cap : Int) (remaining number : Nat)
    (applied fired : List String) (draft : Draft) (error : FileError) :
    (∃ thrown last, (passes fixes cap remaining number applied fired).run draft =
        (.error thrown, last) ∧ Outcome.failure path thrown = error) ↔
      (∃ rounds before, Laps fixes draft rounds before ∧ rounds.length < remaining ∧
        Breaks path fixes before.cleared error) ∨
      ∃ rounds last, Laps fixes draft rounds last ∧ rounds.length = remaining ∧
        error = .convergence last.path cap (rounds.getLastD fired) := by
  induction remaining generalizing number applied fired draft with
  | zero =>
    constructor
    · rintro ⟨thrown, last, ran, recorded⟩
      cases ran
      exact .inr ⟨[], draft, .none draft, rfl, recorded.symm⟩
    · rintro (⟨_, _, _, impossible, _⟩ | ⟨rounds, last, laps, none, rfl⟩)
      · exact absurd impossible (Nat.not_lt_zero _)
      · cases List.length_eq_zero_iff.mp none
        cases laps
        exact ⟨_, _, rfl, rfl⟩
  | succ remaining inductionHypothesis =>
    rw [run_passes_succ]
    constructor
    · rintro ⟨thrown, last, ran, recorded⟩
      rcases passed : (runPass fixes).run draft.cleared with ⟨other | _ | ⟨name, names⟩, next⟩ <;>
        rw [passed] at ran
      · cases ran
        exact .inl ⟨[], draft, .none draft, Nat.succ_pos _, pass_error.mp ⟨_, _, passed, recorded⟩⟩
      · cases ran
      · have lap {rounds : List (List String)} {final : Draft} (laps : Laps fixes next rounds final) :
            Laps fixes draft ((name :: names) :: rounds) final :=
          .lap (pass_ok.mp passed) (List.cons_ne_nil _ _) laps
        obtain ⟨rounds, before, laps, fewer, breaks⟩ | ⟨rounds, final, laps, all, rfl⟩ :=
          (inductionHypothesis _ _ _ _).mp ⟨thrown, last, ran, recorded⟩
        · exact .inl ⟨_, before, lap laps, Nat.succ_lt_succ fewer, breaks⟩
        · refine .inr ⟨_, final, lap laps, congrArg (· + 1) all, ?_⟩
          cases rounds <;> rfl
    · rintro (⟨rounds, before, laps, fewer, breaks⟩ | ⟨rounds, final, laps, all, rfl⟩)
      · cases laps with
        | none =>
          obtain ⟨thrown, last, failed, recorded⟩ := pass_error.mpr breaks
          exact ⟨thrown, last, by rw [failed], recorded⟩
        | @lap _ next _ names later through applied more =>
          obtain ⟨name, rest, rfl⟩ := List.exists_cons_of_ne_nil applied
          rw [pass_ok.mpr through]
          exact (inductionHypothesis _ _ _ _).mpr
            (.inl ⟨later, before, more, Nat.lt_of_succ_lt_succ fewer, breaks⟩)
      · cases laps with
        | none => cases all
        | @lap _ next _ names later through applied more =>
          obtain ⟨name, rest, rfl⟩ := List.exists_cons_of_ne_nil applied
          rw [pass_ok.mpr through]
          refine (inductionHypothesis _ _ _ _).mpr (.inr ⟨later, final, more, Nat.succ.inj all, ?_⟩)
          cases later <;> rfl

end FixedPoint

/-- What the outcome of a text says of the run that gave it. -/
structure Outcome.Accounts (path text : String) (fixes : List Fix) (cap : Int) (outcome : Outcome) :
    Prop where
  place : outcome.path = path
  oldText : outcome.oldText = text
  changed : outcome.changed = (outcome.newText != text)
  /-- Without a fix that applied the text stays. -/
  unapplied : outcome.appliedFixNames = [] → outcome.newText = text
  /-- A failure leaves nothing of what the fixes did. -/
  failed : outcome.error ≠ none →
    outcome.newText = text ∧ outcome.appliedFixNames = [] ∧ outcome.warnings = []
  /-- A failure to parse is the complaint of the parser about the text. -/
  complained : ∀ place line column detail,
    outcome.error = some (.parse place line column detail) ↔
      ∃ position : Position, line = position.line ∧ column = position.column ∧ place = path ∧
        Grammar.parse (Grammar.Dialect.ofPath path) text = .error (.complaint position detail)
  /-- A text on which the parser breaks off without a complaint is reported under no fix's name. -/
  brokenOff : ∀ failure, Grammar.parse (Grammar.Dialect.ofPath path) text = .error failure →
    (∀ position detail, failure ≠ .complaint position detail) →
    outcome.error = some (.fix path "unknown" (parseError path failure).message)
  /-- A run over a text that was read succeeds when it comes to an end. -/
  settled : ∀ opened, Draft.parse path text = .ok opened → (outcome.error = none ↔
    ∃ rounds last, Ends fixes cap opened rounds last ∧
      outcome.appliedFixNames = rounds.foldl addNames [] ∧ outcome.warnings = last.warnings ∧
      outcome.newText = if rounds = [] then text else last.render)
  /-- Else it fails with one error. -/
  erred : ∀ opened, Draft.parse path text = .ok opened → ∀ error,
    outcome.error = some error ↔ Fails path fixes cap opened error

/-- What is recorded of a fix that goes wrong is no failure to parse. -/
theorem FixedPoint.Errs.not_parse {path place detail : String} {line column : Int} {fix : Fix}
    {draft : Draft} : ¬Errs path fix draft (.parse place line column detail) := by
  intro errs
  cases errs with
  | misled asked replaced unread other => exact other _ _ _ _ rfl

/-- A pass that breaks off does not do so with a failure to parse: what a fix does wrong is recorded
under the name of the fix. -/
theorem FixedPoint.Breaks.not_parse {path place detail : String} {line column : Int}
    {fixes : List Fix} {draft : Draft} :
    ¬Breaks path fixes draft (.parse place line column detail) := by
  intro breaks
  generalize recorded : FileError.parse place line column detail = error at breaks
  induction breaks with
  | here errs => exact (recorded ▸ errs).not_parse
  | later behaves more inductionHypothesis => exact inductionHypothesis recorded

/-- The outcome of a text that cannot be read is the failure to read it. -/
theorem process_unread {path text : String} (fixes : List Fix) (cap : Int)
    {failure : Grammar.Failure}
    (unread : Grammar.parse (Grammar.Dialect.ofPath path) text = .error failure) :
    processSource path text fixes cap =
      .failed path text (Outcome.failure path (.error (parseError path failure))) := by
  have refused : Draft.parse path text = .error (parseError path failure) := by
    rw [Draft.parse, parseFile, unread]
    rfl
  unfold processSource
  rw [refused]

/-- A run that fails does not do so with a failure to parse, which is only met before a run begins. -/
theorem FixedPoint.Fails.not_parse {path place detail : String} {line column : Int}
    {fixes : List Fix} {cap : Int} {draft : Draft} :
    ¬Fails path fixes cap draft (.parse place line column detail) := by
  rintro (⟨_, _, _, _, breaks⟩ | ⟨_, _, _, _, impossible⟩)
  · exact breaks.not_parse
  · cases impossible

/-- Driving gives an answer exactly when it comes to an end. -/
theorem drive_ok {fixes : List Fix} {cap : Int} {draft last : Draft} {driven : Driven} :
    (drive fixes cap).run draft = (.ok driven, last) ↔
      ∃ rounds, Ends fixes cap draft rounds last ∧
        driven = ⟨rounds.foldl addNames [], 1 + rounds.length⟩ := by
  rw [drive, passes_ok]
  constructor
  · rintro ⟨rounds, before, run, fewer, quiet, result⟩
    exact ⟨rounds, ⟨before, rounds_iff_laps.mp run, fewer, pass_ok.mp quiet⟩, result⟩
  · rintro ⟨rounds, ⟨before, laps, fewer, quiet⟩, result⟩
    exact ⟨rounds, before, rounds_iff_laps.mpr laps, fewer, pass_ok.mpr quiet, result⟩

/-- Driving fails exactly when it fails in one of the two ways, with what is recorded of that. -/
theorem drive_error {path : String} {fixes : List Fix} {cap : Int} {draft : Draft}
    {error : FileError} :
    (∃ thrown last, (drive fixes cap).run draft = (.error thrown, last) ∧
      Outcome.failure path thrown = error) ↔ Fails path fixes cap draft error :=
  passes_error path fixes cap _ _ _ _ draft error

/-- Without a round no name is recorded. -/
theorem applied_nil_iff {fixes : List Fix} {draft last : Draft} {rounds : List (List String)}
    (laps : Laps fixes draft rounds last) : rounds.foldl addNames [] = [] ↔ rounds = [] := by
  constructor
  · exact no_rounds (rounds_iff_laps.mpr laps) []
  · rintro rfl
    rfl

/-- The new text of a run that came to an end. -/
theorem settled_text {path text : String} {fixes : List Fix} {draft before last : Draft}
    {rounds : List (List String)} (laps : Laps fixes draft rounds before) (passes : Nat) :
    (Outcome.settled path text ⟨rounds.foldl addNames [], passes⟩ last).newText =
      if rounds = [] then text else last.render := by
  simp only [Outcome.settled, List.isEmpty_iff, applied_nil_iff laps]

/-- The outcome of a text that cannot be read accounts for that. No fix is run, and what is reported is
the complaint of the parser, or, where it breaks off without one, an error under no fix's name. -/
theorem unread_accounts {path text : String} (fixes : List Fix) (cap : Int)
    {failure : Grammar.Failure}
    (unread : Grammar.parse (Grammar.Dialect.ofPath path) text = .error failure) :
    (processSource path text fixes cap).Accounts path text fixes cap := by
  have unopened {opened : Draft} : Draft.parse path text ≠ .ok opened := by
    intro parsed
    rw [Draft.parse, parseFile, unread] at parsed
    cases parsed
  rw [process_unread fixes cap unread]
  refine ⟨rfl, rfl, (bne_self_eq_false text).symm, fun _ => rfl, fun _ => ⟨rfl, rfl, rfl⟩, ?_, ?_,
    fun _ opened => absurd opened unopened, fun _ opened => absurd opened unopened⟩
  · intro place line column detail
    rw [unread]
    cases failure with
    | complaint position message =>
      simp only [Outcome.failed, Outcome.failure, parseError, Option.some.injEq,
        FileError.parse.injEq, Except.error.injEq, Grammar.Failure.complaint.injEq]
      constructor
      · rintro ⟨rfl, rfl, rfl, rfl⟩
        exact ⟨position, rfl, rfl, rfl, rfl, rfl⟩
      · rintro ⟨_, rfl, rfl, rfl, rfl, rfl⟩
        exact ⟨rfl, rfl, rfl, rfl⟩
    | emptyDirective => simp [Outcome.failed, Outcome.failure, parseError]
    | decoratedAwait => simp [Outcome.failed, Outcome.failure, parseError]
  · intro other also uncomplaining
    cases unread.symm.trans also
    cases failure with
    | complaint position message => exact absurd rfl (uncomplaining position message)
    | emptyDirective => rfl
    | decoratedAwait => rfl

/-- The outcome of a text that is read accounts for driving it. The run is driven to an end or fails, and
which of these it does, and with what, is what the account says. No failure after the text was read is a
failure to parse. -/
theorem read_accounts {path text : String} (fixes : List Fix) (cap : Int) {parsed : Grammar.Parsed}
    (read : Grammar.parse (Grammar.Dialect.ofPath path) text = .ok parsed) :
    (processSource path text fixes cap).Accounts path text fixes cap := by
  have reads : Draft.parse path text = .ok (.ofParsed path text parsed) := by
    rw [Draft.parse, parseFile, read]
    rfl
  have uncomplaining : ∀ failure,
      Grammar.parse (Grammar.Dialect.ofPath path) text ≠ .error failure := by
    simp [read]
  have processed := process_opened fixes cap reads
  rcases ran : (drive fixes cap).run (.ofParsed path text parsed) with ⟨thrown | driven, last⟩ <;>
    rw [ran] at processed <;> rw [processed]
  · have fails (error : FileError) : Outcome.failure path thrown = error ↔
        Fails path fixes cap (.ofParsed path text parsed) error := by
      rw [← drive_error, ran]
      constructor
      · intro recorded
        exact ⟨thrown, last, rfl, recorded⟩
      · rintro ⟨_, _, same, recorded⟩
        cases same
        exact recorded
    refine ⟨rfl, rfl, (bne_self_eq_false text).symm, fun _ => rfl, fun _ => ⟨rfl, rfl, rfl⟩, ?_,
      fun failure also => absurd also (uncomplaining failure), ?_, ?_⟩
    · intro place line column detail
      have unblamed := (not_congr (fails (.parse place line column detail))).mpr Fails.not_parse
      simp [Outcome.failed, uncomplaining, unblamed]
    · intro opened also
      cases reads.symm.trans also
      refine iff_of_false (Option.some_ne_none _) ?_
      rintro ⟨rounds, final, ends, _⟩
      cases ran.symm.trans (drive_ok.mpr ⟨rounds, ends, rfl⟩)
    · intro opened also error
      cases reads.symm.trans also
      exact Option.some_inj.trans (fails error)
  · obtain ⟨rounds, ends, rfl⟩ := drive_ok.mp ran
    obtain ⟨before, laps, _⟩ := id ends
    refine ⟨rfl, rfl, rfl, ?_, fun failed => absurd rfl failed, ?_,
      fun failure also => absurd also (uncomplaining failure), ?_, ?_⟩
    · intro unapplied
      rw [settled_text laps, if_pos ((applied_nil_iff laps).mp unapplied)]
    · intro place line column detail
      simp [Outcome.settled, uncomplaining]
    · intro opened also
      cases reads.symm.trans also
      exact iff_of_true rfl ⟨rounds, last, ends, rfl, rfl, settled_text laps _⟩
    · intro opened also error
      cases reads.symm.trans also
      refine iff_of_false (Option.some_ne_none _).symm fun fails => ?_
      obtain ⟨thrown, final, failed, _⟩ := drive_error.mpr fails
      cases ran.symm.trans failed

/-- The outcome of a text accounts for its run, whatever the fixes do. The text is read or it is not. The
two cases differ in what may be reported: a text that is not read has only the parser to complain of it,
and one that is read only the fixes and the cap. -/
theorem process_accounts (path text : String) (fixes : List Fix) (cap : Int) :
    (processSource path text fixes cap).Accounts path text fixes cap := by
  rcases read : Grammar.parse (Grammar.Dialect.ofPath path) text with failure | parsed
  · exact unread_accounts fixes cap read
  · exact read_accounts fixes cap read

/-- Fresh drafts of one text in one place are the same to a fix. -/
theorem Draft.Fresh.view_unique {first second : Draft} (fresh : first.Fresh) (other : second.Fresh)
    (path : first.path = second.path) (text : first.text = second.text) :
    first.view = second.view := by
  have parsed : first.parsed = second.parsed := by
    have reads := fresh.reads
    rw [path, text, other.reads] at reads
    exact (Except.ok.inj reads).symm
  rw [← fresh.view_eq, ← other.view_eq, path, text, parsed]

/-- A fix that replaces the tree by itself and makes reading it back fail as if the passes had run
out. -/
def Fix.misleading : Fix where
  name := "misleading"
  date := "2020-01-01"
  description := "Claims that the passes ran out."
  precondition := return true
  transform := do
    modify fun draft =>
      { draft.replaceRoot draft.root with
        fault := some (.error (.file (.convergence draft.path 8 []))) }
    return true

/-- Two ways in which a failure is not what it seems: the parser breaks off on a decorated `await`
without a complaint about it; and a fix has the failure recorded that stands for running out of passes,
in the first of eight. -/
theorem failures_in_disguise :
    ((∀ parsed, parseFile "/a.ts" "@d await x" ≠ .ok parsed) ∧
      (processSource "/a.ts" "@d await x" [] 8).error =
        some (.fix "/a.ts" "unknown" "Debug Failure. False expression.")) ∧
    (processSource "/a.ts" "" [Fix.misleading] 8).error = some (.convergence "/a.ts" 8 []) := by
  refine ⟨⟨?_, by decide +kernel⟩, by decide +kernel⟩
  have checked : (parseFile "/a.ts" "@d await x").isOk = false := by decide +kernel
  intro parsed read
  rw [read] at checked
  cases checked

/-- A text is reported as changed exactly when a fix is reported as applied, for fixes that depend on
what they work on and whose tests do not change the tree, if the printer gives back the text that the
tree was last read from.

Had fixes led from the text back to it, the tree at the end would be the one at the start, on which the
first pass applied something and the last one nothing. -/
theorem changed_iff_applied (path text : String) (fixes : List Fix) (cap : Int)
    (dependent : ∀ fix ∈ fixes, fix.DependsOn Draft.view)
    (succeeded : (processSource path text fixes cap).error = none)
    (reproduced : ∀ opened driven after, Draft.parse path text = .ok opened →
      (drive fixes cap).run opened = (.ok driven, after) → driven.appliedFixNames ≠ [] →
      Reproduced path after.text) :
    (processSource path text fixes cap).changed = true ↔
      (processSource path text fixes cap).appliedFixNames ≠ [] := by
  obtain ⟨opened, driven, after, parsed, ran, outcome⟩ := process_ok succeeded
  rw [outcome]
  constructor
  · intro changed unapplied
    have applied : driven.appliedFixNames = [] := unapplied
    simp [Outcome.settled, applied] at changed
  · intro applied
    obtain ⟨openedFresh, openedPath⟩ := Draft.fresh_of_parse parsed
    obtain ⟨fresh, afterPath⟩ := drive_fresh dependent ran openedFresh
    have newText : (Outcome.settled path text driven after).newText = after.text := by
      simp only [Outcome.settled, List.isEmpty_iff, show driven.appliedFixNames ≠ [] from applied,
        if_false, Draft.render_of_root fresh.printed fresh.root]
      exact reproduced opened driven after parsed ran applied after.parsed
        ((afterPath.trans openedPath) ▸ fresh.reads)
    refine bne_iff_ne.mpr fun same => ?_
    have returned : after.view = opened.view :=
      fresh.view_unique openedFresh afterPath
        ((newText.symm.trans same).trans (Draft.text_of_parse parsed).symm)
    obtain ⟨rounds, before, run, _, quiet, result⟩ := (passes_ok fixes cap _ _ _ _ _ _ _).mp ran
    have kept : after.view = before.view := (quiet_pass Draft.view_sees dependent quiet).1
    obtain ⟨final, again, _⟩ := quiet_pass_agrees Draft.view_sees dependent
      (show before.cleared.view = opened.cleared.view from kept.symm.trans returned) rfl quiet
    cases run with
    | none => exact applied (congrArg Driven.appliedFixNames result)
    | pass fired some more =>
      cases fired.symm.trans again
      exact some rfl

/-- The file that dials is changed, since a fix applied. The general statement is applied to this run, of
which it is known that it ends and that what it left reproduces its text. -/
theorem dialling_changed :
    ((processSource "/a.ts" dialling Fix.builtin 8).changed = true ↔
      (processSource "/a.ts" dialling Fix.builtin 8).appliedFixNames ≠ []) ∧
    (processSource "/a.ts" dialling Fix.builtin 8).changed = true := by
  obtain ⟨opened, driven, after, parsed, ran, rfl, text, render, _⟩ := dialling_drives
  have outcome : processSource "/a.ts" dialling Fix.builtin 8 =
      .settled "/a.ts" dialling { appliedFixNames := ["net-dial"], passes := 2 } after := by
    rw [process_opened Fix.builtin 8 parsed, ran]
  have told := changed_iff_applied "/a.ts" dialling Fix.builtin 8 Fix.builtin_depends
    (by rw [outcome]; rfl)
    (by
      intro opened' driven' after' parsed' ran' _
      cases parsed.symm.trans parsed'
      cases ran.symm.trans ran'
      exact text ▸ dialled_reproduced)
  refine ⟨told, told.mpr ?_⟩
  rw [outcome]
  exact List.cons_ne_nil _ _

/-- Where a test may change the tree, a text can be reported as unchanged although a fix is reported as
applied: the test of the second fix undoes what the first did, and is not noticed. -/
theorem swinging_unchanged :
    (∀ fix ∈ Fix.swinging,
      Edit.LooksAt Draft.view fix.precondition ∧ Edit.LooksAt Draft.view fix.transform) ∧
    (∀ opened driven after, Draft.parse "/a.ts" "a;\n" = .ok opened →
      (drive Fix.swinging 8).run opened = (.ok driven, after) → Reproduced "/a.ts" after.text) ∧
    (processSource "/a.ts" "a;\n" Fix.swinging 8).error = none ∧
    (processSource "/a.ts" "a;\n" Fix.swinging 8).changed = false ∧
    (processSource "/a.ts" "a;\n" Fix.swinging 8).appliedFixNames = ["forth"] := by
  refine ⟨Fix.swinging_looks, ?_, ?_⟩
  · intro opened driven after parsed ran
    exact swinging_reproduced opened after driven parsed ran
  · rw [swinging_processed]
    exact ⟨rfl, rfl, rfl⟩

end Codemod
