import Codemod.Proofs.Edits

/-!
# Passes over a draft

A pass runs every fix once. When none of them changed the draft, each was asked
about one and the same tree, the one that is left at the end; so each has
nothing to do on that tree, and another pass goes the same way. The passes
before only decide which tree this is.

Fixes are arbitrary as long as they depend on no more of a draft than they are
given to see. A fix may undo or prepare what another did; nothing is assumed
about that.
-/
namespace Codemod

variable {σ : Type} {look : Draft → σ}

/-- A fix that depends on a draft only through `look`, and whose test leaves the tree alone. -/
structure Fix.DependsOn (look : Draft → σ) (fix : Fix) : Prop where
  precondition : Edit.LooksAt look fix.precondition
  transform : Edit.LooksAt look fix.transform
  untouched : ∀ draft, (fix.precondition.after draft).revision = draft.revision

/-- A fix that has nothing to do on a draft: its test says so, or its transformation says so and
leaves the tree as it is. -/
def Fix.Rests (fix : Fix) (draft : Draft) : Prop :=
  fix.precondition.answer draft = .ok false ∨
    fix.transform.answer draft = .ok false ∧ (fix.transform.after draft).view = draft.view ∧
      (fix.transform.after draft).revision = draft.revision

/-- Whether a fix has nothing to do depends on no more than the fix does. -/
theorem Fix.DependsOn.rests {fix : Fix} (dependent : fix.DependsOn look) {first second : Draft}
    (same : look first = look second) (rests : fix.Rests first) : fix.Rests second := by
  rcases rests with refused | ⟨idle, _, unchanged⟩
  · exact .inl ((dependent.precondition.answers same).symm.trans refused)
  · have kept := (dependent.transform.replaces same).mp unchanged
    exact .inr ⟨(dependent.transform.answers same).symm.trans idle,
      dependent.transform.kept second kept, kept⟩

namespace FixedPoint

/-- Asking a fix: its test runs first and its transformation on what the test left. A test that answers
no ends the matter, and one that throws does so too. -/
theorem run_attempt (fix : Fix) (draft : Draft) :
    (attempt fix).run draft =
      match fix.precondition.run (draft.running fix.name) with
      | (.ok true, left) =>
        match fix.transform.run left with
        | (.ok changed, last) => (.ok (some changed), last)
        | (.error thrown, last) => (.error thrown, last)
      | (.ok false, left) => (.ok none, left)
      | (.error thrown, left) => (.error thrown, left) := by
  have started : (attempt fix).run draft =
      (fix.precondition >>= fun applies =>
        if applies then some <$> fix.transform else return none).run (draft.running fix.name) := rfl
  rw [started, Edit.run_bind]
  rcases fix.precondition.run (draft.running fix.name) with ⟨_ | _ | _, left⟩
  · rfl
  · rfl
  · change (fix.transform >>= fun changed => pure (some changed)).run left = _
    rw [Edit.run_bind]
    dsimp only
    rcases fix.transform.run left with ⟨_ | _, last⟩ <;> rfl

/-- Running a fix: its failure is a failure of the fix, and its answer must agree with whether the
revision moved. -/
theorem run_fix (fix : Fix) (draft : Draft) :
    (runFix fix).run draft =
      match (attempt fix).run draft with
      | (.error thrown, left) => (.error (fixError draft.path fix thrown.message), left.running "")
      | (.ok none, left) => (.ok false, left.running "")
      | (.ok (some changed), left) =>
        if changed && left.revision == draft.revision then
          (.error (fixError draft.path fix "reported a change but left the tree untouched"),
            left.running "")
        else if !changed && left.revision != draft.revision then
          (.error (fixError draft.path fix "changed the tree without reporting it"),
            left.running "")
        else (.ok changed, left.running "") := by
  rw [runFix, Edit.run_reading, Edit.run_bind, Edit.run_catch]
  rcases (attempt fix).run draft with ⟨_ | _ | changed, left⟩
  · rfl
  · rfl
  · cases changed <;> by_cases unchanged : left.revision = draft.revision <;>
      simp [unchanged, Edit.run_bind]

/-- A fix that depends on `look` is asked through `look` as well. -/
theorem attempt_looks (sees : Draft.Sees look) {fix : Fix} (dependent : fix.DependsOn look) :
    Edit.LooksAt look (attempt fix) := by
  rw [attempt]
  refine (Edit.LooksAt.set_active sees fix.name).bind fun _ => ?_
  refine dependent.precondition.bind fun applies => ?_
  split
  · exact dependent.transform.bind fun changed => Edit.LooksAt.pure _
  · exact Edit.LooksAt.pure _

/-- What a fix answered, and the draft it was asked on, when running it gave an answer. A fix that
did not fire was refused by its test, or answered no without moving the revision. -/
theorem run_fix_ok {fix : Fix} {draft last : Draft} {fired : Bool}
    (ran : (runFix fix).run draft = (.ok fired, last)) :
    ∃ reply left, (attempt fix).run draft = (.ok reply, left) ∧ last = left.running "" ∧
      (reply = none ∧ fired = false ∨
        reply = some fired ∧ (fired = true ↔ left.revision ≠ draft.revision)) := by
  rw [run_fix] at ran
  rcases asked : (attempt fix).run draft with ⟨thrown | _ | changed, left⟩ <;> rw [asked] at ran
  · cases ran
  · cases ran
    exact ⟨none, left, rfl, rfl, .inl ⟨rfl, rfl⟩⟩
  · refine ⟨some changed, left, rfl, ?_⟩
    by_cases unchanged : left.revision = draft.revision <;> cases changed <;>
      simp only [unchanged, beq_self_eq_true, bne_self_eq_false, Bool.false_and, Bool.true_and,
        Bool.not_true, Bool.not_false, Bool.false_eq_true, if_true, if_false, beq_iff_eq,
        bne_iff_ne, ne_eq, not_false_eq_true] at ran
    · cases ran
      simp [unchanged]
    · cases ran
    · cases ran
    · cases ran
      simp [unchanged]

/-- A fix that did not fire left everything it looks at as it was, and has nothing to do there.
Either its test refused, and a test keeps the revision; or its transformation said no, and then the
revision is still that of the start. -/
theorem quiet_fix (sees : Draft.Sees look) {fix : Fix} (dependent : fix.DependsOn look)
    {draft last : Draft} (quiet : (runFix fix).run draft = (.ok false, last)) :
    look last = look draft ∧ fix.Rests draft := by
  obtain ⟨reply, left, asked, rfl, answered⟩ := run_fix_ok quiet
  have started : look (draft.running fix.name) = look draft := sees.running draft fix.name
  rw [run_attempt] at asked
  rcases tested : fix.precondition.run (draft.running fix.name) with ⟨thrown | _ | _, middle⟩ <;>
    rw [tested] at asked
  · cases asked
  all_goals
    have testStill : middle.revision = draft.revision := by
      simpa only [Edit.after, tested, Draft.running_revision] using
        dependent.untouched (draft.running fix.name)
    have testKept : look middle = look draft :=
      (dependent.precondition.unmoved sees tested testStill).trans started
  · cases asked
    have refused : fix.precondition.answer (draft.running fix.name) = .ok false := by
      simp only [Edit.answer, tested]
    exact ⟨(sees.running left "").trans testKept, dependent.rests started (.inl refused)⟩
  · dsimp only at asked
    rcases transformed : fix.transform.run middle with ⟨thrown | changed, final⟩ <;>
      rw [transformed] at asked <;> cases asked
    rcases answered with ⟨impossible, _⟩ | ⟨same, moved⟩
    · cases impossible
    · cases same
      have still : left.revision = middle.revision :=
        (by simpa using moved : left.revision = draft.revision).trans testStill.symm
      have finalIs : fix.transform.after middle = left := by simp only [Edit.after, transformed]
      have rests : fix.Rests middle := by
        refine .inr ⟨by simp only [Edit.answer, transformed], ?_, finalIs ▸ still⟩
        exact dependent.transform.kept middle (finalIs ▸ still)
      have toMiddle : look left = look middle :=
        dependent.transform.unmoved sees transformed still
      exact ⟨(sees.running left "").trans (toMiddle.trans testKept),
        dependent.rests testKept rests⟩

/-- Running a fix on drafts that look the same gives the same answer and leaves drafts that look the
same, with the same warnings if these were the same. -/
theorem run_fix_agrees (sees : Draft.Sees look) {fix : Fix} (dependent : fix.DependsOn look)
    {first second last : Draft} {fired : Bool} (same : look first = look second)
    (ran : (runFix fix).run first = (.ok fired, last)) :
    ∃ final, (runFix fix).run second = (.ok fired, final) ∧ look final = look last ∧
      (first.warnings = second.warnings → final.warnings = last.warnings) := by
  obtain ⟨reply, left, asked, rfl, answered⟩ := run_fix_ok ran
  have looks := attempt_looks sees dependent
  -- Naming the running fix is the first step of asking it, so the names before do not matter.
  have renamed (draft : Draft) :
      (attempt fix).run (draft.running fix.name) = (attempt fix).run draft := rfl
  have sameRunning : look (first.running fix.name) = look (second.running fix.name) :=
    (sees.running first _).trans (same.trans (sees.running second _).symm)
  have answers := looks.answers sameRunning
  have leaves := looks.leaves sameRunning
  have replaces := looks.replaces sameRunning
  have remarks := looks.remarks sameRunning rfl
  rcases other : (attempt fix).run second with ⟨otherReply, otherLeft⟩
  simp only [Edit.answer, Edit.after, renamed, asked, other] at answers leaves replaces remarks
  subst answers
  refine ⟨otherLeft.running "", ?_, ?_, fun warnings => (remarks warnings).2.symm⟩
  · rw [run_fix, other]
    rcases answered with ⟨rfl, rfl⟩ | ⟨rfl, moved⟩
    · rfl
    · cases fired <;> simp_all
  · exact (sees.running otherLeft "").trans (leaves.symm.trans (sees.running left "").symm)

/-- A pass over a first fix and the rest: a fix that fired is followed by reading the draft back. -/
theorem run_pass_cons (fix : Fix) (rest : List Fix) (draft : Draft) :
    (runPass (fix :: rest)).run draft =
      match (runFix fix).run draft with
      | (.ok true, left) =>
        (do refreshAfter fix; return fix.name :: (← runPass rest) : Edit (List String)).run left
      | (.ok false, left) => (runPass rest).run left
      | (.error thrown, left) => (.error thrown, left) := by
  rw [runPass, Edit.run_bind]
  rcases (runFix fix).run draft with ⟨_ | _ | _, left⟩ <;> rfl

/-- In a pass in which nothing fires the first fix does not, and the rest of the pass is such a pass
on what it left. -/
theorem quiet_pass_cons (fix : Fix) (rest : List Fix) (draft last : Draft) :
    (runPass (fix :: rest)).run draft = (.ok [], last) ↔
      ∃ left, (runFix fix).run draft = (.ok false, left) ∧
        (runPass rest).run left = (.ok [], last) := by
  rw [run_pass_cons]
  rcases ran : (runFix fix).run draft with ⟨thrown | _ | _, left⟩
  · constructor
    · intro impossible
      cases impossible
    · rintro ⟨_, impossible, _⟩
      cases impossible
  · constructor
    · intro quiet
      exact ⟨left, rfl, quiet⟩
    · rintro ⟨_, same, quiet⟩
      cases same
      exact quiet
  · constructor
    · -- A name is put in front of what the rest of the pass gives.
      intro quiet
      obtain ⟨_, refreshed, _, more⟩ := (Edit.bind_ok _ _ _ _ _).mp quiet
      obtain ⟨names, final, _, named⟩ := (Edit.bind_ok _ _ _ _ _).mp more
      cases named
    · rintro ⟨_, impossible, _⟩
      cases impossible

/-- A pass in which nothing fires leaves everything the fixes look at as it was, and every fix has
nothing to do there. The induction is on the fixes: all of them are asked about one and the same
sight of the draft. -/
theorem quiet_pass (sees : Draft.Sees look) {fixes : List Fix}
    (dependent : ∀ fix ∈ fixes, fix.DependsOn look) {draft last : Draft}
    (quiet : (runPass fixes).run draft = (.ok [], last)) :
    look last = look draft ∧ ∀ fix ∈ fixes, fix.Rests draft := by
  induction fixes generalizing draft with
  | nil =>
    cases quiet
    exact ⟨rfl, by simp⟩
  | cons first rest inductionHypothesis =>
    obtain ⟨left, firstQuiet, restQuiet⟩ := (quiet_pass_cons first rest draft last).mp quiet
    have firstDependent := dependent first List.mem_cons_self
    have restDependent : ∀ fix ∈ rest, fix.DependsOn look :=
      fun fix member => dependent fix (List.mem_cons_of_mem first member)
    obtain ⟨kept, firstRests⟩ := quiet_fix sees firstDependent firstQuiet
    obtain ⟨restKept, restRests⟩ := inductionHypothesis restDependent restQuiet
    refine ⟨restKept.trans kept, ?_⟩
    intro fix member
    rcases List.mem_cons.mp member with rfl | later
    · exact firstRests
    · exact (restDependent fix later).rests kept (restRests fix later)

/-- A pass in which nothing fires goes the same way on every draft that looks the same and has the
same warnings, and raises the same warnings there. -/
theorem quiet_pass_agrees (sees : Draft.Sees look) {fixes : List Fix}
    (dependent : ∀ fix ∈ fixes, fix.DependsOn look) {first second last : Draft}
    (same : look first = look second) (warnings : first.warnings = second.warnings)
    (quiet : (runPass fixes).run first = (.ok [], last)) :
    ∃ final, (runPass fixes).run second = (.ok [], final) ∧ look final = look last ∧
      final.warnings = last.warnings := by
  induction fixes generalizing first second with
  | nil =>
    cases quiet
    exact ⟨second, rfl, same.symm, warnings.symm⟩
  | cons fix rest inductionHypothesis =>
    obtain ⟨left, fixQuiet, restQuiet⟩ := (quiet_pass_cons fix rest first last).mp quiet
    obtain ⟨otherLeft, otherQuiet, otherSame, otherWarnings⟩ :=
      run_fix_agrees sees (dependent fix List.mem_cons_self) same fixQuiet
    obtain ⟨final, finalQuiet, finalSame, finalWarnings⟩ := inductionHypothesis
      (fun fix' member => dependent fix' (List.mem_cons_of_mem fix member)) otherSame.symm
      (otherWarnings warnings).symm restQuiet
    exact ⟨final, (quiet_pass_cons fix rest second final).mpr ⟨otherLeft, otherQuiet, finalQuiet⟩,
      finalSame, finalWarnings⟩

/-- Passes in a row each of which applied a fix, with the names that fired in each of them. -/
inductive Rounds (fixes : List Fix) : Draft → List (List String) → Draft → Prop where
  | none (draft : Draft) : Rounds fixes draft [] draft
  | pass {draft next last : Draft} {fired : List String} {later : List (List String)}
      (ran : (runPass fixes).run draft.cleared = (.ok fired, next)) (applied : fired ≠ [])
      (more : Rounds fixes next later last) : Rounds fixes draft (fired :: later) last

/-- Driving comes to an end exactly when, after fewer rounds than are allowed, a pass applies
nothing. The names are those of all rounds in order of first appearance, and the quiet pass counts
as one more. -/
theorem passes_ok (fixes : List Fix) (cap : Int) (remaining number : Nat)
    (applied fired : List String) (draft last : Draft) (driven : Driven) :
    (passes fixes cap remaining number applied fired).run draft = (.ok driven, last) ↔
      ∃ rounds before, Rounds fixes draft rounds before ∧ rounds.length < remaining ∧
        (runPass fixes).run before.cleared = (.ok [], last) ∧
        driven = ⟨rounds.foldl addNames applied, number + rounds.length⟩ := by
  induction remaining generalizing number applied fired draft with
  | zero =>
    constructor
    · intro impossible
      cases impossible
    · rintro ⟨_, _, _, impossible, _⟩
      exact absurd impossible (Nat.not_lt_zero _)
  | succ remaining inductionHypothesis =>
    have unfolded : (passes fixes cap (remaining + 1) number applied fired).run draft =
        (do
          let fired ← runPass fixes
          if fired.isEmpty then return { appliedFixNames := applied, passes := number }
          passes fixes cap remaining (number + 1) (addNames applied fired) fired
          : Edit Driven).run draft.cleared := rfl
    rw [unfolded, Edit.bind_ok]
    constructor
    · rintro ⟨names, next, ran, continued⟩
      cases names with
      | nil =>
        cases continued
        exact ⟨[], draft, .none draft, Nat.succ_pos _, ran, rfl⟩
      | cons name names =>
        obtain ⟨rounds, before, more, bound, quiet, result⟩ :=
          (inductionHypothesis _ _ _ _).mp continued
        refine ⟨(name :: names) :: rounds, before, .pass ran (List.cons_ne_nil _ _) more,
          Nat.succ_lt_succ bound, quiet, ?_⟩
        rw [result]
        simp only [List.foldl_cons, List.length_cons]
        congr 1
        omega
    · rintro ⟨rounds, before, more, bound, quiet, rfl⟩
      cases more with
      | none =>
        exact ⟨[], last, quiet, rfl⟩
      | @pass _ next _ names later ran nonempty rest =>
        refine ⟨names, next, ran, ?_⟩
        have notEmpty : names.isEmpty = false := by
          simpa only [List.isEmpty_eq_false_iff] using nonempty
        simp only [notEmpty, Bool.false_eq_true, if_false]
        refine (inductionHypothesis _ _ _ _).mpr
          ⟨later, before, rest, Nat.lt_of_succ_lt_succ bound, quiet, ?_⟩
        simp only [List.foldl_cons, List.length_cons]
        congr 1
        omega

end FixedPoint

end Codemod
