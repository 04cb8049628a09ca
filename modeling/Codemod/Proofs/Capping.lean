import Codemod.Proofs.Honesty

/-!
# The cap on passes

The number of passes that are allowed decides only how far a run gets. Passes go the same way whatever
the cap is: each works on what the one before it left, until one of them fires nothing or fails. A cap
that lets the run get there gives what that pass comes to; a smaller one ends the run after a pass in
which some fix still fired.

Fixes may do anything to a draft, and nothing is assumed about them.
-/
namespace Codemod.FixedPoint

variable {fixes : List Fix} {draft middle next last : Draft} {rounds : List (List String)}
  {fired : List String}

/-- The failure for want of passes. -/
def exhausted (path : String) (cap : Int) (names : List String) : Thrown :=
  .error (.file (.convergence path cap names))

/-- How a run of passes ends by itself: after rounds in each of which some fix fired, a pass fires none
or fails. -/
inductive Stops (fixes : List Fix) (draft : Draft) :
    List (List String) → Except Thrown Driven → Draft → Prop where
  | settled {rounds : List (List String)} {before last : Draft} (run : Rounds fixes draft rounds before)
      (quiet : (runPass fixes).run before.cleared = (.ok [], last)) :
    Stops fixes draft rounds (.ok ⟨rounds.foldl addNames [], rounds.length + 1⟩) last
  | failed {rounds : List (List String)} {before last : Draft} {thrown : Thrown}
      (run : Rounds fixes draft rounds before)
      (fails : (runPass fixes).run before.cleared = (.error thrown, last)) :
    Stops fixes draft rounds (.error thrown) last

/-- One more round at the end. -/
theorem Rounds.extend (run : Rounds fixes draft rounds middle)
    (ran : (runPass fixes).run middle.cleared = (.ok fired, next)) (applied : fired ≠ []) :
    Rounds fixes draft (rounds ++ [fired]) next := by
  induction run with
  | none draft => exact .pass ran applied (.none next)
  | pass first some _ inductionHypothesis => exact .pass first some (inductionHypothesis ran)

/-- The first rounds of a run are a run. -/
theorem Rounds.take (run : Rounds fixes draft rounds last) (count : Nat) :
    ∃ middle, Rounds fixes draft (rounds.take count) middle := by
  induction run generalizing count with
  | none draft => exact ⟨draft, by rw [List.take_nil]; exact .none draft⟩
  | @pass draft next last fired later ran applied _ inductionHypothesis =>
    cases count with
    | zero => exact ⟨draft, .none draft⟩
    | succ count =>
      obtain ⟨middle, more⟩ := inductionHypothesis count
      exact ⟨middle, .pass ran applied more⟩

/-- Some fix fires in each round. -/
theorem Rounds.ne_nil (run : Rounds fixes draft rounds last) (listed : fired ∈ rounds) :
    fired ≠ [] := by
  induction run with
  | none => cases listed
  | pass _ applied _ inductionHypothesis =>
    rcases List.mem_cons.mp listed with rfl | later
    · exact applied
    · exact inductionHypothesis later

/-- Passes go through the rounds of a run before anything else, whatever the cap is. The induction is on
the rounds; the names of each are added to those before. -/
theorem passes_after (run : Rounds fixes draft rounds last) (cap : Int) (remaining number : Nat)
    (applied fired : List String) :
    (passes fixes cap (remaining + rounds.length) number applied fired).run draft =
      (passes fixes cap remaining (number + rounds.length) (rounds.foldl addNames applied)
        (rounds.getLastD fired)).run last := by
  induction run generalizing number applied fired with
  | none => rfl
  | @pass _ next _ names later ran some _ inductionHypothesis =>
    obtain ⟨name, rest, rfl⟩ := List.exists_cons_of_ne_nil some
    have advanced : number + 1 + later.length = number + ((name :: rest) :: later).length := by
      rw [List.length_cons]
      omega
    have reported : later.getLastD (name :: rest) = ((name :: rest) :: later).getLastD fired := by
      cases later <;> rfl
    rw [← advanced, ← reported, List.length_cons, ← Nat.add_assoc, run_passes_succ, ran,
      List.foldl_cons]
    exact inductionHypothesis _ _ _

/-- A run that ends by itself ends so under every cap that lets it get there. -/
theorem Stops.drive {result : Except Thrown Driven} (stops : Stops fixes draft rounds result last)
    {cap : Int} (enough : rounds.length < cap.toNat) :
    (drive fixes cap).run draft = (result, last) := by
  obtain ⟨spare, allowed⟩ : ∃ spare, cap.toNat = spare + 1 + rounds.length :=
    ⟨cap.toNat - (rounds.length + 1), by omega⟩
  cases stops with
  | settled run quiet =>
    rw [FixedPoint.drive, allowed, passes_after run, run_passes_succ, quiet, Nat.add_comm 1]
  | failed run fails => rw [FixedPoint.drive, allowed, passes_after run, run_passes_succ, fails]

/-- A run in which some fix fires in each pass that is allowed ends for want of passes. -/
theorem Rounds.drive (run : Rounds fixes draft rounds last) {cap : Int}
    (all : rounds.length = cap.toNat) :
    (drive fixes cap).run draft =
      (.error (exhausted last.path cap (rounds.getLastD [])), last) := by
  have allowed : cap.toNat = 0 + rounds.length := by rw [all, Nat.zero_add]
  rw [FixedPoint.drive, allowed, passes_after run]
  rfl

/-- Passes either end by themselves early enough, or some fix fires in each of as many as are asked for.
The induction is on the number of passes asked for: one more pass fails, or nothing fires in it, or it is
one more round. -/
theorem stops_or_goes_on (fixes : List Fix) (draft : Draft) (count : Nat) :
    (∃ rounds result last, Stops fixes draft rounds result last ∧ rounds.length < count) ∨
      ∃ rounds last, Rounds fixes draft rounds last ∧ rounds.length = count := by
  induction count with
  | zero => exact .inr ⟨[], draft, .none draft, rfl⟩
  | succ count inductionHypothesis =>
    obtain ⟨rounds, result, last, stops, early⟩ | ⟨rounds, before, run, rfl⟩ := inductionHypothesis
    · exact .inl ⟨rounds, result, last, stops, Nat.lt_succ_of_lt early⟩
    · rcases ran : (runPass fixes).run before.cleared with ⟨thrown | names, last⟩
      · exact .inl ⟨rounds, _, last, .failed run ran, Nat.lt_succ_self _⟩
      · by_cases none : names = []
        · subst none
          exact .inl ⟨rounds, _, last, .settled run ran, Nat.lt_succ_self _⟩
        · exact .inr ⟨_, last, run.extend ran none, List.length_append⟩

/-- What driving comes to: a run that ended by itself, or one that ran out of passes. The cases are those
of a run of as many passes as the cap allows. -/
theorem drive_cases {cap : Int} {result : Except Thrown Driven}
    (ran : (drive fixes cap).run draft = (result, last)) :
    (∃ rounds, Stops fixes draft rounds result last ∧ rounds.length < cap.toNat) ∨
      ∃ rounds, Rounds fixes draft rounds last ∧ rounds.length = cap.toNat ∧
        result = .error (exhausted last.path cap (rounds.getLastD [])) := by
  obtain ⟨rounds, result', last', stops, early⟩ | ⟨rounds, last', run, all⟩ :=
    stops_or_goes_on fixes draft cap.toNat
  · have both := ran.symm.trans (stops.drive early)
    cases both
    exact .inl ⟨rounds, stops, early⟩
  · have both := ran.symm.trans (run.drive all)
    cases both
    exact .inr ⟨rounds, run, all, rfl⟩

/-- Adding the names of a round is adding those that are not there yet. The induction is on the new
names: one that is there already is not added again. -/
theorem add_names_eq (names new : List String) :
    addNames names.eraseDups new = (names ++ new).eraseDups := by
  induction new generalizing names with
  | nil => rw [List.append_nil]; rfl
  | cons name rest inductionHypothesis =>
    have step : addNames names.eraseDups (name :: rest) =
        addNames (names ++ [name]).eraseDups rest := by
      rw [addNames, List.foldl_cons, ← addNames, List.eraseDups_append]
      congr 1
      by_cases known : name ∈ names
      · simp [known, List.removeAll]
      · simp [known, List.removeAll, List.eraseDups_cons]
    rw [step, inductionHypothesis, List.append_assoc, List.singleton_append]

/-- The names of all rounds, each of them where it stands first. -/
theorem applied_names_eq (rounds : List (List String)) :
    rounds.foldl addNames [] = rounds.flatten.eraseDups := by
  have general (later : List (List String)) (names : List String) :
      later.foldl addNames names.eraseDups = (names ++ later.flatten).eraseDups := by
    induction later generalizing names with
    | nil => rw [List.flatten_nil, List.append_nil]; rfl
    | cons fired later inductionHypothesis =>
      rw [List.foldl_cons, add_names_eq, inductionHypothesis, List.flatten_cons, List.append_assoc]
  exact general rounds []

/-- Every smaller cap ends a run for want of passes: it reports the cap, and the names of the fixes
that fired in the last pass that it allowed. -/
def CutShort (fixes : List Fix) (draft : Draft) (rounds : List (List String)) : Prop :=
  ∀ cap : Int, 1 ≤ cap → cap ≤ rounds.length → ∃ fired left,
    rounds[cap.toNat - 1]? = some fired ∧ fired ≠ [] ∧
      (drive fixes cap).run draft = (.error (exhausted left.path cap fired), left)

/-- The passes in which fixes fired are cut short by any cap that is not above their number. A start of
the rounds is a run of its own, and as many passes as it has end in it. -/
theorem Rounds.cut_short (run : Rounds fixes draft rounds last) : CutShort fixes draft rounds := by
  intro cap positive short
  obtain ⟨left, cut⟩ := run.take cap.toNat
  have length : (rounds.take cap.toNat).length = cap.toNat := by
    rw [List.length_take]
    omega
  have inside : cap.toNat - 1 < rounds.length := by omega
  have final : (rounds.take cap.toNat).getLastD [] = rounds[cap.toNat - 1] := by
    rw [List.getLastD_eq_getLast?, List.getLast?_eq_getElem?, length, List.getElem?_take_of_lt (by omega),
      List.getElem?_eq_getElem inside, Option.getD_some]
  refine ⟨rounds[cap.toNat - 1], left, List.getElem?_eq_getElem inside,
    run.ne_nil (List.getElem_mem inside), ?_⟩
  rw [cut.drive length, final]

/-- A run that comes to an end. -/
structure Settles (fixes : List Fix) (cap : Int) (draft : Draft) (driven : Driven) (last : Draft)
    (rounds : List (List String)) : Prop where
  /-- Some fix fires in each pass but the last, and none in that. -/
  passes : ∃ before, Laps fixes draft rounds before ∧ Through fixes before.cleared [] last
  counted : driven.passes = rounds.length + 1
  allowed : 1 ≤ driven.passes ∧ driven.passes ≤ cap
  /-- Each name that fired is listed once, where it first did. -/
  names : driven.appliedFixNames = rounds.flatten.eraseDups
  more : ∀ other : Int, driven.passes ≤ other → (drive fixes other).run draft = (.ok driven, last)
  fewer : CutShort fixes draft rounds

/-- A run that breaks off because a pass fails. -/
structure BreaksOff (fixes : List Fix) (cap : Int) (draft : Draft) (thrown : Thrown) (last : Draft)
    (rounds : List (List String)) : Prop where
  /-- Some fix fires in each pass but the last, and that one fails. -/
  passes : ∃ before, Laps fixes draft rounds before ∧
    (runPass fixes).run before.cleared = (.error thrown, last)
  allowed : rounds.length + 1 ≤ cap
  more : ∀ other : Int, rounds.length + 1 ≤ other →
    (drive fixes other).run draft = (.error thrown, last)
  fewer : CutShort fixes draft rounds

/-- The cap only truncates. A run that gives an answer under some cap gives it under every cap that is
not less than the passes that it took, and leaves the same draft; a run that fails in a pass fails in
the same way under every cap that allows this pass. Every smaller cap ends the run for want of passes,
and that is the only other way to fail. -/
theorem cap_only_truncates (fixes : List Fix) (draft : Draft) (cap : Int) :
    (∀ driven last, (drive fixes cap).run draft = (.ok driven, last) →
      ∃ rounds, Settles fixes cap draft driven last rounds) ∧
    ∀ thrown last, (drive fixes cap).run draft = (.error thrown, last) →
      (∃ rounds, BreaksOff fixes cap draft thrown last rounds) ∨
        ∃ rounds, Laps fixes draft rounds last ∧ rounds.length = cap.toNat ∧
          thrown = exhausted last.path cap (rounds.getLastD []) := by
  constructor
  · intro driven last ran
    obtain ⟨rounds, stops, early⟩ | ⟨_, _, _, impossible⟩ := drive_cases ran
    · refine ⟨rounds, ?_⟩
      cases stops with
      | settled run quiet =>
        refine ⟨⟨_, rounds_iff_laps.mp run, pass_ok.mp quiet⟩, rfl, ?_, applied_names_eq rounds,
          fun other enough => ?_, run.cut_short⟩
        · dsimp only
          omega
        · dsimp only at enough
          exact (Stops.settled run quiet).drive (by omega)
    · cases impossible
  · intro thrown last ran
    obtain ⟨rounds, stops, early⟩ | ⟨rounds, run, all, failure⟩ := drive_cases ran
    · refine .inl ⟨rounds, ?_⟩
      cases stops with
      | failed run fails =>
        refine ⟨⟨_, rounds_iff_laps.mp run, fails⟩, by omega, fun other enough => ?_,
          run.cut_short⟩
        exact (Stops.failed run fails).drive (by omega)
    · cases failure
      exact .inr ⟨rounds, rounds_iff_laps.mp run, all, rfl⟩

/-- The file that dials takes two passes: under a cap of two it ends as under one of eight, under a cap
of one for want of passes. -/
theorem dialling_capped :
    ∃ opened driven after rounds, Draft.parse "/a.ts" dialling = .ok opened ∧
      (drive Fix.builtin 8).run opened = (.ok driven, after) ∧
      Settles Fix.builtin 8 opened driven after rounds ∧ driven.passes = 2 ∧
      rounds.flatten.eraseDups = ["net-dial"] ∧
      (drive Fix.builtin 2).run opened = (.ok driven, after) ∧
      ∃ fired left, rounds = [fired] ∧ fired ≠ [] ∧
        (drive Fix.builtin 1).run opened = (.error (exhausted left.path 1 fired), left) := by
  obtain ⟨opened, driven, after, parsed, ran, result, _⟩ := dialling_drives
  obtain ⟨rounds, settles⟩ := (cap_only_truncates Fix.builtin opened 8).1 driven after ran
  have two : driven.passes = 2 := by rw [result]
  have counted := settles.counted
  have single : rounds.length = 1 := by omega
  obtain ⟨fired, rfl⟩ := List.length_eq_one_iff.mp single
  obtain ⟨other, left, last, some, short⟩ := settles.fewer 1 (by decide) (by simp)
  cases last
  exact ⟨opened, driven, after, [fired], parsed, ran, settles, two,
    settles.names.symm.trans (by rw [result]), settles.more 2 (by omega), fired, left, rfl, some, short⟩

end Codemod.FixedPoint
