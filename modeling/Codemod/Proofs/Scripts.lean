import Codemod.Patch.Script
import Mathlib.Data.List.Chain

/-!
# Scripts between lists of lines

A script leads from the old lines to the new ones when its runs use up both lists in order and the
lines that it keeps are the same on both sides. A path is a script on its way: it leads from the
beginning of both lists to some places in them. Exchanging a removal and an insertion that stand
next to each other leads to the same places.

In the finished script a removal that comes last does not follow an insertion, since a removal is put
before the insertion in front of it.
-/
namespace Codemod.Patch

variable {old new : List String} {runs rest : List Run} {i j count : Nat}

/-- From some places in the old and the new lines, a script leads to the ends of both. -/
inductive Leads (old new : List String) : List Run → Nat → Nat → Prop where
  | done : Leads old new [] old.length new.length
  | keep {runs : List Run} {i j count : Nat} (some : 0 < count)
      (same : (old.drop i).take count = (new.drop j).take count)
      (inOld : i + count ≤ old.length) (inNew : j + count ≤ new.length)
      (rest : Leads old new runs (i + count) (j + count)) : Leads old new (⟨.keep, count⟩ :: runs) i j
  | remove {runs : List Run} {i j count : Nat} (some : 0 < count) (inOld : i + count ≤ old.length)
      (rest : Leads old new runs (i + count) j) : Leads old new (⟨.remove, count⟩ :: runs) i j
  | add {runs : List Run} {i j count : Nat} (some : 0 < count) (inNew : j + count ≤ new.length)
      (rest : Leads old new runs i (j + count)) : Leads old new (⟨.add, count⟩ :: runs) i j

/-- From the beginning of the old and the new lines, a script with its last run first leads to some
places in them. -/
inductive Reaches (old new : List String) : List Run → Nat → Nat → Prop where
  | start : Reaches old new [] 0 0
  | keep {runs : List Run} {i j count : Nat} (before : Reaches old new runs i j) (some : 0 < count)
      (same : (old.drop i).take count = (new.drop j).take count)
      (inOld : i + count ≤ old.length) (inNew : j + count ≤ new.length) :
    Reaches old new (⟨.keep, count⟩ :: runs) (i + count) (j + count)
  | remove {runs : List Run} {i j count : Nat} (before : Reaches old new runs i j) (some : 0 < count)
      (inOld : i + count ≤ old.length) : Reaches old new (⟨.remove, count⟩ :: runs) (i + count) j
  | add {runs : List Run} {i j count : Nat} (before : Reaches old new runs i j) (some : 0 < count)
      (inNew : j + count ≤ new.length) : Reaches old new (⟨.add, count⟩ :: runs) i (j + count)

/-- A script that leads somewhere leads to places within the lines. -/
theorem Reaches.within (reaches : Reaches old new runs i j) : i ≤ old.length ∧ j ≤ new.length := by
  induction reaches with
  | start => exact ⟨Nat.zero_le _, Nat.zero_le _⟩
  | keep _ _ _ inOld inNew => exact ⟨inOld, inNew⟩
  | remove _ _ inOld inductionHypothesis => exact ⟨inOld, inductionHypothesis.2⟩
  | add _ _ inNew inductionHypothesis => exact ⟨inductionHypothesis.1, inNew⟩

/-- A run of removals may be one line longer. -/
theorem Reaches.remove_one (reaches : Reaches old new (⟨.remove, count⟩ :: runs) i j)
    (room : i < old.length) : Reaches old new (⟨.remove, count + 1⟩ :: runs) (i + 1) j := by
  cases reaches with
  | remove before some inOld => exact .remove before (Nat.succ_pos _) room

/-- A run of insertions may be one line longer. -/
theorem Reaches.add_one (reaches : Reaches old new (⟨.add, count⟩ :: runs) i j)
    (room : j < new.length) : Reaches old new (⟨.add, count + 1⟩ :: runs) i (j + 1) := by
  cases reaches with
  | add before some inNew => exact .add before (Nat.succ_pos _) room

/-- What leads to some places, and from there to the ends, leads to the ends. The induction is on the way
that was gone, which is kept backwards. -/
theorem Reaches.append (reaches : Reaches old new runs i j) (further : Leads old new rest i j) :
    Leads old new (runs.reverse ++ rest) 0 0 := by
  induction reaches generalizing rest with
  | start => exact further
  | keep _ some same inOld inNew inductionHypothesis =>
    rw [List.reverse_cons, List.append_assoc]
    exact inductionHypothesis (.keep some same inOld inNew further)
  | remove _ some inOld inductionHypothesis =>
    rw [List.reverse_cons, List.append_assoc]
    exact inductionHypothesis (.remove some inOld further)
  | add _ some inNew inductionHypothesis =>
    rw [List.reverse_cons, List.append_assoc]
    exact inductionHypothesis (.add some inNew further)

/-- A script that reaches the ends, turned round, leads there from the beginning. -/
theorem Reaches.leads (reaches : Reaches old new runs old.length new.length) :
    Leads old new runs.reverse 0 0 := by
  have all := reaches.append .done
  rwa [List.append_nil] at all

/-- A script that leads to the ends starts within the lines. -/
theorem Leads.within (leads : Leads old new runs i j) : i ≤ old.length ∧ j ≤ new.length := by
  induction leads with
  | done => exact ⟨Nat.le_refl _, Nat.le_refl _⟩
  | keep _ _ inOld inNew _ _ => exact ⟨Nat.le_of_add_right_le inOld, Nat.le_of_add_right_le inNew⟩
  | remove _ inOld _ inductionHypothesis => exact ⟨Nat.le_of_add_right_le inOld, inductionHypothesis.2⟩
  | add _ inNew _ inductionHypothesis => exact ⟨inductionHypothesis.1, Nat.le_of_add_right_le inNew⟩

/-- A script without runs leads to the ends from there only. -/
theorem Leads.ended (leads : Leads old new [] i j) : i = old.length ∧ j = new.length := by
  cases leads
  exact ⟨rfl, rfl⟩

/-- A script that leads to the ends does so from any place it comes to. -/
theorem Leads.split {front : List Run} (leads : Leads old new (front ++ runs) i j) :
    ∃ i j, Leads old new runs i j := by
  induction front generalizing i j with
  | nil => exact ⟨i, j, leads⟩
  | cons run front inductionHypothesis =>
    cases leads with
    | keep _ _ _ _ rest => exact inductionHypothesis rest
    | remove _ _ rest => exact inductionHypothesis rest
    | add _ _ rest => exact inductionHypothesis rest

/-- No old lines are left exactly where only insertions are. The induction is on the runs; one that keeps
or removes lines uses some. -/
theorem Leads.all_add_iff (leads : Leads old new runs i j) :
    runs.all (·.change = .add) = true ↔ i = old.length := by
  induction leads with
  | done => exact ⟨fun _ => rfl, fun _ => rfl⟩
  | keep some same inOld inNew rest _ =>
    rw [List.all_cons]
    exact ⟨fun none => (by cases none), fun _ => by omega⟩
  | remove some inOld rest _ =>
    rw [List.all_cons]
    exact ⟨fun none => (by cases none), fun _ => by omega⟩
  | add some inNew rest inductionHypothesis =>
    rw [List.all_cons, ← inductionHypothesis]
    simp

/-- No runs are left where no lines are. -/
theorem Leads.none_left (leads : Leads old new runs old.length new.length) : runs = [] := by
  generalize oldEnd : old.length = i at leads
  generalize newEnd : new.length = j at leads
  cases leads with
  | done => rfl
  | keep some same inOld inNew rest => omega
  | remove some inOld rest => omega
  | add some inNew rest => omega

/-- Putting removals first leads to the same places. The two runs that are swapped use lines of one text
each. -/
theorem Leads.removals_first (leads : Leads old new runs i j) : Leads old new (removalsFirst runs) i j := by
  fun_induction removalsFirst runs generalizing i j with
  | case1 first second rest swapped inductionHypothesis =>
    obtain ⟨_, added⟩ := first
    obtain ⟨_, removed⟩ := second
    obtain ⟨rfl, rfl⟩ := swapped
    cases leads with
    | add some inNew further =>
      cases further with
      | remove more inOld ends => exact .remove more inOld (.add some inNew (inductionHypothesis ends))
  | case2 first second rest _ inductionHypothesis =>
    cases leads with
    | keep some same inOld inNew further => exact .keep some same inOld inNew (inductionHypothesis further)
    | remove some inOld further => exact .remove some inOld (inductionHypothesis further)
    | add some inNew further => exact .add some inNew (inductionHypothesis further)
  | case3 => exact leads

/-- Runs next to each other do different things with their lines. -/
def Varied (runs : List Run) : Prop :=
  runs.IsChain (·.change ≠ ·.change)

/-- One more run in front is varied too, unless it does with its lines what the next one does. -/
theorem Varied.cons {run : Run} (varied : Varied runs)
    (apart : ∀ next ∈ runs.head?, next.change ≠ run.change) :
    Varied (run :: runs) :=
  List.isChain_cons.mpr ⟨fun next isNext => (apart next isNext).symm, varied⟩

/-- How many lines a run has does not matter. -/
theorem Varied.recount {change : Change} (varied : Varied (⟨change, count⟩ :: runs)) (other : Nat) :
    Varied (⟨change, other⟩ :: runs) :=
  List.isChain_cons.mpr (List.isChain_cons.mp varied)

/-- A removal that comes last stands alone or after lines that are kept. -/
def Settled (runs : List Run) : Prop :=
  ∀ earlier last, runs = earlier ++ [last] → last.change = .remove →
    earlier = [] ∨ ∃ front kept, earlier = front ++ [kept] ∧ kept.change = .keep

/-- Putting removals first keeps the number of runs. -/
theorem length_removals_first (runs : List Run) : (removalsFirst runs).length = runs.length := by
  fun_induction removalsFirst runs with
  | case1 _ _ _ _ inductionHypothesis => simp [inductionHypothesis]
  | case2 _ _ _ _ inductionHypothesis => simp [inductionHypothesis]
  | case3 => rfl

/-- A script that comes out with a single run had no other. -/
theorem of_removals_first_single {last : Run} (single : removalsFirst runs = [last]) : runs = [last] := by
  have length := length_removals_first runs
  rw [single] at length
  obtain ⟨only, rfl⟩ := List.length_eq_one_iff.mp length.symm
  exact single

/-- When removals were put first, one that comes last does not follow an insertion. The induction follows
the swaps: an insertion that comes before a removal is put behind it, and the run before a removal that
was not swapped keeps its lines. -/
theorem settled_removals_first (varied : Varied runs) : Settled (removalsFirst runs) := by
  have split {first last : Run} {others earlier : List Run} (some : others ≠ [])
      (same : first :: others = earlier ++ [last]) :
      ∃ before, others = before ++ [last] ∧ earlier = first :: before := by
    cases earlier with
    | nil =>
      cases same
      exact absurd rfl some
    | cons front before =>
      cases same
      exact ⟨before, rfl, rfl⟩
  fun_induction removalsFirst runs with
  | case1 first second rest swapped inductionHypothesis =>
    intro earlier last same isRemoval
    obtain ⟨middle, behind, rfl⟩ := split (List.cons_ne_nil _ _) same
    have later := (List.isChain_cons_cons.mp varied).2
    right
    by_cases none : removalsFirst rest = []
    · -- The last run is the insertion that was put back.
      rw [none] at behind
      have alone : [] ++ [first] = middle ++ [last] := behind
      obtain ⟨rfl, single⟩ := List.append_inj' alone rfl
      cases single
      rw [swapped.1] at isRemoval
      cases isRemoval
    · obtain ⟨before, inner, rfl⟩ := split none behind
      rcases inductionHypothesis later.tail before last inner isRemoval with
        rfl | ⟨front, kept, rfl, isKept⟩
      · cases of_removals_first_single inner
        exact absurd (swapped.2.trans isRemoval.symm) (List.isChain_cons_cons.mp later).1
      · exact ⟨second :: first :: front, kept, rfl, isKept⟩
  | case2 first second rest unswapped inductionHypothesis =>
    intro earlier last same isRemoval
    have some : removalsFirst (second :: rest) ≠ [] := by
      rw [← List.length_pos_iff, length_removals_first]
      exact Nat.succ_pos _
    obtain ⟨before, behind, rfl⟩ := split some same
    obtain ⟨apart, variedRest⟩ := List.isChain_cons_cons.mp varied
    right
    rcases inductionHypothesis variedRest before last behind isRemoval with rfl | ⟨front, kept, rfl, isKept⟩
    · cases of_removals_first_single behind
      refine ⟨[], first, rfl, ?_⟩
      rw [isRemoval] at apart unswapped
      cases change : first.change with
      | keep => rfl
      | remove => exact absurd change apart
      | add => exact absurd ⟨change, rfl⟩ unswapped
    · exact ⟨first :: front, kept, rfl, isKept⟩
  | case3 runs short =>
    intro earlier last same _
    left
    rw [same] at short
    cases earlier with
    | nil => rfl
    | cons first others =>
      cases others with
      | nil => exact absurd rfl (short _ _ _)
      | cons second others => exact absurd rfl (short _ _ _)

end Codemod.Patch
