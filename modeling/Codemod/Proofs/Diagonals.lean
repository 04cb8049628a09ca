import Codemod.Proofs.Scripts

/-!
# The search for a script

The search goes over diagonals in rounds, each with one more edit. Before a round there is a stretch of
diagonals that each hold a path, and every path has used at least one line for each round so far. A round
lengthens these paths by an edit and goes on from the stretch. A diagonal whose path has used all new
lines ends the stretch below, and one whose path has used all old lines ends it above: what
lies beyond cannot be better. As no path can use more lines than there are, the search finds one that
has used them all.
-/
namespace Codemod.Patch

variable {old new : Array String} {path : Path} {i j : Nat}

/-- A path leads to the place that it says in the old lines, and to a place in the new ones. -/
structure Path.Ends (old new : Array String) (path : Path) (j : Nat) : Prop where
  reaches : Reaches old.toList new.toList path.runs path.usedOld j
  varied : Varied path.runs

/-- A path ends within the lines. -/
theorem Path.Ends.within (ends : path.Ends old new j) : path.usedOld ≤ old.size ∧ j ≤ new.size := by
  have within := ends.reaches.within
  rwa [Array.length_toList, Array.length_toList] at within

/-- The last run of a path does not keep lines. -/
def Path.Edited (path : Path) : Prop :=
  ∀ last ∈ path.runs.head?, last.change ≠ .keep

/-- What a path with one more edit is. If its last run is of the same kind of change, that run grows by
one line; if not, a run of one line is begun. -/
theorem Path.edit_cases (path : Path) (change : Change) :
    (path.edit change).usedOld = (if change = .remove then path.usedOld + 1 else path.usedOld) ∧
      ((∃ count earlier, path.runs = ⟨change, count⟩ :: earlier ∧
          (path.edit change).runs = ⟨change, count + 1⟩ :: earlier) ∨
        (∀ last ∈ path.runs.head?, last.change ≠ change) ∧
          (path.edit change).runs = ⟨change, 1⟩ :: path.runs) := by
  obtain ⟨usedOld, runs⟩ := path
  cases runs with
  | nil => exact ⟨rfl, .inr ⟨fun last none => (by cases none), rfl⟩⟩
  | cons last earlier =>
    obtain ⟨kind, count⟩ := last
    by_cases same : kind = change
    · subst same
      simp [edit]
    · simp [edit, same]

/-- A path with one more edit ends in an edit. -/
theorem Path.edited_edit (path : Path) {change : Change} (edits : change ≠ .keep) :
    (path.edit change).Edited := by
  intro last isLast
  rcases (path.edit_cases change).2 with ⟨count, earlier, _, longer⟩ | ⟨_, longer⟩
  · rw [longer] at isLast
    cases isLast
    exact edits
  · rw [longer] at isLast
    cases isLast
    exact edits

/-- A path with one more edit has no two runs of one kind in a row: the edit is counted to the last run
where this is of its kind. -/
theorem Path.varied_edit (varied : Varied path.runs) (change : Change) : Varied (path.edit change).runs := by
  rcases (path.edit_cases change).2 with ⟨count, earlier, before, longer⟩ | ⟨other, longer⟩
  · rw [longer]
    rw [before] at varied
    exact varied.recount _
  · rw [longer]
    exact varied.cons other

/-- A path with one more line removed. One more line of the old text is used and none of the new text. -/
theorem Path.Ends.remove (ends : path.Ends old new j) (room : path.usedOld < old.size) :
    (path.edit .remove).usedOld = path.usedOld + 1 ∧ (path.edit .remove).Ends old new j := by
  obtain ⟨used, runs⟩ := path.edit_cases .remove
  rw [if_pos rfl] at used
  have reaches := ends.reaches
  refine ⟨used, ?_, varied_edit ends.varied _⟩
  rw [← Array.length_toList] at room
  rw [used]
  rcases runs with ⟨count, earlier, before, longer⟩ | ⟨_, longer⟩
  · rw [before] at reaches
    rw [longer]
    exact reaches.remove_one room
  · rw [longer]
    exact .remove reaches Nat.one_pos room

/-- A path with one more line added. One more line of the new text is used and none of the old text. -/
theorem Path.Ends.add (ends : path.Ends old new j) (room : j < new.size) :
    (path.edit .add).usedOld = path.usedOld ∧ (path.edit .add).Ends old new (j + 1) := by
  obtain ⟨used, runs⟩ := path.edit_cases .add
  rw [if_neg (by decide)] at used
  have reaches := ends.reaches
  refine ⟨used, ?_, varied_edit ends.varied _⟩
  rw [← Array.length_toList] at room
  rw [used]
  rcases runs with ⟨count, earlier, before, longer⟩ | ⟨_, longer⟩
  · rw [before] at reaches
    rw [longer]
    exact reaches.add_one room
  · rw [longer]
    exact .add reaches Nat.one_pos room

/-- The lines that agree from two places on are the same. Lines are counted as long as both texts have
one and the two are equal; the induction follows the count. -/
theorem Path.common_count (old new : Array String) {i j : Nat} (inOld : i ≤ old.size) (inNew : j ≤ new.size)
    (fuel : Nat) :
    i + commonCount old new i j fuel ≤ old.size ∧ j + commonCount old new i j fuel ≤ new.size ∧
      (old.toList.drop i).take (commonCount old new i j fuel) =
        (new.toList.drop j).take (commonCount old new i j fuel) := by
  fun_induction commonCount old new i j fuel with
  | case1 => exact ⟨inOld, inNew, rfl⟩
  | case2 i j fuel line hereNew hereOld inductionHypothesis =>
    obtain ⟨oldRoom, isOld⟩ := Array.getElem?_eq_some_iff.mp hereOld
    obtain ⟨newRoom, isNew⟩ := Array.getElem?_eq_some_iff.mp hereNew
    obtain ⟨oldEnd, newEnd, same⟩ := inductionHypothesis oldRoom newRoom
    refine ⟨by omega, by omega, ?_⟩
    rw [List.drop_eq_getElem_cons (by rwa [Array.length_toList]),
      List.drop_eq_getElem_cons (i := j) (by rwa [Array.length_toList]), Array.getElem_toList, isOld,
      Array.getElem_toList, isNew, List.take_succ_cons, List.take_succ_cons, same]
  | case3 => exact ⟨inOld, inNew, rfl⟩
  | case4 => exact ⟨inOld, inNew, rfl⟩

/-- A path that ends in an edit goes on over lines that agree. As its last run is no run of kept lines,
those that agree become a run of their own. -/
theorem Path.Ends.follow (ends : path.Ends old new j) (edited : path.Edited) {diagonal : Int}
    (on : diagonal = path.usedOld - j) :
    ∃ count, (path.follow old new diagonal).1.usedOld = path.usedOld + count ∧
      (path.follow old new diagonal).2 = j + count ∧
      (path.follow old new diagonal).1.Ends old new (j + count) ∧
      (old.toList.drop path.usedOld).take count = (new.toList.drop j).take count := by
  have place : ((path.usedOld : Int) - diagonal).toNat = j := by omega
  obtain ⟨inOld, inNew⟩ := ends.within
  obtain ⟨oldEnd, newEnd, same⟩ := common_count old new inOld inNew old.size
  rw [Path.follow, place]
  split
  · exact ⟨0, rfl, rfl, ends, rfl⟩
  · rename_i some
    refine ⟨_, rfl, rfl, ⟨.keep ends.reaches (Nat.pos_of_ne_zero some) same ?_ ?_, ends.varied.cons edited⟩,
      same⟩
    · rwa [Array.length_toList]
    · rwa [Array.length_toList]

/-- Of the paths that can go on, the one is taken that has used more old lines then. A path can go on by
a removal if it is the one below and has old lines left, and by an insertion if it is the one above and
has new lines left; the cases are those of what is on the two diagonals. -/
theorem Path.further_cases (old new : Array String) (diagonal : Int) (below above : Option Path) :
    (∃ before, below = some before ∧ before.usedOld < old.size ∧
      further old new diagonal below above = some (before.edit .remove) ∧
      ∀ after, above = some after → after.canAdd new diagonal → after.usedOld ≤ before.usedOld + 1) ∨
    (∃ after, above = some after ∧ after.canAdd new diagonal ∧
      further old new diagonal below above = some (after.edit .add) ∧
      ∀ before, below = some before → before.usedOld < old.size → before.usedOld + 1 ≤ after.usedOld) ∨
    further old new diagonal below above = none ∧
      (∀ before, below = some before → ¬before.usedOld < old.size) ∧
      ∀ after, above = some after → ¬after.canAdd new diagonal := by
  rw [further]
  cases removal : below.filter (·.usedOld < old.size) with
  | none =>
    have noRemoval := Option.filter_eq_none_iff.mp removal
    cases insertion : above.filter (·.canAdd new diagonal) with
    | none =>
      have noInsertion := Option.filter_eq_none_iff.mp insertion
      exact .inr (.inr ⟨rfl, by simpa using noRemoval, by simpa using noInsertion⟩)
    | some after =>
      obtain ⟨isAfter, canAdd⟩ := Option.filter_eq_some_iff.mp insertion
      refine .inr (.inl ⟨after, isAfter, canAdd, rfl, fun before isBefore room => ?_⟩)
      exact absurd (decide_eq_true room) (noRemoval before isBefore)
  | some before =>
    obtain ⟨isBefore, room⟩ := Option.filter_eq_some_iff.mp removal
    have room := of_decide_eq_true room
    cases insertion : above.filter (·.canAdd new diagonal) with
    | none =>
      have noInsertion := Option.filter_eq_none_iff.mp insertion
      refine .inl ⟨before, isBefore, room, rfl, fun after isAfter canAdd => ?_⟩
      exact absurd canAdd (noInsertion after isAfter)
    | some after =>
      obtain ⟨isAfter, canAdd⟩ := Option.filter_eq_some_iff.mp insertion
      by_cases further : before.usedOld + 1 < after.usedOld
      · refine .inr (.inl ⟨after, isAfter, canAdd, if_pos further, fun other isOther _ => ?_⟩)
        cases isBefore.symm.trans isOther
        exact Nat.le_of_lt further
      · refine .inl ⟨before, isBefore, room, if_neg further, fun other isOther _ => ?_⟩
        cases isAfter.symm.trans isOther
        exact Nat.le_of_not_lt further

/-- A path on a diagonal that is not finished and has used at least so many lines. -/
structure Path.On (old new : Array String) (diagonal : Int) (lines : Nat) (path : Path) (j : Nat) : Prop where
  ends : path.Ends old new j
  place : diagonal = path.usedOld - j
  unfinished : path.usedOld < old.size ∨ j < new.size
  long : lines ≤ path.usedOld + j

/-- A path can go on to the diagonal below with a new line exactly when it has not used all of them. -/
theorem Path.On.can_add {diagonal : Int} {lines : Nat} (on : path.On old new (diagonal + 1) lines j) :
    path.canAdd new diagonal = true ↔ j < new.size := by
  have place := on.place
  simp only [canAdd, Bool.and_eq_true, decide_eq_true_eq]
  omega

namespace Search

variable {search : Search} {rounds : Nat} {low high diagonal : Int}

/-- There is a path on a diagonal, and it has used at least so many lines. -/
def Holds (old new : Array String) (search : Search) (lines : Nat) (diagonal : Int) : Prop :=
  ∃ path j, search.best[diagonal]? = some path ∧ path.On old new diagonal lines j

/-- A path on a diagonal has used all old lines. -/
def OldUsed (old : Array String) (search : Search) (diagonal : Int) : Prop :=
  ∀ path, search.best[diagonal]? = some path → path.usedOld = old.size

/-- A path on a diagonal has used all new lines. -/
def NewUsed (new : Array String) (search : Search) (diagonal : Int) : Prop :=
  ∀ path, search.best[diagonal]? = some path → (path.usedOld : Int) - diagonal = new.size

/-- Below a diagonal, a number of rounds has left paths from some diagonal on. Either
nothing was given up, or the lowest of them has used all new lines. -/
structure Behind (old new : Array String) (rounds : Nat) (search : Search) (low diagonal : Int) : Prop where
  even : 2 ∣ low - rounds
  holds : ∀ d : Int, low ≤ d → d < diagonal → 2 ∣ d - rounds → search.Holds old new rounds d
  bound : search.least = none ∧ low = -rounds ∨
    search.least = some (low + 1) ∧ low < diagonal ∧ search.NewUsed new low

/-- Between two rounds, a stretch of diagonals holds paths. It ends above where nothing was given
up, or with a path that has used all old lines. -/
structure Ready (old new : Array String) (rounds : Nat) (search : Search) (low high : Int) : Prop where
  ordered : low ≤ high
  within : -rounds ≤ low ∧ high ≤ rounds
  even : 2 ∣ high - rounds
  keys : ∀ (d : Int) path, search.best[d]? = some path → -rounds ≤ d ∧ d ≤ rounds
  behind : Behind old new rounds search low (high + 1)
  upper : search.greatest = none ∧ high = rounds ∨
    search.greatest = some (high - 1) ∧ search.OldUsed old high

/-- In a round, before a diagonal: the paths that it may lengthen are there, and those below
are one edit longer. Only after a diagonal that was given up there may be none below. -/
structure Sweeping (old new : Array String) (rounds : Nat) (low high : Int) (search : Search)
    (diagonal : Int) : Prop where
  ordered : low ≤ high
  within : -rounds ≤ low ∧ high ≤ rounds
  even : 2 ∣ low - rounds ∧ 2 ∣ high - rounds
  here : low - 1 ≤ diagonal ∧ diagonal ≤ high + 1 ∧ 2 ∣ diagonal - (rounds + 1)
  keys : ∀ (d : Int) path, search.best[d]? = some path → -(rounds + 1) ≤ d ∧ d ≤ rounds + 1
  ahead : ∀ d : Int, diagonal - 1 ≤ d → low ≤ d → d ≤ high → 2 ∣ d - rounds → search.Holds old new rounds d
  upper : search.greatest = none ∧ high = rounds ∨
    search.greatest = some (high - 1) ∧ search.OldUsed old high
  edge : diagonal = high + 1 → search.greatest = none ∧ ¬search.OldUsed old high
  behind : (∃ first, low - 1 ≤ first ∧ first ≤ diagonal ∧ Behind old new (rounds + 1) search first diagonal) ∨
    (search.least = none ∨ search.least = some diagonal) ∧ low ≤ diagonal - 1 ∧
      search.NewUsed new (diagonal - 1)

/-- A round finds a path that has used all lines, or leaves paths that are one edit longer. -/
def Swept (old new : Array String) (rounds : Nat) : Except Path Search → Prop
  | .error path => path.usedOld = old.size ∧ path.Ends old new new.size
  | .ok next => ∃ low high, Ready old new rounds next low high

/-- A diagonal that is given up, and the one below it, hold no path; the others hold what they did. -/
theorem best_abandon (search : Search) (diagonal : Int) (d : Int) :
    (search.abandon diagonal).best[d]? =
      if d = diagonal then none else if d = diagonal - 1 then none else search.best[d]? := by
  rw [abandon, Std.TreeMap.getElem?_erase, Std.TreeMap.getElem?_erase]
  simp only [Int.compare_eq_eq, eq_comm (a := d)]

/-- A diagonal holds the path that was put on it, the one below it holds none, and the others hold what
they did. -/
theorem best_record (search : Search) (old new : Array String) (diagonal : Int) (path : Path) (usedNew : Nat)
    (d : Int) :
    (search.record old new diagonal path usedNew).best[d]? =
      if d = diagonal then some path else if d = diagonal - 1 then none else search.best[d]? := by
  rw [record, Std.TreeMap.getElem?_insert, Std.TreeMap.getElem?_erase]
  simp only [Int.compare_eq_eq, eq_comm (a := d)]

/-- What a round puts on a diagonal: a path one edit longer than the one that it came from, which has used
all new lines if the path below had, and all old lines if the path above had. -/
structure Lengthened (old new : Array String) (rounds : Nat) (low high : Int) (search : Search)
    (diagonal : Int) (path : Path) (j : Nat) : Prop where
  edited : path.Edited
  ends : path.Ends old new j
  place : diagonal = path.usedOld - j
  long : rounds + 1 ≤ path.usedOld + j
  full : low ≤ diagonal - 1 → search.NewUsed new (diagonal - 1) → j = new.size
  above : diagonal + 1 ≤ high → search.OldUsed old (diagonal + 1) → path.usedOld = old.size

/-- The diagonal below, if it belongs to the stretch, holds a path of the round before. -/
theorem Sweeping.holds_below (sweeping : Sweeping old new rounds low high search diagonal)
    (inside : low ≤ diagonal - 1) : search.Holds old new rounds (diagonal - 1) := by
  have here := sweeping.here
  exact sweeping.ahead _ (Int.le_refl _) inside (by omega) (by omega)

/-- The diagonal above, if it belongs to the stretch, holds a path of the round before. -/
theorem Sweeping.holds_above (sweeping : Sweeping old new rounds low high search diagonal)
    (inside : diagonal + 1 ≤ high) : search.Holds old new rounds (diagonal + 1) := by
  have here := sweeping.here
  exact sweeping.ahead _ (by omega) (by omega) inside (by omega)

/-- A path below the diagonal is one of the stretch: below the lowest diagonal there is none. -/
theorem Sweeping.inside_below (sweeping : Sweeping old new rounds low high search diagonal)
    (below : search.best[diagonal - 1]? = some path) : low ≤ diagonal - 1 := by
  have here := sweeping.here
  have even := sweeping.even
  have key := sweeping.keys _ _ below
  rcases sweeping.behind with ⟨start, fromLow, toHere, behind⟩ | ⟨_, inside, _⟩
  · rcases behind.bound with ⟨_, isStart⟩ | ⟨_, before, _⟩
    · omega
    · omega
  · exact inside

/-- A path above the diagonal is one of the stretch: above the highest diagonal there is none. -/
theorem Sweeping.inside_above (sweeping : Sweeping old new rounds low high search diagonal)
    (above : search.best[diagonal + 1]? = some path) : diagonal + 1 ≤ high := by
  have here := sweeping.here
  have even := sweeping.even
  have key := sweeping.keys _ _ above
  by_contra outside
  have last : diagonal = high + 1 := by omega
  rcases sweeping.upper with ⟨_, isHigh⟩ | ⟨isSome, _⟩
  · omega
  · rw [(sweeping.edge last).1] at isSome
    cases isSome

/-- The path below goes on, when the one above would not get further. A removal uses one more old line,
so the new path lies on the diagonal and is one line longer than the rounds so far. Had the path above
used all old lines, it would have got further. -/
theorem Sweeping.lengthened_below (sweeping : Sweeping old new rounds low high search diagonal)
    {before : Path} (below : search.best[diagonal - 1]? = some before) (room : before.usedOld < old.size)
    (furthest : ∀ after, search.best[diagonal + 1]? = some after → after.canAdd new diagonal →
      after.usedOld ≤ before.usedOld + 1) :
    ∃ j, Lengthened old new rounds low high search diagonal (before.edit .remove) j := by
  obtain ⟨_, j, isBefore, on⟩ := sweeping.holds_below (sweeping.inside_below below)
  cases below.symm.trans isBefore
  obtain ⟨used, ends⟩ := on.ends.remove room
  have place := on.place
  have long := on.long
  refine ⟨j, before.edited_edit (by decide), ends, by omega, by omega, ?_, ?_⟩
  · intro _ newUsed
    have := newUsed _ isBefore
    omega
  · intro inside oldUsed
    obtain ⟨after, k, isAfter, onAfter⟩ := sweeping.holds_above inside
    have all := oldUsed _ isAfter
    have unfinished := onAfter.unfinished
    have atLeast := furthest _ isAfter (onAfter.can_add.mpr (by omega))
    omega

/-- The path above goes on, when the one below would not get as far. An insertion uses one more new line.
Had the path below used all new lines, it would have got as far. -/
theorem Sweeping.lengthened_above (sweeping : Sweeping old new rounds low high search diagonal)
    {after : Path} (above : search.best[diagonal + 1]? = some after)
    (canAdd : after.canAdd new diagonal = true)
    (furthest : ∀ before, search.best[diagonal - 1]? = some before → before.usedOld < old.size →
      before.usedOld + 1 ≤ after.usedOld) :
    ∃ j, Lengthened old new rounds low high search diagonal (after.edit .add) j := by
  obtain ⟨_, j, isAfter, on⟩ := sweeping.holds_above (sweeping.inside_above above)
  cases above.symm.trans isAfter
  obtain ⟨used, ends⟩ := on.ends.add (on.can_add.mp canAdd)
  have place := on.place
  have long := on.long
  refine ⟨j + 1, after.edited_edit (by decide), ends, by omega, by omega, ?_, ?_⟩
  · intro inside newUsed
    obtain ⟨before, k, isBefore, onBefore⟩ := sweeping.holds_below inside
    have all := newUsed _ isBefore
    have unfinished := onBefore.unfinished
    have atPlace := onBefore.place
    have atLeast := furthest _ isBefore (by omega)
    have room := on.can_add.mp canAdd
    omega
  · intro _ oldUsed
    rw [used]
    exact oldUsed _ isAfter

/-- Where no path goes on, the path above ends the stretch below and has used all new lines. On any other
diagonal the path below has used all old lines: then the stretch would have been closed above it, or the
path above, with all new lines used, would use more old lines than there are. -/
theorem Sweeping.stuck (sweeping : Sweeping old new rounds low high search diagonal)
    (noRemoval : ∀ before, search.best[diagonal - 1]? = some before → ¬before.usedOld < old.size)
    (noInsertion : ∀ after, search.best[diagonal + 1]? = some after → ¬after.canAdd new diagonal) :
    diagonal = low - 1 ∧ search.NewUsed new low := by
  obtain ⟨lowest, highest, turn⟩ := sweeping.here
  obtain ⟨evenLow, evenHigh⟩ := sweeping.even
  have first : diagonal = low - 1 := by
    by_contra notFirst
    obtain ⟨before, j, isBefore, on⟩ := sweeping.holds_below (by omega)
    have allOld := noRemoval _ isBefore
    by_cases last : diagonal = high + 1
    · refine (sweeping.edge last).2 fun path isPath => ?_
      rw [show high = diagonal - 1 by omega] at isPath
      cases isPath.symm.trans isBefore
      exact Nat.le_antisymm on.ends.within.1 (Nat.le_of_not_lt allOld)
    · obtain ⟨after, k, isAfter, onAfter⟩ := sweeping.holds_above (by omega)
      have allNew := mt onAfter.can_add.mpr (noInsertion _ isAfter)
      have unfinished := on.unfinished
      have placeBelow := on.place
      have placeAbove := onAfter.place
      have within := onAfter.ends.within
      omega
  refine ⟨first, fun path isPath => ?_⟩
  rw [show low = diagonal + 1 by omega] at isPath
  obtain ⟨_, j, isAfter, on⟩ := sweeping.holds_above (by have := sweeping.ordered; omega)
  cases isPath.symm.trans isAfter
  have allNew := mt on.can_add.mpr (noInsertion _ isAfter)
  have within := on.ends.within
  have place := on.place
  omega

/-- In a round there is a path that goes on to the next diagonal, unless the path above that one ends
the stretch and has used all new lines. -/
theorem Sweeping.further (sweeping : Sweeping old new rounds low high search diagonal) :
    Path.further old new diagonal search.best[diagonal - 1]? search.best[diagonal + 1]? = none ∧
        diagonal = low - 1 ∧ search.NewUsed new low ∨
      ∃ path j,
        Path.further old new diagonal search.best[diagonal - 1]? search.best[diagonal + 1]? = some path ∧
        Lengthened old new rounds low high search diagonal path j := by
  rcases Path.further_cases old new diagonal search.best[diagonal - 1]? search.best[diagonal + 1]? with
    ⟨before, below, room, next, furthest⟩ | ⟨after, above, canAdd, next, furthest⟩ |
    ⟨next, noRemoval, noInsertion⟩
  · obtain ⟨j, lengthened⟩ := sweeping.lengthened_below below room furthest
    exact .inr ⟨_, j, next, lengthened⟩
  · obtain ⟨j, lengthened⟩ := sweeping.lengthened_above above canAdd furthest
    exact .inr ⟨_, j, next, lengthened⟩
  · exact .inl ⟨next, sweeping.stuck noRemoval noInsertion⟩

/-- A path that has not used all new lines does not narrow the stretch from below. -/
theorem least_record {usedNew : Nat} (search : Search) (diagonal : Int) (path : Path)
    (room : usedNew < new.size) :
    (search.record old new diagonal path usedNew).least = search.least :=
  if_neg (Nat.not_le_of_lt room)

/-- Below a path that has used all new lines nothing is worth trying. -/
theorem least_record_full {usedNew : Nat} (path : Path) (full : new.size ≤ usedNew)
    (lower : ∀ bound, search.least = some bound → bound ≤ diagonal + 1) :
    (search.record old new diagonal path usedNew).least = some (diagonal + 1) := by
  rw [record]
  simp only [ge_iff_le, if_pos full]
  cases least : search.least with
  | none => rfl
  | some bound => exact congrArg some (Int.max_eq_right (lower bound least))

/-- A path that has not used all old lines does not narrow the stretch from above. -/
theorem greatest_record {usedNew : Nat} (search : Search) (diagonal : Int) (room : path.usedOld < old.size) :
    (search.record old new diagonal path usedNew).greatest = search.greatest :=
  if_neg (Nat.not_le_of_lt room)

/-- Above a path that has used all old lines nothing is worth trying. -/
theorem greatest_record_full {usedNew : Nat} (full : old.size ≤ path.usedOld)
    (higher : ∀ bound, search.greatest = some bound → diagonal - 1 ≤ bound) :
    (search.record old new diagonal path usedNew).greatest = some (diagonal - 1) := by
  rw [record]
  simp only [ge_iff_le, if_pos full]
  cases greatest : search.greatest with
  | none => rfl
  | some bound => exact congrArg some (Int.min_eq_right (higher bound greatest))

/-- What holds on a diagonal holds after another one was recorded. -/
theorem Holds.record {lines usedNew : Nat} {d : Int} (holds : search.Holds old new lines d)
    (other : d ≠ diagonal) (kept : d ≠ diagonal - 1) :
    (search.record old new diagonal path usedNew).Holds old new lines d := by
  rwa [Holds, best_record, if_neg other, if_neg kept]

/-- Whether all old lines are used on a diagonal does not change when another diagonal is given a path. -/
theorem OldUsed.record_iff {usedNew : Nat} {d : Int} (other : d ≠ diagonal) (kept : d ≠ diagonal - 1) :
    (search.record old new diagonal path usedNew).OldUsed old d ↔ search.OldUsed old d := by
  rw [OldUsed, best_record, if_neg other, if_neg kept]
  rfl

/-- A path that has used all new lines is the first of those worth keeping. Nothing is left to be added,
and so it bounds the diagonals that are worth going on with. -/
theorem Behind.of_full (even : 2 ∣ diagonal - rounds) (on : path.On old new diagonal rounds j)
    (full : j = new.size) (lower : ∀ bound, search.least = some bound → bound ≤ diagonal + 1) :
    Behind old new rounds (search.record old new diagonal path j) diagonal (diagonal + 1) where
  even := even
  holds d fromHere toHere _ := by
    obtain rfl : d = diagonal := by omega
    exact ⟨path, j, by rw [best_record, if_pos rfl], on⟩
  bound := by
    refine .inr ⟨least_record_full _ full.ge lower, Int.lt_add_one_of_le (Int.le_refl _),
      fun other isOther => ?_⟩
    rw [best_record, if_pos rfl] at isOther
    cases isOther
    have place := on.place
    omega

/-- A path put on a diagonal belongs to those below the next. If the path has used all new lines, the
stretch begins with it; else the stretch begins where it did and goes on to the path. -/
theorem Behind.record (behind : Behind old new rounds search low diagonal) (below : low ≤ diagonal)
    (even : 2 ∣ diagonal - rounds) (on : path.On old new diagonal rounds j) :
    ∃ first, low ≤ first ∧ first ≤ diagonal ∧
      Behind old new rounds (search.record old new diagonal path j) first (diagonal + 1) := by
  by_cases full : j = new.size
  · refine ⟨diagonal, below, Int.le_refl _, .of_full even on full fun bound isBound => ?_⟩
    rcases behind.bound with ⟨isNone, _⟩ | ⟨isSome, before, _⟩
    · rw [isNone] at isBound
      cases isBound
    · rw [isSome] at isBound
      cases isBound
      omega
  · have room : j < new.size := by
      have within := on.ends.within
      omega
    refine ⟨low, Int.le_refl _, below, behind.even, fun d fromLow toHere evenHere => ?_, ?_⟩
    · by_cases isHere : d = diagonal
      · rw [isHere]
        exact ⟨path, j, by rw [best_record, if_pos rfl], on⟩
      · exact (behind.holds d fromLow (by omega) evenHere).record isHere (by omega)
    · rw [least_record _ _ _ room]
      have evenLow := behind.even
      rcases behind.bound with untouched | ⟨isSome, before, newUsed⟩
      · exact .inl untouched
      · refine .inr ⟨isSome, by omega, ?_⟩
        rwa [NewUsed, best_record, if_neg (by omega), if_neg (by omega)]

/-- Between two diagonals of a round there is none. -/
theorem Behind.skip (behind : Behind old new rounds search low (diagonal + 1))
    (even : 2 ∣ diagonal - rounds) :
    Behind old new rounds search low (diagonal + 2) where
  even := behind.even
  holds d fromLow toNext evenHere := behind.holds d fromLow (by omega) evenHere
  bound := by
    rcases behind.bound with untouched | ⟨isSome, before, newUsed⟩
    · exact .inl untouched
    · exact .inr ⟨isSome, by omega, newUsed⟩

/-- A round passes over a diagonal whose path would have to use more new lines than there are. Only the
lowest diagonal can be passed over, as the path above it is the only one that could have gone on to it. -/
theorem Sweeping.abandon (sweeping : Sweeping old new rounds low high search diagonal)
    (first : diagonal = low - 1) (newUsed : search.NewUsed new low) :
    Sweeping old new rounds low high (search.abandon diagonal) (diagonal + 2) := by
  have kept (d : Int) (inside : low ≤ d) : (search.abandon diagonal).best[d]? = search.best[d]? := by
    rw [best_abandon, if_neg (by omega), if_neg (by omega)]
  have ordered := sweeping.ordered
  obtain ⟨evenLow, evenHigh⟩ := sweeping.even
  refine ⟨ordered, sweeping.within, sweeping.even, ⟨by omega, by omega, by omega⟩, ?_, ?_, ?_, ?_,
    .inr ⟨?_, by omega, ?_⟩⟩
  · intro d path isPath
    rw [best_abandon] at isPath
    split at isPath
    · cases isPath
    · split at isPath
      · cases isPath
      · exact sweeping.keys d path isPath
  · intro d _ inside toHigh even
    rw [Holds, kept d inside]
    exact sweeping.ahead d (by omega) inside toHigh even
  · rw [OldUsed, kept high ordered]
    exact sweeping.upper
  · intro last
    obtain rfl : high = low := by omega
    obtain ⟨path, j, isPath, on⟩ := sweeping.ahead high (by omega) ordered (Int.le_refl _) evenHigh
    have unfinished := on.unfinished
    have place := on.place
    have allNew := newUsed path isPath
    have notOld : ¬search.OldUsed old high := fun oldUsed => by
      have allOld := oldUsed path isPath
      omega
    refine ⟨(sweeping.upper.resolve_right (fun upper => notOld upper.2)).1, ?_⟩
    rwa [OldUsed, kept high ordered]
  · left
    rcases sweeping.behind with ⟨start, fromLow, toHere, behind⟩ | ⟨_, below, _⟩
    · rcases behind.bound with ⟨isNone, _⟩ | ⟨_, before, _⟩
      · exact isNone
      · omega
    · omega
  · rw [NewUsed, kept _ (by omega), show diagonal + 2 - 1 = low by omega]
    exact newUsed

/-- A path put on the next diagonal of a round belongs to those below. Either the row of paths below goes
on to it, or there was none worth keeping below and the row begins with it. -/
theorem Sweeping.record_behind (sweeping : Sweeping old new rounds low high search diagonal)
    (on : path.On old new diagonal (rounds + 1) j)
    (full : low ≤ diagonal - 1 → search.NewUsed new (diagonal - 1) → j = new.size) :
    ∃ first, low - 1 ≤ first ∧ first ≤ diagonal ∧
      Behind old new (rounds + 1) (search.record old new diagonal path j) first (diagonal + 1) := by
  obtain ⟨lowest, _, turn⟩ := sweeping.here
  rcases sweeping.behind with ⟨start, fromLow, toHere, behind⟩ | ⟨isBound, below, newUsed⟩
  · obtain ⟨first, fromStart, toLast, after⟩ := behind.record toHere turn on
    exact ⟨first, Int.le_trans fromLow fromStart, toLast, after⟩
  · refine ⟨diagonal, lowest, Int.le_refl _, .of_full turn on (full below newUsed) fun bound least => ?_⟩
    rcases isBound with isNone | isSome
    · rw [isNone] at least
      cases least
    · rw [isSome] at least
      cases least
      omega

/-- After a step of a round, paths stand on the diagonals that so many edits can reach, and on no others. -/
theorem Sweeping.record_keys (sweeping : Sweeping old new rounds low high search diagonal) (d : Int)
    (other : Path) (isPath : (search.record old new diagonal path j).best[d]? = some other) :
    -(rounds + 1) ≤ d ∧ d ≤ rounds + 1 := by
  rw [best_record] at isPath
  split at isPath
  · have here := sweeping.here
    have within := sweeping.within
    omega
  · split at isPath
    · cases isPath
    · exact sweeping.keys d other isPath

/-- A path put on the last diagonal of a round ends it. The stretch is closed there, either because the
path has used all old lines, so that nothing above it is worth trying, or because the round has come to
its highest diagonal. -/
theorem Sweeping.record_last (sweeping : Sweeping old new rounds low high search diagonal)
    (on : path.On old new diagonal (rounds + 1) j)
    (full : low ≤ diagonal - 1 → search.NewUsed new (diagonal - 1) → j = new.size)
    (last : path.usedOld = old.size ∨ diagonal = high + 1) :
    ∃ first, Ready old new (rounds + 1) (search.record old new diagonal path j) first diagonal ∧
      diagonal + 2 > (search.record old new diagonal path j).last (rounds + 1) := by
  obtain ⟨_, highest, turn⟩ := sweeping.here
  obtain ⟨first, fromLow, toHere, behind⟩ := sweeping.record_behind on full
  have within := sweeping.within
  have ready (upper : (search.record old new diagonal path j).greatest = none ∧ diagonal = rounds + 1 ∨
      (search.record old new diagonal path j).greatest = some (diagonal - 1) ∧
        (search.record old new diagonal path j).OldUsed old diagonal) :
      Ready old new (rounds + 1) (search.record old new diagonal path j) first diagonal :=
    ⟨toHere, ⟨by omega, by omega⟩, turn, sweeping.record_keys, behind, upper⟩
  by_cases oldUsed : path.usedOld = old.size
  · have greatest : (search.record old new diagonal path j).greatest = some (diagonal - 1) := by
      refine greatest_record_full oldUsed.ge fun bound isBound => ?_
      rcases sweeping.upper with ⟨isNone, _⟩ | ⟨isSome, _⟩
      · rw [isNone] at isBound
        cases isBound
      · have inside : diagonal ≠ high + 1 := by
          intro outside
          rw [(sweeping.edge outside).1] at isSome
          cases isSome
        rw [isSome] at isBound
        cases isBound
        omega
    refine ⟨first, ready (.inr ⟨greatest, fun other isOther => ?_⟩), ?_⟩
    · rw [best_record, if_pos rfl] at isOther
      cases isOther
      exact oldUsed
    · simp only [Search.last, greatest]
      omega
  · have room : path.usedOld < old.size := Nat.lt_of_le_of_ne on.ends.within.1 oldUsed
    have outside := last.resolve_left oldUsed
    have isNone := (sweeping.edge outside).1
    have isHigh : high = rounds := by
      rcases sweeping.upper with ⟨_, isHigh⟩ | ⟨isSome, _⟩
      · exact isHigh
      · rw [isNone] at isSome
        cases isSome
    have greatest : (search.record old new diagonal path j).greatest = none :=
      (greatest_record _ _ room).trans isNone
    refine ⟨first, ready (.inl ⟨greatest, by omega⟩), ?_⟩
    simp only [Search.last, greatest]
    omega

/-- After a path was put on any other diagonal, the round goes on. The diagonals above it are as they
were, and those below are the ones before and this one. -/
theorem Sweeping.record_next (sweeping : Sweeping old new rounds low high search diagonal)
    (on : path.On old new diagonal (rounds + 1) j)
    (full : low ≤ diagonal - 1 → search.NewUsed new (diagonal - 1) → j = new.size)
    (room : path.usedOld < old.size) (inside : diagonal ≠ high + 1)
    (above : diagonal + 1 = high → ¬search.OldUsed old high) :
    Sweeping old new rounds low high (search.record old new diagonal path j) (diagonal + 2) := by
  obtain ⟨lowest, highest, turn⟩ := sweeping.here
  obtain ⟨evenLow, evenHigh⟩ := sweeping.even
  obtain ⟨first, fromLow, toHere, behind⟩ := sweeping.record_behind on full
  refine ⟨sweeping.ordered, sweeping.within, sweeping.even, ⟨by omega, by omega, by omega⟩,
    sweeping.record_keys, fun d toNext fromLow toHigh even => ?_, ?_, fun last => ?_,
    .inl ⟨first, fromLow, by omega, behind.skip turn⟩⟩
  · exact (sweeping.ahead d (by omega) fromLow toHigh even).record (by omega) (by omega)
  · rw [greatest_record _ _ room, OldUsed.record_iff (by omega) (by omega)]
    exact sweeping.upper
  · have notUsed := above (by omega)
    rw [greatest_record _ _ room, OldUsed.record_iff (by omega) (by omega)]
    exact ⟨(sweeping.upper.resolve_right fun upper => notUsed upper.2).1, notUsed⟩

/-- A round that goes on keeps its paths up to the last diagonal. A bound stands one below the highest
path of the round before, and once there is one the round stops at it. -/
theorem Sweeping.last (sweeping : Sweeping old new rounds low high search diagonal) :
    ¬diagonal > search.last (rounds + 1) := by
  obtain ⟨_, highest, turn⟩ := sweeping.here
  have within := sweeping.within
  rcases sweeping.upper with ⟨isNone, _⟩ | ⟨isSome, _⟩
  · simp only [Search.last, isNone]
    omega
  · have inside : diagonal ≠ high + 1 := by
      intro outside
      rw [(sweeping.edge outside).1] at isSome
      cases isSome
    have evenHigh := sweeping.even.2
    simp only [Search.last, isSome]
    omega

/-- A round that has begun finds a path that has used all lines, or leaves paths that are one edit
longer. -/
theorem Sweeping.swept (sweeping : Sweeping old new rounds low high search diagonal) {fuel : Nat}
    (enough : rounds + 1 < diagonal + 2 * fuel) :
    Swept old new (rounds + 1) (sweep old new (rounds + 1) fuel diagonal search) := by
  induction fuel generalizing search diagonal with
  | zero =>
    have here := sweeping.here
    have within := sweeping.within
    omega
  | succ fuel inductionHypothesis =>
    rw [sweep, if_neg sweeping.last]
    rcases sweeping.further with ⟨next, first, newUsed⟩ |
      ⟨path, j, next, edited, ends, place, long, full, above⟩
    · rw [next]
      exact inductionHypothesis (sweeping.abandon first newUsed) (by push_cast at enough; omega)
    · simp only [next]
      obtain ⟨count, used, usedNew, followed, _⟩ := ends.follow edited place
      generalize path.follow old new diagonal = onward at used usedNew followed ⊢
      obtain ⟨further, usedFurther⟩ := onward
      simp only at used usedNew followed ⊢
      subst usedNew
      have within := followed.within
      split
      · rename_i finished
        simp only [ge_iff_le, Bool.and_eq_true, decide_eq_true_eq] at finished
        rw [Nat.le_antisymm within.2 finished.2] at followed
        exact ⟨Nat.le_antisymm within.1 finished.1, followed⟩
      · rename_i unfinished
        simp only [ge_iff_le, Bool.and_eq_true, decide_eq_true_eq, not_and_or, Nat.not_le] at unfinished
        have on : further.On old new diagonal (rounds + 1) (j + count) :=
          ⟨followed, by omega, unfinished, by omega⟩
        have allNew (inside : low ≤ diagonal - 1) (newUsed : search.NewUsed new (diagonal - 1)) :
            j + count = new.size := by
          have := full inside newUsed
          omega
        by_cases last : further.usedOld = old.size ∨ diagonal = high + 1
        · obtain ⟨first, ready, outside⟩ := sweeping.record_last on allNew last
          cases fuel with
          | zero => exact ⟨first, diagonal, ready⟩
          | succ fuel =>
            rw [sweep, if_pos outside]
            exact ⟨first, diagonal, ready⟩
        · obtain ⟨notAll, inside⟩ := not_or.mp last
          have room := Nat.lt_of_le_of_ne within.1 notAll
          refine inductionHypothesis (sweeping.record_next on allNew room inside ?_)
            (by push_cast at enough; omega)
          intro isHigh oldUsed
          rw [← isHigh] at oldUsed
          have := above (by omega) oldUsed
          omega

/-- The next round starts at the stretch of diagonals that hold paths. It starts one diagonal below the
stretch, unless the lowest path has used all new lines: then the diagonal below is left out, and the one
above the lowest comes first. -/
theorem Ready.sweeping (ready : Ready old new rounds search low high) :
    Sweeping old new rounds low high search (search.first (rounds + 1)) := by
  have ordered := ready.ordered
  have within := ready.within
  have evenHigh := ready.even
  have evenLow := ready.behind.even
  have keys (d : Int) (path : Path) (isPath : search.best[d]? = some path) :
      -(rounds + 1) ≤ d ∧ d ≤ rounds + 1 := by
    have := ready.keys d path isPath
    omega
  have ahead (d : Int) (fromLow : low ≤ d) (toHigh : d ≤ high) (even : 2 ∣ d - rounds) :
      search.Holds old new rounds d :=
    ready.behind.holds d fromLow (by omega) even
  rcases ready.behind.bound with ⟨isNone, isLow⟩ | ⟨isSome, _, newUsed⟩
  · have first : search.first (rounds + 1) = low - 1 := by
      simp only [Search.first, isNone]
      omega
    rw [first]
    refine ⟨ordered, within, ⟨evenLow, evenHigh⟩, ⟨by omega, by omega, by omega⟩, keys, fun d _ => ahead d,
      ready.upper, by omega,
      .inl ⟨low - 1, Int.le_refl _, Int.le_refl _, by omega, by omega, .inl ⟨isNone, ?_⟩⟩⟩
    omega
  · have first : search.first (rounds + 1) = low + 1 := by
      simp only [Search.first, isSome]
      omega
    rw [first]
    refine ⟨ordered, within, ⟨evenLow, evenHigh⟩, ⟨by omega, by omega, by omega⟩, keys, fun d _ => ahead d,
      ready.upper, fun last => ?_, .inr ⟨.inr isSome, by omega, ?_⟩⟩
    · -- The stretch is one diagonal, whose path has used all new lines and so not all old ones.
      obtain rfl : high = low := by omega
      obtain ⟨path, j, isPath, on⟩ := ahead high (Int.le_refl _) (Int.le_refl _) evenHigh
      have unfinished := on.unfinished
      have place := on.place
      have allNew := newUsed path isPath
      have notOld : ¬search.OldUsed old high := fun oldUsed => by
        have allOld := oldUsed path isPath
        omega
      exact ⟨(ready.upper.resolve_right fun upper => notOld upper.2).1, notOld⟩
    · rwa [Int.add_sub_cancel]

/-- With a round for each line the search finds a path that has used all of them. A path has used at
least one line for each round, so that the search cannot go on for more rounds than there are lines. The
induction is on the rounds that are left. -/
theorem Ready.run (ready : Ready old new rounds search low high) {fuel : Nat}
    (enough : old.size + new.size ≤ rounds + fuel) :
    ∃ path : Path, path.usedOld = old.size ∧ path.Ends old new new.size ∧
      run old new fuel (rounds + 1) search = path.runs.reverse := by
  induction fuel generalizing rounds search low high with
  | zero =>
    obtain ⟨path, j, _, on⟩ :=
      ready.behind.holds low (Int.le_refl _) (Int.lt_add_one_of_le ready.ordered) ready.behind.even
    have unfinished := on.unfinished
    have long := on.long
    have within := on.ends.within
    omega
  | succ fuel inductionHypothesis =>
    have first := ready.sweeping.here.1
    have within := ready.within
    have enoughDiagonals : (rounds : Int) + 1 < search.first (rounds + 1) + 2 * (rounds + 1 + 2 : Nat) := by
      omega
    have swept := ready.sweeping.swept enoughDiagonals
    rw [Search.run, Int.natCast_succ]
    cases result : sweep old new (rounds + 1) (rounds + 1 + 2) (search.first (rounds + 1)) search with
    | error path =>
      rw [result] at swept
      exact ⟨path, swept.1, swept.2, rfl⟩
    | ok next =>
      rw [result] at swept
      obtain ⟨low, high, ready⟩ := swept
      exact inductionHypothesis ready (by omega)

end Search

/-- Before the first round there is the path that keeps the lines that agree at the beginning. It stands
on the diagonal 0, the only one of its round. -/
theorem ready_start {path : Path} (on : path.On old new 0 0 j) :
    Search.Ready old new 0 ⟨(∅ : Std.TreeMap Int Path).insert 0 path, none, none⟩ 0 0 := by
  have best (d : Int) :
      ((∅ : Std.TreeMap Int Path).insert 0 path)[d]? = if d = 0 then some path else none := by
    rw [Std.TreeMap.getElem?_insert, Std.TreeMap.getElem?_emptyc]
    simp only [Int.compare_eq_eq, eq_comm (a := d)]
  refine ⟨Int.le_refl _, ⟨Int.le_refl _, Int.le_refl _⟩, by decide, fun d other isOther => ?_,
    ⟨by decide, fun d fromLow toHigh _ => ?_, .inl ⟨rfl, rfl⟩⟩, .inl ⟨rfl, rfl⟩⟩
  · rw [best] at isOther
    split at isOther
    · omega
    · cases isOther
  · obtain rfl : d = 0 := by omega
    exact ⟨path, j, best 0, on⟩

/-- The script between two different lists of lines leads from one to the other, and its last removal
does not follow an insertion. -/
theorem script_leads (different : old ≠ new) :
    Leads old.toList new.toList (script old new) 0 0 ∧ Settled (script old new) := by
  have start : Path.Ends old new ⟨0, []⟩ 0 := ⟨.start, .nil⟩
  have origin : (0 : Int) = (0 : Nat) - (0 : Nat) := rfl
  obtain ⟨count, used, usedNew, ends, same⟩ := start.follow (fun last none => (by cases none)) origin
  rw [script]
  generalize Path.follow ⟨0, []⟩ old new 0 = followed at used usedNew ends ⊢
  obtain ⟨path, usedNew'⟩ := followed
  simp only [Nat.zero_add] at used usedNew ends ⊢
  subst usedNew
  have within := ends.within
  split
  · -- All lines agree.
    rename_i finished
    simp only [ge_iff_le, Bool.and_eq_true, decide_eq_true_eq] at finished
    refine absurd (Array.toList_inj.mp ?_) different
    rw [List.drop_zero, List.drop_zero] at same
    rwa [List.take_of_length_le, List.take_of_length_le] at same
    · rw [Array.length_toList]
      exact finished.2
    · rw [Array.length_toList]
      omega
  · rename_i unfinished
    simp only [ge_iff_le, Bool.and_eq_true, decide_eq_true_eq, not_and_or, Nat.not_le] at unfinished
    have enough : old.size + new.size ≤ 0 + (old.size + new.size + 1) := by omega
    obtain ⟨last, all, finished, isRun⟩ :=
      (ready_start ⟨ends, by omega, unfinished, Nat.zero_le _⟩).run enough
    have leads := finished.reaches
    rw [all, ← Array.length_toList, ← Array.length_toList] at leads
    rw [isRun]
    refine ⟨leads.leads.removals_first, settled_removals_first ?_⟩
    exact List.isChain_reverse.mpr (finished.varied.imp fun _ _ => Ne.symm)

end Codemod.Patch
