import Codemod.Proofs.Calendar
import Codemod.Registry
import Mathlib.Data.List.Nodup

/-!
# The run order of registered fixes

Whatever calls were made to register fixes, the registry holds those whose call succeeded, under
different names and with calendar dates. It hands them out by date and, on the same day, by name. As
no two of them have the same name, this order leaves nothing open: the answers of a registry depend on
which fixes are registered, and not on when each of them was.
-/
namespace Codemod

open Text

/-- A fix runs before another: its date comes first, or its name when both have the same date. Texts are
ordered by their code units. -/
def Fix.Precedes (fix other : Fix) : Prop :=
  units fix.date < units other.date ∨ fix.date = other.date ∧ units fix.name < units other.name

variable {fix other third : Fix}

/-- Precedence is transitive: dates are compared first, and names at one date. -/
theorem Fix.Precedes.trans (first : fix.Precedes other) (second : other.Precedes third) :
    fix.Precedes third := by
  rcases first with earlier | ⟨sameDate, before⟩
  · rcases second with later | ⟨otherDate, _⟩
    · exact .inl (lt_trans earlier later)
    · exact .inl (otherDate ▸ earlier)
  · rcases second with later | ⟨otherDate, behind⟩
    · exact .inl (sameDate ▸ later)
    · exact .inr ⟨sameDate.trans otherDate, lt_trans before behind⟩

/-- No two fixes precede each other. -/
theorem Fix.Precedes.asymm (first : fix.Precedes other) : ¬ other.Precedes fix := by
  intro second
  rcases first.trans second with impossible | ⟨_, impossible⟩
  · exact lt_irrefl _ impossible
  · exact lt_irrefl _ impossible

/-- Of fixes with different names one precedes the other. -/
theorem Fix.precedes_total (distinct : fix.name ≠ other.name) :
    fix.Precedes other ∨ other.Precedes fix := by
  rcases lt_trichotomy (units fix.date) (units other.date) with earlier | same | later
  · exact .inl (.inl earlier)
  · have sameDate := units_injective same
    rcases lt_trichotomy (units fix.name) (units other.name) with before | sameName | after
    · exact .inl (.inr ⟨sameDate, before⟩)
    · exact absurd (units_injective sameName) distinct
    · exact .inr (.inr ⟨sameDate.symm, after⟩)
  · exact .inr (.inl later)

/-- A fix does not run before another exactly when the other precedes it. -/
theorem Fix.runs_before_iff : fix.runsBefore other = true ↔ ¬ other.Precedes fix := by
  have after : compareRuns fix.date fix.name other.date other.name = .gt ↔ other.Precedes fix := by
    rw [compareRuns, Ordering.then_eq_gt, compare_units_eq, compareUnits, compareUnits,
      compare_unit_lists_gt, compare_unit_lists_gt, Fix.Precedes, eq_comm]
  rw [Fix.runsBefore, bne_iff_ne, Ne, after]

/-- Between fixes that need not differ, running before or together is an order. The dates decide, and the
names where the dates are equal. -/
theorem Fix.runs_before_trans (first : fix.runsBefore other = true)
    (second : other.runsBefore third = true) : fix.runsBefore third = true := by
  rw [runs_before_iff] at *
  intro precedes
  by_cases same : other.name = third.name
  · -- The names are the same, so it is the date that third precedes by, or nothing lies between.
    rcases precedes with earlier | ⟨sameDate, before⟩
    · rcases lt_trichotomy (units other.date) (units fix.date) with less | equal | greater
      · exact first (.inl less)
      · exact second (.inl (equal ▸ earlier))
      · exact second (.inl (lt_trans earlier greater))
    · rcases lt_trichotomy (units other.date) (units fix.date) with less | equal | greater
      · exact first (.inl less)
      · exact first (.inr ⟨units_injective equal, same ▸ before⟩)
      · exact second (.inl (sameDate ▸ greater))
  · rcases precedes_total same with before | behind
    · exact first (before.trans precedes)
    · exact second behind

/-- Of two fixes one runs before the other or with it. -/
theorem Fix.runs_before_total (fix other : Fix) :
    (fix.runsBefore other || other.runsBefore fix) = true := by
  rw [Bool.or_eq_true, runs_before_iff, runs_before_iff]
  by_cases behind : other.Precedes fix
  · exact .inr behind.asymm
  · exact .inl behind

namespace Registry

variable {registry next others : Registry}

/-- Fixes under different names, each with a calendar date. -/
structure WellFormed (registry : Registry) : Prop where
  names : (registry.fixes.map (·.name)).Nodup
  dates : ∀ fix ∈ registry.fixes, Date.isCalendarDate fix.date = true

/-- A registry has the names of its fixes. -/
theorem has_iff {name : String} :
    registry.has name = true ↔ name ∈ registry.fixes.map (·.name) := by
  simp [has]

/-- What a call to register a fix comes to. The name is looked for first, and the date is tested after
it. -/
theorem register_cases (registry : Registry) (fix : Fix) :
    (registry.has fix.name = true ∧ registry.register fix = .error (.duplicateFix fix.name)) ∨
    (registry.has fix.name = false ∧ Date.isCalendarDate fix.date = false ∧
      registry.register fix = .error (dateError fix)) ∨
    (registry.has fix.name = false ∧ Date.isCalendarDate fix.date = true ∧
      registry.register fix = .ok { fixes := registry.fixes ++ [fix] }) := by
  rw [register]
  cases registry.has fix.name with
  | true => exact .inl ⟨rfl, rfl⟩
  | false =>
    cases Date.isCalendarDate fix.date with
    | false => exact .inr (.inl ⟨rfl, rfl, rfl⟩)
    | true => exact .inr (.inr ⟨rfl, rfl, rfl⟩)

/-- Registering a fix keeps a registry well-formed. A call that succeeds adds a fix whose name was not
used and whose date is of the calendar. -/
theorem WellFormed.register (formed : registry.WellFormed) (registered : registry.register fix = .ok next) :
    next.WellFormed ∧ next.fixes = registry.fixes ++ [fix] := by
  rcases registry.register_cases fix with ⟨_, refused⟩ | ⟨_, _, refused⟩ | ⟨free, dated, result⟩
  · rw [registered] at refused
    cases refused
  · rw [registered] at refused
    cases refused
  · cases registered.symm.trans result
    have unused : fix.name ∉ registry.fixes.map (·.name) := by
      rw [← has_iff, free]
      exact Bool.false_ne_true
    refine ⟨⟨?_, ?_⟩, rfl⟩
    · rw [List.map_append, List.nodup_append]
      refine ⟨formed.names, List.nodup_singleton _, ?_⟩
      rintro name used _ new rfl
      rw [List.map_singleton, List.mem_singleton] at new
      exact unused (new ▸ used)
    · intro other present
      rcases List.mem_append.mp present with before | new
      · exact formed.dates other before
      · rw [List.mem_singleton.mp new]
        exact dated

/-- A registry after a call to register a fix: what it was, when the call fails. -/
def told (registry : Registry) (fix : Fix) : Registry :=
  match registry.register fix with
  | .ok next => next
  | .error _ => registry

/-- A new registry after calls to register fixes. -/
def after (calls : List Fix) : Registry :=
  calls.foldl told {}

/-- The fixes whose calls to a registry succeed. -/
def accepted (registry : Registry) : List Fix → List Fix
  | [] => []
  | fix :: calls =>
    match registry.register fix with
    | .ok next => fix :: next.accepted calls
    | .error _ => registry.accepted calls

/-- One more call is made to the registry that the calls before it left. -/
theorem after_append (calls : List Fix) (fix : Fix) : after (calls ++ [fix]) = (after calls).told fix := by
  rw [after, List.foldl_append]
  rfl

/-- Calls add the fixes whose calls succeed, and nothing else. The induction is on the calls; one that
fails leaves the registry as it was. -/
theorem WellFormed.told (formed : registry.WellFormed) (calls : List Fix) :
    (calls.foldl Registry.told registry).WellFormed ∧
      (calls.foldl Registry.told registry).fixes = registry.fixes ++ registry.accepted calls := by
  induction calls generalizing registry with
  | nil => exact ⟨formed, (List.append_nil _).symm⟩
  | cons fix calls inductionHypothesis =>
    rw [List.foldl_cons, Registry.told, accepted]
    split
    · rename_i next registered
      obtain ⟨nextFormed, grown⟩ := formed.register registered
      obtain ⟨finallyFormed, finally'⟩ := inductionHypothesis nextFormed
      refine ⟨finallyFormed, finally'.trans ?_⟩
      rw [grown, List.append_assoc, List.singleton_append]
    · exact inductionHypothesis formed

/-- A new registry is well-formed, as it has no fixes. -/
theorem new_formed : ({} : Registry).WellFormed :=
  ⟨List.nodup_nil, fun _ none => absurd none List.not_mem_nil⟩

/-- Whatever calls are made, and whichever of them fail, a registry stays well-formed. -/
theorem after_formed (calls : List Fix) : (after calls).WellFormed :=
  (new_formed.told calls).1

/-- The fixes of a registry are those whose calls succeeded, in the order of the calls. -/
theorem fixes_after (calls : List Fix) : (after calls).fixes = accepted {} calls :=
  (new_formed.told calls).2

/-- Listing the fixes in run order leaves none out and adds none. -/
theorem all_perm (registry : Registry) : registry.all.Perm registry.fixes :=
  List.mergeSort_perm _ _

/-- A registry has each fix once, since it has each name once. -/
theorem WellFormed.nodup (formed : registry.WellFormed) : registry.fixes.Nodup :=
  List.Nodup.of_map _ formed.names

/-- Fixes under different names are handed out in a strict order. Sorting puts them in the order of dates
and names, and no two names are equal. -/
theorem WellFormed.all_ordered (formed : registry.WellFormed) : registry.all.Pairwise Fix.Precedes := by
  have ordered : registry.all.Pairwise fun fix other => fix.runsBefore other = true := by
    rw [all]
    apply List.pairwise_mergeSort
    · intro fix other third
      exact Fix.runs_before_trans
    · exact Fix.runs_before_total
  have names : (registry.all.map (·.name)).Nodup :=
    (registry.all_perm.map _).nodup_iff.mpr formed.names
  have distinct : registry.all.Pairwise fun fix other => fix.name ≠ other.name :=
    List.pairwise_map.mp names
  refine (ordered.and distinct).imp fun {fix other} both => ?_
  rcases Fix.precedes_total both.2 with before | behind
  · exact before
  · exact absurd behind (Fix.runs_before_iff.mp both.1)

/-- Two registries that answer alike. -/
structure Agrees (registry others : Registry) : Prop where
  all : registry.all = others.all
  select : ∀ requested, registry.select requested = others.select requested
  list : registry.list = others.list

/-- Well-formed registries with the same fixes answer alike. A strict order of the same members is one
list only, and all answers come from it. -/
theorem WellFormed.agrees (formed : registry.WellFormed) (alsoFormed : others.WellFormed)
    (same : ∀ fix, fix ∈ registry.fixes ↔ fix ∈ others.fixes) : registry.Agrees others := by
  have rearranged : registry.fixes.Perm others.fixes :=
    (List.perm_ext_iff_of_nodup formed.nodup alsoFormed.nodup).mpr same
  have all : registry.all = others.all :=
    List.Perm.eq_of_pairwise (fun _ _ _ _ before behind => absurd behind before.asymm)
      formed.all_ordered alsoFormed.all_ordered
      ((registry.all_perm.trans rearranged).trans others.all_perm.symm)
  have names : registry.names = others.names :=
    List.Perm.eq_of_pairwise (fun _ _ _ _ => units_le_antisymm)
      (List.pairwise_mergeSort units_le_trans units_le_total _)
      (List.pairwise_mergeSort units_le_trans units_le_total _)
      (((List.mergeSort_perm _ _).trans (rearranged.map _)).trans (List.mergeSort_perm _ _).symm)
  have has (name : String) : registry.has name = others.has name := by
    rw [Bool.eq_iff_iff, has_iff, has_iff]
    exact (rearranged.map _).mem_iff
  refine ⟨all, fun requested => ?_, by rw [list, list, all]⟩
  simp only [select, suggestions, has, names, all]

/-- Fixes under different names with calendar dates are all registered, in whichever order they come. The
induction is on the calls: the first succeeds, and leaves the names of the others unused. -/
theorem WellFormed.accepted_all (formed : registry.WellFormed) {calls : List Fix}
    (names : ((registry.fixes ++ calls).map (·.name)).Nodup)
    (dates : ∀ fix ∈ calls, Date.isCalendarDate fix.date = true) : registry.accepted calls = calls := by
  induction calls generalizing registry with
  | nil => rfl
  | cons fix calls inductionHypothesis =>
    have unused : registry.has fix.name = false := by
      rw [Bool.eq_false_iff, Ne, has_iff]
      intro used
      rw [List.map_append, List.nodup_append] at names
      exact names.2.2 fix.name used fix.name (List.mem_map_of_mem List.mem_cons_self) rfl
    have dated := dates fix List.mem_cons_self
    rcases registry.register_cases fix with ⟨taken, _⟩ | ⟨_, undated, _⟩ | ⟨_, _, registered⟩
    · cases unused.symm.trans taken
    · cases dated.symm.trans undated
    · rw [accepted, registered]
      dsimp only
      rw [inductionHypothesis (formed.register registered).1 ?_ fun other later =>
        dates other (List.mem_cons_of_mem _ later)]
      rwa [List.append_assoc, List.singleton_append]

/-- What a registry keeps to after whatever calls to register fixes. -/
structure Ordered (calls : List Fix) : Prop where
  /-- Registered names are different. -/
  names : ((after calls).fixes.map (·.name)).Nodup
  /-- A call fails when the name is taken or the date is none, and then it changes nothing. -/
  refused : ∀ fix, (∃ error, (after calls).register fix = .error error) ↔
    fix.name ∈ (after calls).fixes.map (·.name) ∨ Date.isCalendarDate fix.date = false
  unchanged : ∀ fix error, (after calls).register fix = .error error →
    after (calls ++ [fix]) = after calls
  /-- All fixes that were registered are handed out, once each, and no others. -/
  complete : (after calls).all.Perm (accepted {} calls)
  /-- They come in a strict order by date and name. -/
  ordered : (after calls).all.Pairwise Fix.Precedes
  /-- On their dates, this order is that of the days. -/
  chronological : ∀ fix ∈ (after calls).all, ∀ other ∈ (after calls).all,
    ∃ day otherDay, Date.parse? fix.date = some day ∧ Date.parse? other.date = some otherDay ∧
      (units fix.date < units other.date ↔ day.Before otherDay)
  /-- The answers depend only on which fixes are registered. -/
  determined : ∀ others, (∀ fix, fix ∈ (after calls).fixes ↔ fix ∈ (after others).fixes) →
    (after calls).Agrees (after others)
  /-- Fixes with different names and calendar dates may be registered in any order. -/
  anyOrder : ∀ others, calls.Perm others → (calls.map (·.name)).Nodup →
    (∀ fix ∈ calls, Date.isCalendarDate fix.date = true) →
    accepted {} calls = calls ∧ accepted {} others = others ∧ (after calls).Agrees (after others)

/-- A registry keeps its names apart and its run order fixed, whatever calls are made to register
fixes. -/
theorem keeps_order (calls : List Fix) : Ordered calls where
  names := (after_formed calls).names
  refused fix := by
    rw [← has_iff]
    rcases (after calls).register_cases fix with
      ⟨taken, failed⟩ | ⟨_, undated, failed⟩ | ⟨free, dated, registered⟩
    · exact iff_of_true ⟨_, failed⟩ (.inl taken)
    · exact iff_of_true ⟨_, failed⟩ (.inr undated)
    · refine iff_of_false ?_ ?_
      · rintro ⟨_, failed⟩
        cases registered.symm.trans failed
      · rw [free, dated]
        decide
  unchanged fix error failed := by
    rw [after_append, told, failed]
  complete := by
    rw [← fixes_after]
    exact all_perm _
  ordered := (after_formed calls).all_ordered
  chronological fix present other alsoPresent := by
    have formed := after_formed calls
    have inside := (all_perm _).mem_iff.mp present
    have alsoInside := (all_perm _).mem_iff.mp alsoPresent
    obtain ⟨day, reads⟩ := Date.parse_of_calendar (formed.dates fix inside)
    obtain ⟨otherDay, otherReads⟩ := Date.parse_of_calendar (formed.dates other alsoInside)
    exact ⟨day, otherDay, reads, otherReads, Date.units_lt_of_parse reads otherReads⟩
  determined others same := (after_formed calls).agrees (after_formed others) same
  anyOrder others rearranged names dates := by
    have accepts : accepted {} calls = calls := new_formed.accepted_all names dates
    have alsoAccepts : accepted {} others = others :=
      new_formed.accepted_all ((rearranged.map _).nodup_iff.mp names)
        fun fix present => dates fix (rearranged.mem_iff.mpr present)
    refine ⟨accepts, alsoAccepts, (after_formed calls).agrees (after_formed others) fun fix => ?_⟩
    rw [fixes_after, fixes_after, accepts, alsoAccepts]
    exact rearranged.mem_iff

/-- The fixes that come with the program may be registered in either order. Their names differ and their
dates are of the calendar. -/
theorem builtin_in_either_order :
    (after Fix.builtin).fixes = Fix.builtin ∧ (after Fix.builtin.reverse).fixes = Fix.builtin.reverse ∧
      (after Fix.builtin).Agrees (after Fix.builtin.reverse) := by
  have dates : ∀ fix ∈ Fix.builtin, Date.isCalendarDate fix.date = true := by
    intro fix present
    simp only [Fix.builtin, List.mem_cons, List.not_mem_nil, or_false] at present
    rcases present with rfl | rfl
    · decide
    · decide
  obtain ⟨accepts, alsoAccepts, agrees⟩ := (keeps_order Fix.builtin).anyOrder Fix.builtin.reverse
    (List.reverse_perm _).symm (by decide) dates
  exact ⟨(fixes_after _).trans accepts, (fixes_after _).trans alsoAccepts, agrees⟩

end Registry

end Codemod
