import Codemod.Proofs.RunOrder
import Codemod.Proofs.Verdict
import Mathlib.Data.List.Induction

/-!
# Fixes selected by their names

Names select fixes where all of them are registered: each fix once, in run order, whatever the order of
the names and however often they are given. Where some are not registered, these are told, each once and
in the order in which they were first given, and for each of them the registered names that come close
to it. What is offered for a name, and in which order, depends on which names are registered, and not on
when each of them was.
-/
namespace Codemod

open Text

namespace Naming

/-- A name that begins with another one and a hyphen. -/
def Extends (name candidate : String) : Prop :=
  ∃ rest, candidate = name ++ "-" ++ rest

/-- A name that is offered for another: it extends it, or it is within one edit for every four units of
it, and in any case within one. -/
def Near (name candidate : String) : Prop :=
  Extends name candidate ∨ typoDistance name candidate ≤ max 1 ((units name).length / 4)

/-- What the order of offers goes by first: nothing for an extension, else the distance. -/
inductive Ranks (name candidate : String) : Nat → Prop where
  | extension : Extends name candidate → Ranks name candidate 0
  | other : ¬ Extends name candidate → Ranks name candidate (typoDistance name candidate)

/-- A name is offered before another: it has a lower rank, or its units come first at the same rank. -/
def Before (name first second : String) : Prop :=
  ∃ rank next, Ranks name first rank ∧ Ranks name second next ∧
    (rank < next ∨ rank = next ∧ units first < units second)

variable {name candidate : String} {known : List String}

/-- The test on characters finds the names that go on after a hyphen. -/
theorem extends_iff :
    (name ++ "-").toList.isPrefixOf candidate.toList = true ↔ Extends name candidate := by
  rw [List.isPrefixOf_iff_prefix]
  constructor
  · rintro ⟨rest, same⟩
    refine ⟨String.ofList rest, String.toList_inj.mp ?_⟩
    rw [String.toList_append, String.toList_ofList, same]
  · rintro ⟨rest, rfl⟩
    exact ⟨rest.toList, (String.toList_append).symm⟩

/-- The distance that offers are sorted by is the rank: zero for an extension, and else the number of
edits. -/
theorem ranks_suggestion_distance : Ranks name candidate (suggestionDistance name candidate) := by
  rw [suggestionDistance]
  split
  · rename_i extended
    exact .extension (extends_iff.mp extended)
  · rename_i apart
    exact .other (mt extends_iff.mpr apart)

/-- A name is within the budget of another exactly where it comes near it. An extension has distance
zero, which any budget allows. -/
theorem near_iff : suggestionDistance name candidate ≤ budget name ↔ Near name candidate := by
  rw [suggestionDistance, Near, ← extends_iff]
  split
  · rename_i extended
    exact iff_of_true (Nat.zero_le _) (.inl extended)
  · rename_i apart
    exact ⟨.inr, fun near => near.resolve_left apart⟩

/-- The order of offers compares ranks first and units where ranks are the same. -/
theorem offered_before_iff {left right : Nat × String} :
    offeredBefore left right = true ↔
      left.1 < right.1 ∨ left.1 = right.1 ∧ unitsLe left.2 right.2 = true := by
  simp [offeredBefore]

/-- The order of offers is transitive, as is the order of units that it falls back on. -/
theorem offered_before_trans (first second third : Nat × String)
    (before : offeredBefore first second = true) (after : offeredBefore second third = true) :
    offeredBefore first third = true := by
  rw [offered_before_iff] at *
  rcases before with less | ⟨same, earlier⟩
  · rcases after with lessAgain | ⟨sameAgain, _⟩
    · exact .inl (less.trans lessAgain)
    · exact .inl (sameAgain ▸ less)
  · rcases after with lessAgain | ⟨sameAgain, later⟩
    · exact .inl (same ▸ lessAgain)
    · exact .inr ⟨same.trans sameAgain, units_le_trans _ _ _ earlier later⟩

/-- Of two offers one comes before the other, or both do. -/
theorem offered_before_total (left right : Nat × String) :
    (offeredBefore left right || offeredBefore right left) = true := by
  rw [Bool.or_eq_true, offered_before_iff, offered_before_iff]
  rcases lt_trichotomy left.1 right.1 with less | same | greater
  · exact .inl (.inl less)
  · rcases Bool.or_eq_true_iff.mp (units_le_total left.2 right.2) with earlier | later
    · exact .inl (.inr ⟨same, earlier⟩)
    · exact .inr (.inr ⟨same.symm, later⟩)
  · exact .inr (.inl greater)

/-- The names that are offered are the other known ones that are near. -/
theorem mem_suggest : candidate ∈ suggest name known ↔
    candidate ∈ known ∧ candidate ≠ name ∧ Near name candidate := by
  simp [suggest, (List.mergeSort_perm _ _).mem_iff, near_iff, and_assoc]

/-- The candidates for a name with their ranks, in the order in which they are known. -/
def scored (name : String) (known : List String) : List (Nat × String) :=
  ((known.filter (· != name)).map fun candidate => (suggestionDistance name candidate, candidate)).filter
    fun entry => entry.1 ≤ budget name

/-- What is suggested is what was scored and found near, in another order. -/
theorem suggest_perm (name : String) (known : List String) :
    (suggest name known).Perm ((scored name known).map (·.2)) :=
  (List.mergeSort_perm _ _).map _

/-- Scoring drops names and keeps the order of the rest. -/
theorem scored_sublist (name : String) (known : List String) :
    ((scored name known).map (·.2)).Sublist known := by
  rw [scored, List.filter_map, List.map_map]
  exact (List.map_id _).symm ▸ List.filter_sublist.trans List.filter_sublist

/-- Each name is scored by its own distance. -/
theorem rank_of_scored {entry : Nat × String} (present : entry ∈ scored name known) :
    entry.1 = suggestionDistance name entry.2 := by
  obtain ⟨candidate, _, rfl⟩ := List.mem_map.mp (List.mem_of_mem_filter present)
  rfl

/-- Different known names are offered once each. -/
theorem suggest_nodup (name : String) (once : known.Nodup) : (suggest name known).Nodup :=
  (suggest_perm name known).nodup_iff.mpr (once.sublist (scored_sublist name known))

/-- Different known names are offered in a strict order. They were sorted by rank and name, and no two of
them have both in common. -/
theorem suggest_ordered (name : String) (once : known.Nodup) :
    (suggest name known).Pairwise (Before name) := by
  have sorted := List.pairwise_mergeSort offered_before_trans offered_before_total (scored name known)
  have different := List.pairwise_map.mp (suggest_nodup name once)
  refine List.pairwise_map.mpr ((sorted.and different).imp_of_mem ?_)
  rintro entry next present alsoPresent ⟨before, apart⟩
  have rank := rank_of_scored ((List.mergeSort_perm _ _).mem_iff.mp present)
  have nextRank := rank_of_scored ((List.mergeSort_perm _ _).mem_iff.mp alsoPresent)
  refine ⟨_, _, ranks_suggestion_distance, ranks_suggestion_distance, ?_⟩
  rw [← rank, ← nextRank]
  rcases offered_before_iff.mp before with less | ⟨same, earlier⟩
  · exact .inl less
  · have ordered := (units_le_iff _ _).mp earlier
    exact .inr ⟨same, lt_of_le_of_ne ordered (mt units_injective apart)⟩

end Naming

namespace Registry

/-- Repetitions are left out where a name is given again. -/
theorem distinct_append_singleton (names : List String) (name : String) :
    distinct (names ++ [name]) =
      if name ∈ names then distinct names else distinct names ++ [name] := by
  rw [distinct, List.foldl_append, List.foldl_cons, List.foldl_nil, ← distinct]
  simp only [List.contains_iff_mem, mem_distinct]

/-- Names are told apart in the order in which they are first given. The induction is on the names from
the last one on. -/
theorem distinct_ordered (names : List String) :
    (distinct names).Pairwise fun first second => names.idxOf first < names.idxOf second := by
  induction names using List.reverseRecOn with
  | nil => exact List.Pairwise.nil
  | append_singleton names name inductionHypothesis =>
    have kept (other : String) (present : other ∈ distinct names) :
        (names ++ [name]).idxOf other = names.idxOf other := by
      rw [List.idxOf_append, if_pos (mem_distinct.mp present)]
    have before : (distinct names).Pairwise fun first second =>
        (names ++ [name]).idxOf first < (names ++ [name]).idxOf second := by
      refine inductionHypothesis.imp_of_mem fun {first second} present alsoPresent less => ?_
      rwa [kept first present, kept second alsoPresent]
    rw [distinct_append_singleton]
    split
    · exact before
    · rename_i new
      refine List.pairwise_append.mpr
        ⟨before, List.pairwise_singleton _ _, fun first present second last => ?_⟩
      rw [List.mem_singleton.mp last, kept first present, List.idxOf_append, if_neg new]
      have := List.idxOf_lt_length_of_mem (mem_distinct.mp present)
      omega

/-- Names are told apart once each. -/
theorem distinct_nodup (names : List String) : (distinct names).Nodup :=
  (distinct_ordered names).imp fun less same =>
    Nat.ne_of_lt less (congrArg (names.idxOf ·) same)

variable {registry others : Registry}

/-- The names that a registry lists are those that it has. -/
theorem mem_names {name : String} : name ∈ registry.names ↔ registry.has name = true := by
  rw [names, (List.mergeSort_perm _ _).mem_iff, has_iff]

/-- A registry lists no name twice, since it has at most one fix of a name. -/
theorem WellFormed.names_nodup (formed : registry.WellFormed) : registry.names.Nodup :=
  (List.mergeSort_perm _ _).nodup_iff.mpr formed.names

/-- The names of a registry in unit order do not depend on when each of them was registered. -/
theorem WellFormed.names_eq (formed : registry.WellFormed) (alsoFormed : others.WellFormed)
    (same : ∀ name, others.has name = registry.has name) : others.names = registry.names := by
  refine List.Perm.eq_of_pairwise (fun _ _ _ _ => units_le_antisymm)
    (List.pairwise_mergeSort units_le_trans units_le_total _)
    (List.pairwise_mergeSort units_le_trans units_le_total _) ?_
  refine (List.perm_ext_iff_of_nodup alsoFormed.names_nodup formed.names_nodup).mpr fun name => ?_
  rw [mem_names, mem_names, same]

/-- Fixes that were selected: those of the given names, once each and in run order. -/
structure Selected (registry : Registry) (requested : List String) (fixes : List Fix) : Prop where
  members : ∀ fix, fix ∈ fixes ↔ fix ∈ registry.all ∧ fix.name ∈ requested
  once : fixes.Nodup
  inOrder : fixes.Sublist registry.all ∧ fixes.Pairwise Fix.Precedes

/-- What is offered for a name that is not registered. -/
structure Offers (registry : Registry) (name : String) (offered : List String) : Prop where
  members : ∀ candidate, candidate ∈ offered ↔ registry.has candidate = true ∧ Naming.Near name candidate
  once : offered.Nodup
  inOrder : offered.Pairwise (Naming.Before name)

/-- What is told of given names of which some are not registered. -/
structure Tells (registry : Registry) (requested names : List String)
    (suggestions : List (String × List String)) : Prop where
  members : ∀ name, name ∈ names ↔ name ∈ requested ∧ registry.has name = false
  once : names.Nodup
  inOrder : names.Pairwise fun first second => requested.idxOf first < requested.idxOf second
  /-- The names for which something is offered, in the same order. -/
  entries : (suggestions.map (·.1)).Sublist names ∧ ∀ name, name ∈ suggestions.map (·.1) ↔
    name ∈ names ∧ ∃ candidate, registry.has candidate = true ∧ Naming.Near name candidate
  offers : ∀ entry ∈ suggestions, registry.Offers entry.1 entry.2

/-- A selection by names that are all registered. -/
theorem WellFormed.selected (formed : registry.WellFormed) (requested : List String) :
    registry.Selected requested (registry.chosen (some requested)) where
  members fix := by simp [chosen]
  once := (registry.all_perm.nodup_iff.mpr formed.nodup).sublist List.filter_sublist
  inOrder := ⟨List.filter_sublist, formed.all_ordered.sublist List.filter_sublist⟩

/-- The offers for a name that is not registered. A name near enough is another name than the one that is
asked for, which is not registered. -/
theorem WellFormed.offers (formed : registry.WellFormed) {name : String}
    (unknown : registry.has name = false) :
    registry.Offers name (Naming.suggest name registry.names) where
  members candidate := by
    rw [Naming.mem_suggest, mem_names]
    constructor
    · rintro ⟨known, _, near⟩
      exact ⟨known, near⟩
    · rintro ⟨known, near⟩
      refine ⟨known, ?_, near⟩
      rintro rfl
      cases unknown.symm.trans known
  once := Naming.suggest_nodup name formed.names_nodup
  inOrder := Naming.suggest_ordered name formed.names_nodup

/-- The names that are told have entries where something is offered for them. -/
theorem suggestions_names (registry : Registry) (unknown : List String) :
    (registry.suggestions unknown).map (·.1) =
      unknown.filter fun name => !(Naming.suggest name registry.names).isEmpty := by
  rw [suggestions, List.filter_map, List.map_map]
  exact List.map_id _

/-- What is told of the given names that are not registered. Each name is told once, in the order in
which it was first given, with its own offers. -/
theorem WellFormed.tells (formed : registry.WellFormed) (requested : List String) :
    registry.Tells requested ((distinct requested).filter (!registry.has ·))
      (registry.suggestions ((distinct requested).filter (!registry.has ·))) := by
  have unknown (name : String) : name ∈ (distinct requested).filter (!registry.has ·) ↔
      name ∈ requested ∧ registry.has name = false := by
    simp [mem_distinct]
  have offers (name : String) (among : name ∈ (distinct requested).filter (!registry.has ·)) :
      registry.Offers name (Naming.suggest name registry.names) :=
    formed.offers ((unknown name).mp among).2
  refine ⟨unknown, (distinct_nodup requested).sublist List.filter_sublist,
    (distinct_ordered requested).sublist List.filter_sublist, ⟨?_, fun name => ?_⟩, fun entry present => ?_⟩
  · rw [suggestions_names]
    exact List.filter_sublist
  · rw [suggestions_names, List.mem_filter]
    refine and_congr_right fun among => ?_
    simp only [← (offers name among).members]
    rw [Bool.not_eq_true', List.isEmpty_eq_false_iff_exists_mem]
  · obtain ⟨name, among, rfl⟩ := List.mem_map.mp (List.mem_of_mem_filter present)
    exact offers name among

/-- Selecting succeeds where all names are registered. -/
theorem select_eq_ok_iff {requested : List String} {fixes : List Fix} :
    registry.select requested = .ok fixes ↔
      (∀ name ∈ requested, registry.has name = true) ∧ registry.chosen (some requested) = fixes := by
  rcases registry.select_cases requested with ⟨known, result⟩ | ⟨⟨name, among, unknown⟩, _, _, result⟩
  · rw [result, Except.ok.injEq, and_iff_right known]
  · rw [result]
    refine iff_of_false (fun same => nomatch same) fun all => ?_
    cases unknown.symm.trans (all.1 name among)

/-- Selecting fails where a name is not registered. The names that are not registered are collected
first, and any of them is a failure. -/
theorem select_eq_error_iff {requested : List String} {error : Error} :
    registry.select requested = .error error ↔
      (∃ name ∈ requested, registry.has name = false) ∧
        .unknownFixes ((distinct requested).filter (!registry.has ·))
          (registry.suggestions ((distinct requested).filter (!registry.has ·))) = error := by
  have some : ((distinct requested).filter (!registry.has ·)).isEmpty = false ↔
      ∃ name ∈ requested, registry.has name = false := by
    simp [mem_distinct]
  rw [← some, select]
  cases ((distinct requested).filter (!registry.has ·)).isEmpty with
  | true => simp
  | false => simp

/-- What selecting by names comes to in a registry after whatever calls to register fixes. -/
structure Selects (calls : List Fix) (requested : List String) : Prop where
  accepts : (∃ fixes, (after calls).select requested = .ok fixes) ↔
    ∀ name ∈ requested, (after calls).has name = true
  selected : ∀ fixes, (after calls).select requested = .ok fixes → (after calls).Selected requested fixes
  /-- Only the set of the given names counts when all of them are registered. -/
  sameNames : ∀ others, (∀ name, name ∈ others ↔ name ∈ requested) → ∀ fixes,
    (after calls).select requested = .ok fixes → (after calls).select others = .ok fixes
  refuses : ∀ error, (after calls).select requested = .error error → ∃ names suggestions,
    error = .unknownFixes names suggestions ∧ (after calls).Tells requested names suggestions
  /-- What is told depends on which names are registered, and not on when each of them was. -/
  anyOrder : ∀ others, (∀ name, (after others).has name = (after calls).has name) → ∀ error,
    (after calls).select requested = .error error → (after others).select requested = .error error

/-- Selection by names keeps to its law, whatever was registered and whatever names are given. Each part
of the statement follows from what selecting by names succeeds or fails with. -/
theorem select_lawful (calls : List Fix) (requested : List String) : Selects calls requested where
  accepts := by
    simp only [select_eq_ok_iff, exists_and_left, exists_eq', and_true]
  selected fixes succeeded := by
    rw [← (select_eq_ok_iff.mp succeeded).2]
    exact (after_formed calls).selected requested
  sameNames others same fixes succeeded := by
    obtain ⟨known, rfl⟩ := select_eq_ok_iff.mp succeeded
    refine select_eq_ok_iff.mpr ⟨fun name among => known name ((same name).mp among), ?_⟩
    have test (name : String) : others.contains name = requested.contains name := by
      rw [Bool.eq_iff_iff, List.contains_iff_mem, List.contains_iff_mem, same]
    simp only [chosen, test]
  refuses error failed := by
    rw [← (select_eq_error_iff.mp failed).2]
    exact ⟨_, _, rfl, (after_formed calls).tells requested⟩
  anyOrder others same error failed := by
    obtain ⟨unknown, rfl⟩ := select_eq_error_iff.mp failed
    have names := (after_formed calls).names_eq (after_formed others) same
    refine select_eq_error_iff.mpr ⟨by simpa only [same] using unknown, ?_⟩
    simp only [same, suggestions, names]

end Registry

end Codemod
