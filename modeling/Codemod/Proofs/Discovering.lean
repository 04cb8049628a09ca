import Codemod.Files.Discover
import Codemod.Proofs.UnitOrder
import Mathlib.Data.List.Perm.Basic

/-!
# Which files paths lead to

Each path leads to files of its own: to itself, or to those that a search finds below a directory. Paths
that lead nowhere are reported instead. What paths lead to together is put together from that, path by
path, so that it is a union: it matters which paths are given, and neither their order nor whether
one of them is given again, or lies below another one.

The search below a directory is any function of the directory, a pattern and the patterns of what is to be
skipped, and may fail. Paths are those of a process in some directory, `here`, from which the relative ones
lead; absolute paths lead to the same files from everywhere.
-/
namespace Codemod.Files

/-- What a list of computations gives is what the first gives and then what the others give. A failure of
any of them would be the failure of all. -/
theorem map_ok_cons {α β ε : Type} {one : α → Except ε β} {first : α} {rest : List α}
    {results : List β} (mapped : (first :: rest).mapM one = .ok results) :
    ∃ value values, one first = .ok value ∧ rest.mapM one = .ok values ∧ results = value :: values := by
  rw [List.mapM_cons] at mapped
  cases given : one first with
  | error cause =>
    rw [given] at mapped
    cases mapped
  | ok value =>
    rw [given] at mapped
    cases others : rest.mapM one with
    | error cause =>
      rw [others] at mapped
      cases mapped
    | ok values =>
      rw [others] at mapped
      cases mapped
      exact ⟨value, values, rfl, rfl, rfl⟩

/-- A list of computations that fails fails as one of them does. The induction is on the list: the first
member that fails ends the computation. -/
theorem map_error {α β ε : Type} {one : α → Except ε β} {list : List α} {cause : ε}
    (failed : list.mapM one = .error cause) : ∃ member ∈ list, one member = .error cause := by
  induction list with
  | nil => cases failed
  | cons first rest inductionHypothesis =>
    rw [List.mapM_cons] at failed
    cases given : one first with
    | error other =>
      rw [given] at failed
      cases failed
      exact ⟨first, List.mem_cons_self, given⟩
    | ok value =>
      rw [given] at failed
      cases others : rest.mapM one with
      | ok values =>
        rw [others] at failed
        cases failed
      | error other =>
        rw [others] at failed
        cases failed
        obtain ⟨member, listed, fails⟩ := inductionHypothesis others
        exact ⟨member, List.mem_cons_of_mem first listed, fails⟩

/-- A list of computations gives something when each of them does. -/
theorem map_ok_of_forall {α β ε : Type} {one : α → Except ε β} {list : List α}
    (each : ∀ member ∈ list, ∃ value, one member = .ok value) :
    ∃ values, list.mapM one = .ok values := by
  cases mapped : list.mapM one with
  | ok values => exact ⟨values, rfl⟩
  | error cause =>
    obtain ⟨member, listed, fails⟩ := map_error mapped
    obtain ⟨value, gives⟩ := each member listed
    cases fails.symm.trans gives

/-- A list of computations is decided by what each of them gives. -/
theorem map_congr {α β ε : Type} {one other : α → Except ε β} {list : List α}
    (same : ∀ member ∈ list, one member = other member) : list.mapM one = list.mapM other := by
  induction list with
  | nil => rfl
  | cons first rest inductionHypothesis =>
    rw [List.mapM_cons, List.mapM_cons, same first List.mem_cons_self,
      inductionHypothesis fun member listed => same member (List.mem_cons_of_mem first listed)]

/-- When a list of computations gives something, each of them does. -/
theorem ok_of_map_ok {α β ε : Type} {one : α → Except ε β} {list : List α} {results : List β}
    (mapped : list.mapM one = .ok results) : ∀ member ∈ list, ∃ value, one member = .ok value := by
  induction list generalizing results with
  | nil => simp
  | cons first rest inductionHypothesis =>
    obtain ⟨value, others, given, more, _⟩ := map_ok_cons mapped
    exact List.forall_mem_cons.mpr ⟨⟨value, given⟩, inductionHypothesis more⟩

/-- What a list of computations gives comes from its members. -/
theorem mem_of_map_ok {α β ε : Type} {one : α → Except ε β} {list : List α} {results : List β}
    (mapped : list.mapM one = .ok results) (value : β) :
    value ∈ results ↔ ∃ member ∈ list, one member = .ok value := by
  induction list generalizing results with
  | nil =>
    cases mapped
    simp
  | cons first rest inductionHypothesis =>
    obtain ⟨result, others, given, more, rfl⟩ := map_ok_cons mapped
    rw [List.mem_cons, inductionHypothesis more, List.exists_mem_cons_iff, given, Except.ok.injEq,
      eq_comm]

section

variable {find : Finder} {here : String} {tree : Tree} {endings ignore : List String}

/-- The files that were found, none where a path leads nowhere. -/
def filesOf (list : Except Unreachable (List String)) : List String :=
  list.toOption.getD []

/-- What is found is put together from what the paths lead to. The files are sorted without repetition,
and what cannot be reached is listed as it came. -/
theorem discover_by_listed {paths : List String} {lists : List (Except Unreachable (List String))}
    (listed : paths.mapM (filesAtBy find here tree endings ignore) = .ok lists) :
    discoverBy find here tree endings ignore paths = .ok
      { files := sortedDistinct (lists.flatMap filesOf)
        unreachable := lists.filterMap fun
          | .ok _ => none
          | .error unreachable => some unreachable } := by
  have files : filesOf = fun
      | .ok files => files
      | .error _ => [] := by
    funext list
    cases list <;> rfl
  rw [discoverBy, listed, files]
  rfl

/-- A search that fails at one of the paths fails as a whole, with the same error. -/
theorem discover_by_refused {paths : List String} {fault : Glob.Fault}
    (refused : paths.mapM (filesAtBy find here tree endings ignore) = .error fault) :
    discoverBy find here tree endings ignore paths = .error fault := by
  rw [discoverBy, refused]
  rfl

/-- What is found comes from what the paths lead to. A failure of one path would have been the failure of
the whole. -/
theorem listed_of_discovered {paths : List String} {found : Discovery}
    (discovered : discoverBy find here tree endings ignore paths = .ok found) :
    ∃ lists, paths.mapM (filesAtBy find here tree endings ignore) = .ok lists ∧
      found.files = sortedDistinct (lists.flatMap filesOf) ∧
      found.unreachable = lists.filterMap fun
        | .ok _ => none
        | .error unreachable => some unreachable := by
  cases listed : paths.mapM (filesAtBy find here tree endings ignore) with
  | error fault => cases (discover_by_refused listed).symm.trans discovered
  | ok lists =>
    cases (discover_by_listed listed).symm.trans discovered
    exact ⟨lists, rfl, rfl, rfl⟩

/-- A search fails only with the error that one of its paths fails with. -/
theorem refused_of_discover {paths : List String} {fault : Glob.Fault}
    (refused : discoverBy find here tree endings ignore paths = .error fault) :
    paths.mapM (filesAtBy find here tree endings ignore) = .error fault := by
  cases listed : paths.mapM (filesAtBy find here tree endings ignore) with
  | error cause =>
    cases (discover_by_refused listed).symm.trans refused
    rfl
  | ok lists => cases (discover_by_listed listed).symm.trans refused

/-- A path leads nowhere, to the files below a directory, or to itself. The kind of what stands at the
end of the path decides, and a path that ends in a file is found as it is, whatever its ending. -/
theorem files_at_by_cases (find : Finder) (here : String) (tree : Tree) (endings ignore : List String)
    (path : String) :
    (∃ fault, tree.inspectFrom here path = .error fault ∧
        filesAtBy find here tree endings ignore path = .ok (.error { path, fault })) ∨
      (tree.inspectFrom here path = .ok .directory ∧
        filesAtBy find here tree endings ignore path = .ok <$> filesBelowBy find endings ignore path) ∨
      ∃ entry, tree.inspectFrom here path = .ok entry ∧ entry.isDirectory = false ∧
        filesAtBy find here tree endings ignore path = .ok (.ok [Path.resolve here path]) := by
  rw [filesAtBy]
  cases inspected : tree.inspectFrom here path with
  | error fault => exact .inl ⟨fault, rfl, rfl⟩
  | ok entry =>
    cases entry with
    | directory => exact .inr (.inl ⟨rfl, rfl⟩)
    | file content mode => exact .inr (.inr ⟨_, rfl, rfl, rfl⟩)
    | link target => exact .inr (.inr ⟨_, rfl, rfl, rfl⟩)

end

/-- What is sorted is in the order of code units. -/
theorem sorted_distinct_ordered (paths : List String) :
    (sortedDistinct paths).Pairwise fun left right => Text.unitsLe left right = true := by
  unfold sortedDistinct
  exact List.pairwise_mergeSort Text.units_le_trans Text.units_le_total _

/-- Members are collected once each. The induction is on the list, over what was seen before. -/
theorem collected_once (paths seen : List String) (once : seen.Nodup) :
    let all := paths.foldl (fun seen path => if seen.contains path then seen else path :: seen) seen
    all.Nodup ∧ ∀ path, path ∈ all ↔ path ∈ seen ∨ path ∈ paths := by
  induction paths generalizing seen with
  | nil => exact ⟨once, fun path => by simp⟩
  | cons first rest inductionHypothesis =>
    rw [List.foldl_cons]
    by_cases present : first ∈ seen
    · rw [if_pos (List.contains_iff_mem.mpr present)]
      have more := inductionHypothesis seen once
      refine ⟨more.1, fun path => (more.2 path).trans ?_⟩
      rw [List.mem_cons, ← or_assoc, or_iff_left_of_imp fun same : path = first => same ▸ present]
    · rw [if_neg (mt List.contains_iff_mem.mp present)]
      have more := inductionHypothesis (first :: seen) (List.nodup_cons.mpr ⟨present, once⟩)
      refine ⟨more.1, fun path => (more.2 path).trans ?_⟩
      rw [List.mem_cons, List.mem_cons, or_assoc, or_left_comm]

/-- Sorting a list without its repetitions keeps its members. -/
theorem mem_sorted_distinct {paths : List String} {path : String} :
    path ∈ sortedDistinct paths ↔ path ∈ paths := by
  rw [sortedDistinct, (List.mergeSort_perm _ _).mem_iff, (collected_once paths [] List.nodup_nil).2]
  simp

/-- What is sorted has no repetitions. -/
theorem sorted_distinct_nodup (paths : List String) : (sortedDistinct paths).Nodup :=
  (List.mergeSort_perm _ _).nodup_iff.mpr (collected_once paths [] List.nodup_nil).1

/-- The sorted members of a list come in strict order. -/
theorem sorted_distinct_strict (paths : List String) :
    (sortedDistinct paths).Pairwise fun left right => Text.units left < Text.units right :=
  ((sorted_distinct_ordered paths).and (sorted_distinct_nodup paths)).imp fun both =>
    lt_of_le_of_ne ((Text.units_le_iff _ _).mp both.1) fun same => both.2 (Text.units_injective same)

/-- The sorted members of a list depend on its members only. -/
theorem sorted_distinct_congr {paths others : List String}
    (same : ∀ path, path ∈ paths ↔ path ∈ others) :
    sortedDistinct paths = sortedDistinct others := by
  refine List.Perm.eq_of_pairwise (fun _ _ _ _ => Text.units_le_antisymm)
    (sorted_distinct_ordered paths) (sorted_distinct_ordered others) ?_
  refine (List.perm_ext_iff_of_nodup (sorted_distinct_nodup paths) (sorted_distinct_nodup others)).mpr ?_
  intro path
  rw [mem_sorted_distinct, mem_sorted_distinct, same]

/-- Nothing sorted is nothing. -/
theorem sorted_distinct_nil : sortedDistinct [] = [] :=
  List.mergeSort_nil

/-- A single path is sorted. -/
theorem sorted_distinct_singleton (path : String) : sortedDistinct [path] = [path] :=
  List.mergeSort_singleton path

section

variable (find : Finder) (here : String) (tree : Tree) (endings ignore : List String)

/-- A path leads to a file: to itself, unless it is a directory, whatever its ending and even if it is to be
skipped; and a directory to the files that the search finds there, if any ending is listed. -/
inductive Leads (path : String) : String → Prop where
  | itself {entry : Entry} (inspected : tree.inspectFrom here path = .ok entry)
      (single : entry.isDirectory = false) : Leads path (Path.resolve here path)
  | below {files : List String} {file : String} (inspected : tree.inspectFrom here path = .ok .directory)
      (listed : endings ≠ [])
      (found : find path (endingPattern endings) (Config.defaultIgnore ++ ignore) = .ok files)
      (present : file ∈ files) : Leads path file

/-- What is reported of a path: the failure to inspect it. -/
def reportOf (path : String) : Option FileError :=
  match tree.inspectFrom here path with
  | .error fault => some (.io path .stat fault.message)
  | .ok _ => none

end

section

variable {find : Finder} {here : String} {tree : Tree} {endings ignore : List String}

/-- A path leads to a file exactly where the file is in the list that is found for the path. Both sides
follow what the path is: it cannot be inspected, it is a directory to be searched, or it stands for
itself. -/
theorem leads_iff {path file : String} :
    Leads find here tree endings ignore path file ↔
      ∃ list, filesAtBy find here tree endings ignore path = .ok list ∧ file ∈ filesOf list := by
  constructor
  · rintro (⟨inspected, single⟩ | ⟨inspected, listed, found, present⟩)
    · obtain ⟨_, failed, _⟩ | ⟨directory, _⟩ | ⟨_, _, _, gives⟩ :=
        files_at_by_cases find here tree endings ignore path
      · cases failed.symm.trans inspected
      · cases directory.symm.trans inspected
        cases single
      · exact ⟨_, gives, List.mem_singleton_self _⟩
    · refine ⟨.ok _, ?_, present⟩
      rw [filesAtBy, inspected]
      dsimp only
      rw [filesBelowBy, if_neg (mt List.isEmpty_iff.mp listed), found]
      rfl
  · rintro ⟨list, gives, present⟩
    obtain ⟨_, _, leadsNowhere⟩ | ⟨directory, searched⟩ | ⟨_, inspected, single, alone⟩ :=
      files_at_by_cases find here tree endings ignore path
    · cases leadsNowhere.symm.trans gives
      cases present
    · rw [searched, filesBelowBy] at gives
      split at gives
      · cases gives
        cases present
      · rename_i listed
        cases found : find path (endingPattern endings) (Config.defaultIgnore ++ ignore) with
        | error fault =>
          rw [found] at gives
          cases gives
        | ok files =>
          rw [found] at gives
          cases gives
          exact .below directory (mt List.isEmpty_iff.mpr listed) found present
    · cases alone.symm.trans gives
      cases List.mem_singleton.mp present
      exact .itself inspected single

/-- What is found is what one of the paths leads to. Sorting loses no file and adds none, and so each of
them comes from one of the lists. -/
theorem mem_discovered {paths : List String} {found : Discovery}
    (discovered : discoverBy find here tree endings ignore paths = .ok found) (file : String) :
    file ∈ found.files ↔ ∃ path ∈ paths, Leads find here tree endings ignore path file := by
  obtain ⟨lists, listed, files, _⟩ := listed_of_discovered discovered
  rw [files, mem_sorted_distinct, List.mem_flatMap]
  constructor
  · rintro ⟨list, given, present⟩
    obtain ⟨path, among, gives⟩ := (mem_of_map_ok listed list).mp given
    exact ⟨path, among, leads_iff.mpr ⟨list, gives, present⟩⟩
  · rintro ⟨path, among, leads⟩
    obtain ⟨list, gives, present⟩ := leads_iff.mp leads
    exact ⟨list, (mem_of_map_ok listed list).mpr ⟨path, among, gives⟩, present⟩

/-- A path has the failure that is reported of it. Nothing is found for a path exactly where inspecting
it fails, and that failure is what is reported. -/
theorem report_of_given {path : String} {list : Except Unreachable (List String)}
    (gives : filesAtBy find here tree endings ignore path = .ok list) :
    reportOf here tree path = match list with
      | .ok _ => none
      | .error unreachable => some unreachable.error := by
  rw [reportOf]
  obtain ⟨fault, failed, leadsNowhere⟩ | ⟨directory, searched⟩ | ⟨entry, inspected, _, alone⟩ :=
    files_at_by_cases find here tree endings ignore path
  · cases leadsNowhere.symm.trans gives
    rw [failed]
    rfl
  · rw [searched] at gives
    rw [directory]
    cases below : filesBelowBy find endings ignore path with
    | error fault =>
      rw [below] at gives
      cases gives
    | ok files =>
      rw [below] at gives
      cases gives
      rfl
  · cases alone.symm.trans gives
    rw [inspected]

/-- Each path that leads nowhere is reported, as often as it is given. The induction is on the paths:
each gives a list of files or one report. -/
theorem reported_of_discovered {paths : List String} {found : Discovery}
    (discovered : discoverBy find here tree endings ignore paths = .ok found) :
    found.unreachable.map Unreachable.error = paths.filterMap (reportOf here tree) := by
  obtain ⟨lists, listed, -, reported⟩ := listed_of_discovered discovered
  rw [reported]
  clear discovered reported
  induction paths generalizing lists with
  | nil =>
    cases listed
    rfl
  | cons path rest inductionHypothesis =>
    obtain ⟨list, others, gives, more, rfl⟩ := map_ok_cons listed
    rw [List.filterMap_cons, List.filterMap_cons, report_of_given gives, ← inductionHypothesis others more]
    cases list <;> rfl

end

/-- What was found for the paths of two lists is found for all of them: the files of both in the order of
their paths, each once, and everything that was reported. -/
structure Discovery.Joins (found first second : Discovery) : Prop where
  ordered : found.files.Pairwise fun one other => Text.units one < Text.units other
  members : ∀ file, file ∈ found.files ↔ file ∈ first.files ∨ file ∈ second.files
  reported : found.unreachable = first.unreachable ++ second.unreachable

/-- A search of paths gives the union of what it gives for some and for the others of them. It fails as it
does for the former, or else as it does for the latter. The files that it gives depend on which paths are
given, and not on their order or on how often they are. -/
structure Unites (search : List String → Except Glob.Fault Discovery) : Prop where
  fails : ∀ {first fault} second, search first = .error fault → search (first ++ second) = .error fault
  failsLater : ∀ {first second one fault}, search first = .ok one → search second = .error fault →
    search (first ++ second) = .error fault
  joins : ∀ {first second one other}, search first = .ok one → search second = .ok other →
    ∃ found, search (first ++ second) = .ok found ∧ found.Joins one other
  unordered : ∀ {paths others found}, (∀ path, path ∈ paths ↔ path ∈ others) →
    search paths = .ok found → ∃ also, search others = .ok also ∧ also.files = found.files

section

variable (find : Finder) (here : String) (tree : Tree) (endings ignore : List String)

/-- The paths of one list are looked at before those of another one. -/
theorem lists_append (first second : List String) :
    (first ++ second).mapM (filesAtBy find here tree endings ignore) = do
      let lists ← first.mapM (filesAtBy find here tree endings ignore)
      let others ← second.mapM (filesAtBy find here tree endings ignore)
      return lists ++ others :=
  List.mapM_append

/-- Searching by any finder unites what is found, since each path is searched by itself and what is put
together is sorted only at the end. -/
theorem discover_by_unites : Unites (discoverBy find here tree endings ignore) where
  fails := by
    intro first fault second refused
    refine discover_by_refused ?_
    rw [lists_append, refused_of_discover refused]
    rfl
  failsLater := by
    intro first second one fault discovered refused
    obtain ⟨lists, listed, _⟩ := listed_of_discovered discovered
    refine discover_by_refused ?_
    rw [lists_append, listed, refused_of_discover refused]
    rfl
  joins := by
    intro first second one other discovered also
    obtain ⟨lists, listed, files, reported⟩ := listed_of_discovered discovered
    obtain ⟨more, moreListed, moreFiles, moreReported⟩ := listed_of_discovered also
    have all : (first ++ second).mapM (filesAtBy find here tree endings ignore) = .ok (lists ++ more) := by
      rw [lists_append, listed, moreListed]
      rfl
    refine ⟨_, discover_by_listed all, sorted_distinct_strict _, fun file => ?_, ?_⟩
    · rw [files, moreFiles]
      simp only [mem_sorted_distinct]
      rw [List.flatMap_append, List.mem_append]
    · rw [reported, moreReported]
      exact List.filterMap_append
  unordered := by
    intro paths others found same discovered
    obtain ⟨lists, listed, files, _⟩ := listed_of_discovered discovered
    obtain ⟨more, moreListed⟩ := map_ok_of_forall fun path present =>
      ok_of_map_ok listed path ((same path).mpr present)
    have also := discover_by_listed moreListed
    refine ⟨_, also, ?_⟩
    rw [files]
    refine sorted_distinct_congr fun file => ?_
    have one := mem_discovered discovered file
    have other := mem_discovered also file
    rw [files, mem_sorted_distinct] at one
    rw [mem_sorted_distinct] at other
    rw [one, other]
    exact exists_congr fun path => and_congr_left fun _ => (same path).symm

/-- What is found for one path that leads nowhere or to a file does not take a search. -/
theorem discover_by_single {path : String} {list : Except Unreachable (List String)}
    (gives : filesAtBy find here tree endings ignore path = .ok list) :
    discoverBy find here tree endings ignore [path] = .ok
      { files := sortedDistinct (filesOf list)
        unreachable := [list].filterMap fun
          | .ok _ => none
          | .error unreachable => some unreachable } := by
  have listed : [path].mapM (filesAtBy find here tree endings ignore) = .ok [list] := by
    rw [List.mapM_cons, gives]
    rfl
  rw [discover_by_listed listed, List.flatMap_singleton]

/-- Paths lead to the union of the files that each of them leads to, in strict order, and all failures to
inspect one of them are reported. A path that cannot be inspected gives its failure, and no file. One that is
not a directory gives itself, whatever its ending and the patterns of what is to be skipped. -/
theorem discovery_is_union :
    Unites (discoverBy find here tree endings ignore) ∧
    (∀ paths found, discoverBy find here tree endings ignore paths = .ok found →
      (found.files.Pairwise fun one other => Text.units one < Text.units other) ∧
      (∀ file, file ∈ found.files ↔ ∃ path ∈ paths, Leads find here tree endings ignore path file) ∧
      found.unreachable.map Unreachable.error = paths.filterMap (reportOf here tree)) ∧
    (∀ path fault, tree.inspectFrom here path = .error fault →
      discoverBy find here tree endings ignore [path] = .ok { files := [], unreachable := [{ path, fault }] }) ∧
    ∀ path entry, tree.inspectFrom here path = .ok entry → entry.isDirectory = false →
      discoverBy find here tree endings ignore [path] =
        .ok { files := [Path.resolve here path], unreachable := [] } := by
  refine ⟨discover_by_unites find here tree endings ignore, fun paths found discovered => ?_, ?_, ?_⟩
  · obtain ⟨lists, _, files, _⟩ := listed_of_discovered discovered
    refine ⟨?_, mem_discovered discovered, reported_of_discovered discovered⟩
    rw [files]
    exact sorted_distinct_strict _
  · intro path fault failed
    have gives : filesAtBy find here tree endings ignore path = .ok (.error { path, fault }) := by
      rw [filesAtBy, failed]
    rw [discover_by_single find here tree endings ignore gives]
    exact congrArg (fun files => Except.ok (Discovery.mk files [{ path, fault }])) sorted_distinct_nil
  · intro path entry inspected single
    have gives : filesAtBy find here tree endings ignore path = .ok (.ok [Path.resolve here path]) := by
      rw [filesAtBy, inspected]
      cases entry with
      | directory => cases single
      | file content mode => rfl
      | link target => rfl
    rw [discover_by_single find here tree endings ignore gives]
    exact congrArg (fun files => Except.ok (Discovery.mk files [])) (sorted_distinct_singleton _)

end

/-! ## Absolute paths -/

/-- A path that was resolved is absolute. -/
theorem is_absolute_resolve (base path : String) : Path.isAbsolute (Path.resolve base path) = true := by
  simp [Path.isAbsolute, Path.resolve]

section

variable {path : String} (absolute : Path.isAbsolute path = true)

include absolute

/-- An absolute path leads to the same place from everywhere. -/
theorem against_absolute (base : String) : Path.against base path = path := by
  simp [Path.against, absolute]

/-- So it leads to the same entry, or nowhere for the same reason. -/
theorem inspect_from_absolute (here : String) (tree : Tree) :
    tree.inspectFrom here path = tree.inspect path := by
  rw [Tree.inspectFrom, against_absolute absolute, Tree.inspect]

/-- And to the same files: what is searched does not depend on where the process is, if the path itself does
not. -/
theorem files_at_absolute (here : String) (tree : Tree) (endings ignore : List String) :
    filesAtBy (finder here tree) here tree endings ignore path = filesAt tree endings ignore path := by
  have searched : filesBelowBy (finder here tree) endings ignore path =
      filesBelowBy (finder "/" tree) endings ignore path := by
    simp only [filesBelowBy, finder, against_absolute absolute]
  have resolved : Path.resolve here path = Path.resolve "/" path := by
    simp [Path.resolve, absolute]
  rw [filesAt, filesAtBy, filesAtBy, inspect_from_absolute absolute, inspect_from_absolute absolute,
    searched, resolved]

end

/-- Absolute paths lead to the same files wherever the process is. -/
theorem discover_from_absolute {paths : List String}
    (absolute : ∀ path ∈ paths, Path.isAbsolute path = true) (here : String) (tree : Tree)
    (endings ignore : List String) :
    discoverFrom here tree endings ignore paths = discover tree endings ignore paths := by
  have each : paths.mapM (filesAtBy (finder here tree) here tree endings ignore) =
      paths.mapM (filesAt tree endings ignore) :=
    map_congr fun path member => files_at_absolute (absolute path member) here tree endings ignore
  rw [discoverFrom, discoverBy, each]
  rfl

/-- A directory with a file of each kind, and a link that leads nowhere. -/
def overlapping : Tree where
  entries := [(["d"], .directory), (["d", "g.ts"], .file "g".toUTF8 0o644),
    (["d", "h.js"], .file "h".toUTF8 0o644), (["x"], .link "y")]

/-- The directory, the link, a file that is in the directory and another one that is not found there. The
lists of the single paths are computed, and what joins them follows from the general statement. -/
theorem overlapping_found : ∃ one other found,
    discover overlapping [".ts"] [] ["/d", "/x"] = .ok one ∧
      discover overlapping [".ts"] [] ["/d/h.js", "/d/g.ts"] = .ok other ∧
      discover overlapping [".ts"] [] ["/d", "/x", "/d/h.js", "/d/g.ts"] = .ok found ∧
      one.files = ["/d/g.ts"] ∧ found.Joins one other ∧
      found.unreachable.map Unreachable.error =
        [.io "/x" .stat "ENOENT: no such file or directory, stat '/x'"] := by
  have first : ["/d", "/x"].mapM (filesAtBy (finder "/" overlapping) "/" overlapping [".ts"] []) = .ok
      [.ok ["/d/g.ts"], .error { path := "/x", fault := ⟨.noEntry, "stat", ["/x"]⟩ }] := by
    decide +kernel
  have second : ["/d/h.js", "/d/g.ts"].mapM (filesAtBy (finder "/" overlapping) "/" overlapping [".ts"] []) =
      .ok [.ok ["/d/h.js"], .ok ["/d/g.ts"]] := by
    decide +kernel
  have one := discover_by_listed first
  obtain ⟨union, each, _⟩ := discovery_is_union (finder "/" overlapping) "/" overlapping [".ts"] []
  obtain ⟨found, discovered, joins⟩ := union.joins one (discover_by_listed second)
  refine ⟨_, _, found, one, discover_by_listed second, discovered, ?_, joins, ?_⟩
  · exact sorted_distinct_singleton _
  · rw [(each _ found discovered).2.2]
    decide +kernel

end Codemod.Files
