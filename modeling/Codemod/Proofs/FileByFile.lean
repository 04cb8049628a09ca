import Codemod.Proofs.OneFile
import Codemod.Proofs.UnitOrder

/-!
# Files processed each on its own

A run writes to one tree while it goes from file to file. The outcome of each
path is nevertheless the one that it has in the tree before the run, and the tree
after the run is that tree with the changed files in it. This needs that no two
paths lead to one file, that the names of the new files are unused, and one thing
more: a path that is refused for too many links does not go through a link whose
place a changed file takes, since such a path has a link fewer to follow later.
-/
namespace Codemod

open Files

/-- The place of the file that a path leads to. -/
def Files.Tree.fileOf (tree : Tree) (path : String) : Option Place :=
  match tree.find path true with
  | .ok (place, .file ..) => some place
  | _ => none

/-- Paths that lead to different files, if to any, and whose new files have unused names. -/
structure Separate (token : String) (paths : List String) (tree : Tree) : Prop where
  distinct : paths.Nodup
  apart : ∀ path ∈ paths, ∀ other ∈ paths, path ≠ other →
    tree.fileOf path ≠ none → tree.fileOf path ≠ tree.fileOf other
  unused : ∀ path ∈ paths, tree.Unused (temporaryPath token path)

instance (tree : Tree) (path : String) : Decidable (tree.Unused path) :=
  decidable_of_iff ((tree.find path false).toBool = false) <| by
    unfold Tree.Unused
    cases tree.find path false <;> simp [Except.toBool]

instance (token : String) (paths : List String) (tree : Tree) :
    Decidable (Separate token paths tree) :=
  decidable_of_iff (paths.Nodup ∧
      (∀ path ∈ paths, ∀ other ∈ paths, path ≠ other →
        tree.fileOf path ≠ none → tree.fileOf path ≠ tree.fileOf other) ∧
      ∀ path ∈ paths, tree.Unused (temporaryPath token path))
    ⟨fun ⟨distinct, apart, unused⟩ => ⟨distinct, apart, unused⟩,
      fun ⟨distinct, apart, unused⟩ => ⟨distinct, apart, unused⟩⟩

/-- Two listed paths do not lead to one file. -/
theorem Separate.alone {token : String} {paths : List String} {tree : Tree}
    (separate : Separate token paths tree) {path other : String} (member : path ∈ paths)
    (otherMember : other ∈ paths) (different : path ≠ other) {file : Place}
    (leading : tree.fileOf path = some file) : tree.fileOf other ≠ some file := by
  intro same
  exact separate.apart path member other otherMember different (by rw [leading]; simp)
    (leading.trans same.symm)

/-- A path or the name of a new file that is refused for too many links is also refused for them
without what stands at the place of another path that leads to a file. -/
def Untangled (token : String) (paths : List String) (tree : Tree) : Prop :=
  ∀ path ∈ paths, tree.fileOf path ≠ none → ∀ place, tree.locate path false = .ok place →
    ∀ other ∈ paths, ∀ sought ∈ [other, temporaryPath token other],
      tree.locate sought true = .error .tooManyLinks →
      (tree.remove place).locate sought true = .error .tooManyLinks

instance (token : String) (paths : List String) (tree : Tree) :
    Decidable (Untangled token paths tree) :=
  decidable_of_iff (∀ path ∈ paths, tree.fileOf path = none ∨
      ∀ place ∈ (tree.locate path false).toOption,
      ∀ other ∈ paths, ∀ sought ∈ [other, temporaryPath token other],
        ¬tree.locate sought true = .error .tooManyLinks ∨
        (tree.remove place).locate sought true = .error .tooManyLinks) <| by
    unfold Untangled
    refine forall_congr' fun path => forall_congr' fun _ => or_iff_not_imp_left.trans <|
      forall_congr' fun _ => forall_congr' fun place => imp_congr ?_ <|
        forall_congr' fun other => forall_congr' fun _ => forall_congr' fun sought =>
          forall_congr' fun _ => imp_iff_not_or.symm
    cases tree.locate path false <;> simp [Except.toOption]

/-! ## The files before it -/

section Paths

variable {tree : Tree} {path : String}

/-- A path that finds a file leads to the place where it is found. -/
theorem file_of_found {file : Place} {bytes : ByteArray} {mode : Nat}
    (found : tree.find path true = .ok (file, .file bytes mode)) :
    tree.fileOf path = some file := by
  unfold Tree.fileOf
  rw [found]

/-- A path leads to the place that it comes to, links followed, where a file stands there. -/
theorem file_of_located {file : Place} {bytes : ByteArray} {mode : Nat}
    (located : tree.locate path true = .ok file)
    (standing : tree.at? file = some (.file bytes mode)) : tree.fileOf path = some file := by
  have found : tree.find path true = .ok (file, .file bytes mode) := by
    rw [Tree.find_eq, located]
    dsimp only
    rw [standing]
  exact file_of_found found

/-- The place that a changed file takes leads on to the file that its path leads to. -/
theorem replaces_leads {job : Job} {place : Place} {entry : Entry}
    (replaced : job.replaces tree path = some (place, entry)) :
    ∃ file, tree.fileOf path = some file ∧ tree.locate path false = .ok place ∧
      tree.LeadsOn place file := by
  obtain ⟨file, bytes, mode, _, found, placed, _⟩ := replaces_some replaced
  obtain ⟨other, located, leads⟩ := Tree.locate_leads_on found
  rw [placed] at located
  cases located
  exact ⟨file, file_of_found found, placed, leads⟩

/-- The changed files of two listed paths take different places: two paths with one place lead to one
file. -/
theorem Separate.places_apart {job : Job} {paths : List String} {other : String}
    (separate : Separate job.token paths tree) (member : path ∈ paths) (otherMember : other ∈ paths)
    (different : path ≠ other) {place : Place} {entry another : Entry}
    (replaced : job.replaces tree path = some (place, entry)) :
    job.replaces tree other ≠ some (place, another) := by
  intro also
  obtain ⟨file, leading, _, leads⟩ := replaces_leads replaced
  obtain ⟨otherFile, otherLeading, _, otherLeads⟩ := replaces_leads also
  cases leads.unique otherLeads
  exact separate.alone member otherMember different leading otherLeading

end Paths

/-- A tree in which the changed files of some paths were written, and nothing else. -/
structure After (job : Job) (tree : Tree) (finished : List String) (now : Tree) : Prop where
  changed : ∀ place, now.at? place ≠ tree.at? place →
    ∃ path ∈ finished, ∃ entry, job.replaces tree path = some (place, entry)
  written : ∀ path ∈ finished, ∀ place entry, job.replaces tree path = some (place, entry) →
    now.at? place = some entry

/-- Before the first file the tree is the one that the run began with. -/
theorem after_nothing (job : Job) (tree : Tree) : After job tree [] tree where
  changed _ differs := absurd rfl differs
  written _ member := by cases member

namespace After

variable {job : Job} {tree now : Tree} {finished paths : List String} {path : String}

/-- Every place that the files before it changed took a file, so that the tree has files laid over it and
nothing else. -/
theorem overlaid (after : After job tree finished now) : tree.Overlaid now := by
  intro place differs
  obtain ⟨path, member, entry, replaced⟩ := after.changed place differs
  have standing := after.written path member place entry replaced
  obtain ⟨file, _, _, leads⟩ := replaces_leads replaced
  obtain ⟨_, bytes, mode, _, _, _, _, _, rfl⟩ := replaces_some replaced
  exact ⟨⟨_, mode, standing⟩, file, leads⟩

/-- A listed path, or the name of its new file, leads where it led, unless it led to the file of a
path before it. -/
theorem locate (after : After job tree finished now)
    (untangled : Untangled job.token paths tree) (listed : ∀ path ∈ finished, path ∈ paths)
    (member : path ∈ paths) {sought : String}
    (about : sought ∈ [path, temporaryPath job.token path]) (followLast : Bool) :
    now.locate sought followLast = tree.locate sought followLast ∨
      followLast = true ∧ ∃ before ∈ finished, ∃ file, tree.fileOf before = some file ∧
        (∃ bytes mode, tree.at? file = some (.file bytes mode)) ∧
        tree.locate sought true = .ok file := by
  by_cases refused : tree.locate sought followLast = .error .tooManyLinks
  · refine .inl ?_
    rw [refused]
    refine Tree.locate_still_refused refused ?_
    intro place differs
    obtain ⟨before, earlier, entry, replaced⟩ := after.changed place differs
    obtain ⟨file, leading, placed, _⟩ := replaces_leads replaced
    exact untangled before (listed before earlier) (by rw [leading]; simp) place placed path member
      sought about (Tree.locate_refused refused)
  · obtain same | ⟨last, place, file, differs, leads, located⟩ :=
      Tree.locate_overlaid after.overlaid sought followLast refused
    · exact .inl same
    · obtain ⟨before, earlier, entry, replaced⟩ := after.changed place differs
      obtain ⟨other, leading, _, same⟩ := replaces_leads replaced
      cases leads.unique same
      subst last
      exact .inr ⟨rfl, before, earlier, file, leading, leads.1, located⟩

/-- A path that is still to come leads to what it led to before the run. No file before it took a place
on its way: such a file would be one that this path leads to, and two paths do not lead to one file. -/
theorem find (after : After job tree finished now) (separate : Separate job.token paths tree)
    (untangled : Untangled job.token paths tree) (listed : ∀ path ∈ finished, path ∈ paths)
    (member : path ∈ paths) (later : path ∉ finished) :
    now.find path true = tree.find path true := by
  -- no path before this one leads to the same file
  have alone : ∀ before ∈ finished, ∀ file, tree.fileOf before = some file →
      tree.fileOf path ≠ some file := by
    intro before earlier file leading
    exact separate.alone (listed before earlier) member (ne_of_mem_of_not_mem earlier later) leading
  obtain same | ⟨_, before, earlier, file, leading, ⟨bytes, mode, standing⟩, located⟩ :=
    after.locate untangled listed member List.mem_cons_self true
  · rw [Tree.find_eq, Tree.find_eq, same]
    cases ended : tree.locate path true with
    | error cause => rfl
    | ok place =>
      dsimp only
      by_cases differs : now.at? place = tree.at? place
      · rw [differs]
      · obtain ⟨before, earlier, entry, replaced⟩ := after.changed place differs
        obtain ⟨file, leading, _, leads⟩ := replaces_leads replaced
        obtain ⟨⟨bytes, mode, standing⟩, itself | ⟨target, _, isLink, _⟩⟩ := leads
        · subst itself
          exact absurd (file_of_located ended standing) (alone before earlier place leading)
        · exact absurd isLink (Tree.locate_no_link ended)
  · exact absurd (file_of_located located standing) (alone before earlier file leading)

/-- The new file of a listed path can stand where it could before the run. A path that was written leads
through no new file, since the names are kept apart. -/
theorem locate_temporary (after : After job tree finished now)
    (separate : Separate job.token paths tree) (untangled : Untangled job.token paths tree)
    (listed : ∀ path ∈ finished, path ∈ paths) (member : path ∈ paths) :
    now.locate (temporaryPath job.token path) true =
      tree.locate (temporaryPath job.token path) true := by
  obtain same | ⟨_, _, _, file, _, ⟨bytes, mode, standing⟩, located⟩ :=
    after.locate untangled listed member (List.mem_cons_of_mem _ List.mem_cons_self) true
  · exact same
  · have unused := separate.unused path member
    rw [unused.locate_eq] at located
    rw [unused.absent located] at standing
    cases standing

/-- The name of the new file of a listed path stays unused. A file at such a name would have been put
there by the run, and the files that are written stand elsewhere. -/
theorem unused (after : After job tree finished now) (separate : Separate job.token paths tree)
    (untangled : Untangled job.token paths tree) (listed : ∀ path ∈ finished, path ∈ paths)
    (member : path ∈ paths) : now.Unused (temporaryPath job.token path) := by
  rintro ⟨place, entry⟩ found
  obtain ⟨located, standing⟩ := Tree.find_ok found
  obtain same | ⟨last, _⟩ :=
    after.locate untangled listed member (List.mem_cons_of_mem _ List.mem_cons_self) false
  · rw [same] at located
    have absent := (separate.unused path member).absent located
    have differs : now.at? place ≠ tree.at? place := by
      rw [standing, absent]
      simp
    obtain ⟨before, _, _, replaced⟩ := after.changed place differs
    obtain ⟨_, _, _, leads⟩ := replaces_leads replaced
    obtain ⟨held, covered, _⟩ := leads.standing
    rw [absent] at covered
    cases covered
  · cases last

/-- Where a listed path itself stands is the same in the tree that earlier files have left: new files
stand where files or links stood, and a path is not refused for links that only a changed file would have
taken away. -/
theorem locate_unfollowed (after : After job tree finished now)
    (untangled : Untangled job.token paths tree) (listed : ∀ path ∈ finished, path ∈ paths)
    (member : path ∈ paths) : now.locate path false = tree.locate path false := by
  obtain same | ⟨last, _⟩ := after.locate untangled listed member List.mem_cons_self false
  · exact same
  · cases last

/-- A path whose changed file was written leads to that file. The file stands where the path led before,
and no link on the way was replaced. -/
theorem find_written (after : After job tree finished now)
    (untangled : Untangled job.token paths tree) (listed : ∀ path ∈ finished, path ∈ paths)
    (member : path ∈ paths) (earlier : path ∈ finished) {place : Place} {content : ByteArray}
    {mode : Nat} (replaced : job.replaces tree path = some (place, .file content mode)) :
    now.find path true = .ok (place, .file content mode) := by
  have standing := after.written path earlier place _ replaced
  obtain ⟨_, _, placed, _⟩ := replaces_leads replaced
  have led := (after.locate_unfollowed untangled listed member).trans placed
  have ended : now.locate path true = .ok place := Tree.locate_last led (by simp [standing])
  rw [Tree.find_eq, ended]
  dsimp only
  rw [standing]

/-- Writing one more changed file, in a place that no file before it took. The new tree differs from the
one at the beginning where it did before, and at this place; and what was written before is not
overwritten. -/
theorem extend {next : Tree} (after : After job tree finished now)
    (written : ∀ other, next.at? other =
      match job.replaces tree path with
      | some (place, entry) => if other = place then some entry else now.at? other
      | none => now.at? other)
    (apart : ∀ before ∈ finished, ∀ place entry other,
      job.replaces tree before = some (place, entry) →
      job.replaces tree path ≠ some (place, other)) :
    After job tree (finished ++ [path]) next := by
  cases replaced : job.replaces tree path with
  | none =>
    rw [replaced] at written
    constructor
    · intro place differs
      rw [written] at differs
      obtain ⟨before, earlier, made⟩ := after.changed place differs
      exact ⟨before, List.mem_append_left _ earlier, made⟩
    · intro before among place entry made
      rw [written]
      obtain earlier | isLast := List.mem_append.mp among
      · exact after.written before earlier place entry made
      · cases List.mem_singleton.mp isLast
        rw [replaced] at made
        cases made
  | some change =>
    obtain ⟨taken, entry⟩ := change
    rw [replaced] at written
    dsimp only at written
    constructor
    · intro place differs
      by_cases there : place = taken
      · subst there
        exact ⟨path, by simp, entry, replaced⟩
      · rw [written, if_neg there] at differs
        obtain ⟨before, earlier, made⟩ := after.changed place differs
        exact ⟨before, List.mem_append_left _ earlier, made⟩
    · intro before among place other made
      rw [written]
      obtain earlier | isLast := List.mem_append.mp among
      · have elsewhere : place ≠ taken := by
          rintro rfl
          exact apart before earlier place other entry made replaced
        rw [if_neg elsewhere]
        exact after.written before earlier place other made
      · cases List.mem_singleton.mp isLast
        rw [replaced] at made
        cases made
        exact if_pos rfl

/-- The next file comes to what it would have come to before the run, and is written where it would
have been. -/
theorem step (writing : job.write = true) (separate : Separate job.token paths tree)
    (untangled : Untangled job.token paths tree) (after : After job tree finished now)
    (listed : ∀ path ∈ finished, path ∈ paths) (member : path ∈ paths) (later : path ∉ finished) :
    (fixFile job path now).1 = (fixFile job path tree).1 ∧
      After job tree (finished ++ [path]) (fixFile job path now).2 := by
  have found := after.find separate untangled listed member later
  have free := after.locate_temporary separate untangled listed member
  have placed := after.locate_unfollowed untangled listed member
  obtain ⟨outcomeNow, written⟩ :=
    fix_file_spec writing (after.unused separate untangled listed member)
  obtain ⟨outcome, _⟩ := fix_file_spec writing (separate.unused path member)
  have replaces : job.replaces now path = job.replaces tree path := by
    unfold Job.replaces
    rw [found, free, placed]
  rw [replaces] at written
  refine ⟨by rw [outcomeNow, outcome, found, free], after.extend written ?_⟩
  intro before earlier place entry other made
  exact separate.places_apart (listed before earlier) member (ne_of_mem_of_not_mem earlier later) made

end After

/-! ## The whole run -/

/-- A run without a signal processes its first file and goes on in the tree that this leaves. -/
theorem run_files_cons (job : Job) (path : String) (rest : List String) (tree : Tree) :
    runFiles job none (path :: rest) tree =
      { runFiles job none rest (fixFile job path tree).2 with
        outcomes := (fixFile job path tree).1 ::
          (runFiles job none rest (fixFile job path tree).2).outcomes } := by
  simp [runFiles]

/-- A run that is not told to stop gives every path the outcome that it has in the tree before the
run, and leaves that tree with the changed files in it.

The induction is over the paths that are left; what carries it is that the tree at hand is the one
before the run with the changed files of the paths that are done. -/
theorem run_after {job : Job} {paths : List String} {tree : Tree} (writing : job.write = true)
    (separate : Separate job.token paths tree) (untangled : Untangled job.token paths tree)
    {finished rest : List String} {now : Tree} (after : After job tree finished now)
    (listed : ∀ path ∈ finished ++ rest, path ∈ paths) (distinct : (finished ++ rest).Nodup) :
    (runFiles job none rest now).outcomes = rest.map (fun path => (fixFile job path tree).1) ∧
      (runFiles job none rest now).cancelled = false ∧
      After job tree (finished ++ rest) (runFiles job none rest now).tree := by
  induction rest generalizing finished now with
  | nil => exact ⟨rfl, rfl, by simpa [runFiles] using after⟩
  | cons path rest inductionHypothesis =>
    have later : path ∉ finished := by
      intro earlier
      exact (List.nodup_append.mp distinct).2.2 path earlier path List.mem_cons_self rfl
    obtain ⟨same, next⟩ := after.step writing separate untangled
      (fun before earlier => listed before (List.mem_append_left _ earlier))
      (listed path (by simp)) later
    have moved : finished ++ path :: rest = finished ++ [path] ++ rest := by simp
    rw [moved] at listed distinct ⊢
    obtain ⟨outcomes, whole, left⟩ := inductionHypothesis next listed distinct
    rw [run_files_cons]
    refine ⟨?_, whole, left⟩
    rw [outcomes, same]
    rfl

/-- What a run over files is when each file is on its own: the run goes over all of them and gives
one outcome for each path, by path. An outcome is the one that the path has in the tree before the
run, and the tree after the run is that tree with the changed files in it. -/
structure PerFile (job : Job) (paths : List String) (tree : Tree) (run : Run) : Prop where
  finished : run.cancelled = false
  ordered : run.sorted.Pairwise fun left right => Text.unitsLe left.path right.path = true
  complete : (run.sorted.map (·.path)).Perm paths
  /-- A file that cannot be read before the run is reported so. -/
  unread : ∀ outcome ∈ run.sorted, ∀ fault, tree.read outcome.path = .error fault →
    outcome = .failed outcome.path "" (ioError outcome.path .read fault)
  /-- A changed file that cannot be written is reported so. -/
  unwritten : ∀ outcome ∈ run.sorted, ∀ bytes, tree.read outcome.path = .ok bytes →
    (job.processed outcome.path bytes).changed = true → ∀ fault,
    (replace job.token outcome.path (job.processed outcome.path bytes).newText.toUTF8 tree).result =
      .error fault →
    outcome = .failed outcome.path (Text.Utf8.decode bytes) (ioError outcome.path .write fault)
  /-- Any other file is processed from the bytes that it holds before the run. -/
  processed : ∀ outcome ∈ run.sorted, ∀ bytes, tree.read outcome.path = .ok bytes →
    ((job.processed outcome.path bytes).changed = true →
      (replace job.token outcome.path
        (job.processed outcome.path bytes).newText.toUTF8 tree).result = .ok ()) →
    outcome = job.processed outcome.path bytes
  /-- Only the places of changed files are different after the run. -/
  kept : ∀ place, (∀ outcome ∈ run.sorted, outcome.changed = true → outcome.error = none →
    tree.locate outcome.path false ≠ .ok place) → run.tree.at? place = tree.at? place
  /-- A changed file stands at its path, with its new text and its old permission bits. -/
  written : ∀ outcome ∈ run.sorted, outcome.changed = true → outcome.error = none →
    ∃ file bytes mode place, tree.find outcome.path true = .ok (file, .file bytes mode) ∧
      tree.locate outcome.path false = .ok place ∧
      run.tree.find outcome.path true = .ok (place, .file outcome.newText.toUTF8 mode)
  /-- No new file is left beside its path. -/
  cleared : ∀ path ∈ paths, run.tree.Unused (temporaryPath job.token path)

section Run

variable {job : Job} {paths : List String} {tree : Tree}

/-- Sorting the outcomes of a run keeps what they are. -/
theorem mem_sorted {run : Run} {outcome : Outcome} :
    outcome ∈ run.sorted ↔ outcome ∈ run.outcomes := by
  unfold Run.sorted
  exact List.mem_mergeSort

/-- The outcomes of a run are ordered by path. -/
theorem sorted_ordered (run : Run) :
    run.sorted.Pairwise fun left right => Text.unitsLe left.path right.path = true := by
  unfold Run.sorted
  apply List.pairwise_mergeSort
  · intro first second third
    exact Text.units_le_trans first.path second.path third.path
  · intro left right
    exact Text.units_le_total left.path right.path

/-- The outcomes of a run are those of its paths in the tree before the run. Each path has one outcome,
which is named after it; sorting loses none of them. -/
theorem mem_sorted_run (writing : job.write = true) (separate : Separate job.token paths tree)
    (untangled : Untangled job.token paths tree) {outcome : Outcome} :
    outcome ∈ (runFiles job none paths tree).sorted ↔
      outcome.path ∈ paths ∧ outcome = (fixFile job outcome.path tree).1 := by
  obtain ⟨outcomes, _, _⟩ := run_after writing separate untangled (after_nothing job tree)
    (fun path listed => listed) separate.distinct
  rw [mem_sorted, outcomes, List.mem_map]
  constructor
  · rintro ⟨path, listed, same⟩
    have named : outcome.path = path := by
      rw [← same]
      exact fix_file_path writing (separate.unused path listed)
    rw [named]
    exact ⟨listed, same.symm⟩
  · rintro ⟨listed, same⟩
    exact ⟨outcome.path, listed, same.symm⟩

/-- A run writes each file as if it were alone. The outcomes of the run are those of the single files in
the order of the paths, by induction on the paths; sorting them changes nothing but their order, and the
places that were written are those of the files that came out changed. -/
theorem run_per_file (writing : job.write = true) (separate : Separate job.token paths tree)
    (untangled : Untangled job.token paths tree) :
    PerFile job paths tree (runFiles job none paths tree) := by
  obtain ⟨outcomes, finished, after⟩ := run_after writing separate untangled
    (after_nothing job tree) (fun path listed => listed) separate.distinct
  rw [List.nil_append] at after
  have own : ∀ outcome ∈ (runFiles job none paths tree).sorted,
      outcome.path ∈ paths ∧ outcome = (fixFile job outcome.path tree).1 :=
    fun outcome => (mem_sorted_run writing separate untangled).mp
  have present : ∀ path ∈ paths,
      (fixFile job path tree).1 ∈ (runFiles job none paths tree).sorted := by
    intro path listed
    rw [mem_sorted, outcomes]
    exact List.mem_map_of_mem listed
  constructor
  case finished => exact finished
  case ordered => exact sorted_ordered _
  case complete =>
    have perm := (List.mergeSort_perm (runFiles job none paths tree).outcomes
      fun left right => Text.unitsLe left.path right.path).map (·.path)
    have named : (runFiles job none paths tree).outcomes.map (·.path) = paths := by
      rw [outcomes, List.map_map]
      refine (List.map_congr_left ?_).trans (List.map_id paths)
      intro path listed
      exact fix_file_path writing (separate.unused path listed)
    rw [named] at perm
    exact perm
  case unread =>
    intro outcome member fault unread
    exact (own outcome member).2.trans (congrArg Prod.fst (fix_file_unread unread))
  case unwritten =>
    intro outcome member bytes read changed fault refused
    exact (own outcome member).2.trans (fix_file_refused writing read changed refused)
  case processed =>
    intro outcome member bytes read written
    exact (own outcome member).2.trans (fix_file_settled writing read written)
  case kept =>
    intro place untouched
    refine Classical.byContradiction fun differs => ?_
    obtain ⟨path, listed, entry, replaced⟩ := after.changed place differs
    obtain ⟨_, _, placed, _⟩ := replaces_leads replaced
    have unused := separate.unused path listed
    obtain ⟨changed, succeeded⟩ := fix_file_replaces writing unused replaced
    refine untouched _ (present path listed) changed succeeded ?_
    rw [fix_file_path writing unused]
    exact placed
  case written =>
    intro outcome member changed _
    obtain ⟨listed, same⟩ := own outcome member
    rw [same] at changed
    obtain ⟨file, bytes, mode, place, found, placed, replaced⟩ :=
      fix_file_changed writing (separate.unused _ listed) changed
    rw [← same] at replaced
    refine ⟨file, bytes, mode, place, found, placed, ?_⟩
    exact after.find_written untangled (fun path listed => listed) listed listed replaced
  case cleared =>
    intro path listed
    exact after.unused separate untangled (fun path listed => listed) listed

/-- Two runs over the same paths leave the same tree. A place that is changed holds what was written for
a listed path, and that is read off the tree before both runs. -/
theorem After.unique {first second : List String} {one other : Tree}
    (same : ∀ path, path ∈ first ↔ path ∈ second) (after : After job tree first one)
    (again : After job tree second other) (place : Place) : one.at? place = other.at? place := by
  by_cases unchanged : one.at? place = tree.at? place
  · by_cases still : other.at? place = tree.at? place
    · rw [unchanged, still]
    · obtain ⟨path, listed, entry, replaced⟩ := again.changed place still
      rw [after.written path ((same path).mpr listed) place entry replaced,
        again.written path listed place entry replaced]
  · obtain ⟨path, listed, entry, replaced⟩ := after.changed place unchanged
    rw [after.written path listed place entry replaced,
      again.written path ((same path).mp listed) place entry replaced]

/-- Whether paths are separate does not depend on their order. -/
theorem Separate.perm {other : List String} (separate : Separate job.token paths tree)
    (perm : other.Perm paths) : Separate job.token other tree where
  distinct := perm.nodup_iff.mpr separate.distinct
  apart path listed also alsoListed :=
    separate.apart path (perm.mem_iff.mp listed) also (perm.mem_iff.mp alsoListed)
  unused path listed := separate.unused path (perm.mem_iff.mp listed)

/-- Whether paths are untangled does not depend on their order. -/
theorem Untangled.perm {other : List String} (untangled : Untangled job.token paths tree)
    (perm : other.Perm paths) : Untangled job.token other tree := by
  intro path listed leading place placed also alsoListed
  exact untangled path (perm.mem_iff.mp listed) leading place placed also
    (perm.mem_iff.mp alsoListed)

/-- The order of the paths matters neither for the outcomes nor for the tree. Outcomes are sorted by
paths, which are different, so that their order is determined; and a tree in which certain files were
written, and nothing else, is determined by these files. -/
theorem run_perm (writing : job.write = true) (separate : Separate job.token paths tree)
    (untangled : Untangled job.token paths tree) {other : List String} (perm : other.Perm paths) :
    (runFiles job none other tree).sorted = (runFiles job none paths tree).sorted ∧
      ∀ place, (runFiles job none other tree).tree.at? place =
        (runFiles job none paths tree).tree.at? place := by
  have otherSeparate := separate.perm perm
  have otherUntangled := untangled.perm perm
  obtain ⟨outcomes, _, after⟩ := run_after writing separate untangled
    (after_nothing job tree) (fun path listed => listed) separate.distinct
  obtain ⟨otherOutcomes, _, otherAfter⟩ := run_after writing otherSeparate otherUntangled
    (after_nothing job tree) (fun path listed => listed) otherSeparate.distinct
  constructor
  · apply List.Perm.eq_of_pairwise ?_ (sorted_ordered _) (sorted_ordered _)
    · unfold Run.sorted
      refine (List.mergeSort_perm _ _).trans (.trans ?_ (List.mergeSort_perm _ _).symm)
      rw [outcomes, otherOutcomes]
      exact perm.map _
    · -- outcomes of one path are the same outcome
      intro left right leftMember rightMember before behind
      have named := Text.units_le_antisymm before behind
      obtain ⟨_, leftOwn⟩ := (mem_sorted_run writing otherSeparate otherUntangled).mp leftMember
      obtain ⟨_, rightOwn⟩ := (mem_sorted_run writing separate untangled).mp rightMember
      rw [leftOwn, rightOwn, named]
  · exact otherAfter.unique (fun path => perm.mem_iff) after

/-! ## What other files hold -/

section Alike

variable {now : Tree} (alike : tree.Alike now)

include alike

/-- Paths lead to the same files, whatever these hold. -/
theorem file_of_alike (path : String) : now.fileOf path = tree.fileOf path := by
  unfold Tree.fileOf
  rw [Tree.find_eq, Tree.find_eq, Tree.locate_alike alike]
  cases tree.locate path true with
  | error cause => rfl
  | ok place =>
    dsimp only
    obtain same | ⟨⟨_, _, before⟩, _, _, behind⟩ := alike place
    · rw [same]
    · rw [before, behind]

/-- A name that is unused in one of two trees that are alike is unused in the other: what a path finds
shows only in its kind, and this is the same in both. -/
theorem unused_alike {path : String} (unused : tree.Unused path) : now.Unused path := by
  rintro ⟨place, entry⟩ found
  obtain ⟨located, standing⟩ := Tree.find_ok found
  rw [Tree.locate_alike alike] at located
  have absent := unused.absent located
  obtain same | ⟨⟨_, _, before⟩, _⟩ := alike place
  · rw [same, absent] at standing
    cases standing
  · rw [absent] at before
    cases before

/-- Paths that are separate in one of two trees that are alike are so in the other. -/
theorem separate_alike (separate : Separate job.token paths tree) :
    Separate job.token paths now where
  distinct := separate.distinct
  apart path listed other otherListed different := by
    rw [file_of_alike alike, file_of_alike alike]
    exact separate.apart path listed other otherListed different
  unused path listed := unused_alike alike (separate.unused path listed)

/-- Paths that are untangled in one of two trees that are alike are so in the other. -/
theorem untangled_alike (untangled : Untangled job.token paths tree) :
    Untangled job.token paths now := by
  intro path listed leading place placed other otherListed sought about
  rw [file_of_alike alike] at leading
  rw [Tree.locate_alike alike] at placed ⊢
  rw [Tree.locate_alike (alike.remove place)]
  exact untangled path listed leading place placed other otherListed sought about

end Alike

/-- What a file holds changes no other file's outcome. The path leads elsewhere in both trees, and what
is read there is the same. -/
theorem fix_file_elsewhere (writing : job.write = true) {path : String} {file : Place}
    (unused : tree.Unused (temporaryPath job.token path)) (elsewhere : tree.fileOf path ≠ some file)
    {now : Tree} (alike : tree.Alike now)
    (unchanged : ∀ place, place ≠ file → now.at? place = tree.at? place)
    (standing : ∃ bytes mode, tree.at? file = some (.file bytes mode)) :
    (fixFile job path now).1 = (fixFile job path tree).1 := by
  have found : now.find path true = tree.find path true := by
    rw [Tree.find_eq, Tree.find_eq, Tree.locate_alike alike]
    cases located : tree.locate path true with
    | error cause => rfl
    | ok place =>
      have other : place ≠ file := by
        rintro rfl
        obtain ⟨bytes, mode, held⟩ := standing
        exact elsewhere (file_of_located located held)
      dsimp only
      rw [unchanged place other]
  rw [(fix_file_spec writing (unused_alike alike unused)).1, (fix_file_spec writing unused).1,
    found, Tree.locate_alike alike]

/-- A run gives the other files the same outcomes whatever a file holds. With other contents in one file
the trees are alike, so that every other path leads where it led and finds what it found. -/
theorem run_elsewhere (writing : job.write = true) (separate : Separate job.token paths tree)
    (untangled : Untangled job.token paths tree) {path : String} (listed : path ∈ paths)
    {file : Place} {bytes : ByteArray} {mode : Nat}
    (found : tree.find path true = .ok (file, .file bytes mode)) (other : ByteArray) (bits : Nat)
    {outcome : Outcome} (different : outcome.path ≠ path) :
    outcome ∈ (runFiles job none paths (tree.put file (.file other bits))).sorted ↔
      outcome ∈ (runFiles job none paths tree).sorted := by
  obtain ⟨_, standing⟩ := Tree.find_ok found
  have below : file ≠ [] := Tree.ne_root (by rw [standing]; simp)
  have put : ∀ place, (tree.put file (.file other bits)).at? place =
      if place = file then some (.file other bits) else tree.at? place :=
    fun place => tree.at_put file place (.file other bits) below
  have alike : tree.Alike (tree.put file (.file other bits)) := by
    intro place
    rw [put]
    by_cases there : place = file
    · subst there
      exact .inr ⟨⟨bytes, mode, standing⟩, other, bits, if_pos rfl⟩
    · exact .inl (if_neg there)
  have unchanged : ∀ place, place ≠ file →
      (tree.put file (.file other bits)).at? place = tree.at? place := by
    intro place there
    rw [put, if_neg there]
  rw [mem_sorted_run writing (separate_alike alike separate) (untangled_alike alike untangled),
    mem_sorted_run writing separate untangled]
  refine and_congr_right fun also => ?_
  have elsewhere : tree.fileOf outcome.path ≠ some file :=
    separate.alone listed also different.symm (file_of_found found)
  rw [fix_file_elsewhere writing (separate.unused _ also) elsewhere alike unchanged
    ⟨bytes, mode, standing⟩]

/-- A run over one path gives the outcome of that path. -/
theorem run_alone (job : Job) (path : String) (tree : Tree) :
    (runFiles job none [path] tree).sorted = [(fixFile job path tree).1] := by
  rw [run_files_cons]
  simp [Run.sorted, runFiles]

/-- A run over files treats each file as if it were alone. It goes through with one outcome for each
path, in order, which is the outcome of that path in the tree before the run; only changed files are
different afterwards. So the order of the paths does not matter, an outcome is that of a run over
its path alone, and what one file holds changes no other file's outcome.

A tree in which the changed files of the paths that are done have been written is followed like the
tree before the run wherever the paths that are left lead: a place that a file took led to that file
before, and no other path led to it. -/
theorem run_file_by_file (job : Job) (paths : List String) (tree : Tree)
    (writing : job.write = true) (separate : Separate job.token paths tree)
    (untangled : Untangled job.token paths tree) :
    PerFile job paths tree (runFiles job none paths tree) ∧
      (∀ other, other.Perm paths →
        (runFiles job none other tree).sorted = (runFiles job none paths tree).sorted ∧
          ∀ place, (runFiles job none other tree).tree.at? place =
            (runFiles job none paths tree).tree.at? place) ∧
      (∀ outcome ∈ (runFiles job none paths tree).sorted,
        (runFiles job none [outcome.path] tree).sorted = [outcome]) ∧
      ∀ path ∈ paths, ∀ file bytes mode, tree.find path true = .ok (file, .file bytes mode) →
        ∀ content bits outcome, outcome.path ≠ path →
          (outcome ∈ (runFiles job none paths (tree.put file (.file content bits))).sorted ↔
            outcome ∈ (runFiles job none paths tree).sorted) := by
  refine ⟨run_per_file writing separate untangled,
    fun other perm => run_perm writing separate untangled perm, ?_, ?_⟩
  · intro outcome member
    obtain ⟨_, own⟩ := (mem_sorted_run writing separate untangled).mp member
    rw [run_alone, ← own]
  · intro path listed file bytes mode found content bits outcome different
    exact run_elsewhere writing separate untangled listed found content bits different

end Run

/-- A fix that gives one name in place of another. -/
def relabelling : Fix where
  name := "a-to-b"
  date := "2024-01-01"
  description := "renames a to b"
  precondition := return true
  transform := Edit.transform fun node => return node.renamed "a" "b"

def relabellingJob : Job :=
  { fixes := [relabelling], cap := 8, write := true, token := "t" }

/-- Two files that change, one of them behind a link, a link to itself, and a directory. -/
def assorted : Tree where
  entries := [(["f"], .file "a".toUTF8 0o600), (["l"], .link "f"), (["g"], .file "a".toUTF8 0o644),
    (["c"], .link "c"), (["d"], .directory)]

def assortedPaths : List String :=
  ["/l", "/c", "/g", "/d", "/m"]

/-- Of these paths two come out changed and are written, and each of the others fails on its own. That
the paths are separate and untangled is decided by computation, and the general statement is applied to
them. -/
theorem assorted_file_by_file :
    Separate "t" assortedPaths assorted ∧ Untangled "t" assortedPaths assorted ∧
      assorted.locate "/c" true = .error .tooManyLinks ∧
      (runFiles relabellingJob none assortedPaths assorted).outcomes.map
        (fun outcome => (outcome.changed, outcome.error.isSome)) =
        [(true, false), (false, true), (true, false), (false, true), (false, true)] ∧
      PerFile relabellingJob assortedPaths assorted
        (runFiles relabellingJob none assortedPaths assorted) := by
  have separate : Separate "t" assortedPaths assorted := by decide +kernel
  have untangled : Untangled "t" assortedPaths assorted := by decide +kernel
  have writing : relabellingJob.write = true := rfl
  refine ⟨separate, untangled, by decide +kernel, by decide +kernel, ?_⟩
  exact (run_file_by_file relabellingJob assortedPaths assorted writing separate untangled).1

/-- A file that changes, a link that leads to it, and a link that leads back to the root. -/
def tangled : Tree where
  entries := [(["f"], .file "a".toUTF8 0o644), (["l"], .link "f"), (["k"], .link ".")]

/-- A path through as many links as may be followed and one link more, which leads to the file. No
path goes on behind a file, so that this one leads nowhere. -/
def overlong : String :=
  String.join (List.replicate Tree.maxLinks "/k") ++ "/l/x"

/-- Without the condition on links a run is not file by file: a path that is refused for too many
links before the run meets one link fewer when the changed file has taken the place of a link. -/
theorem tangled_not_per_file :
    Separate "t" ["/l", overlong] tangled ∧
      ¬ PerFile relabellingJob ["/l", overlong] tangled
        (runFiles relabellingJob none ["/l", overlong] tangled) := by
  refine ⟨by decide +kernel, ?_⟩
  intro perFile
  have last : (runFiles relabellingJob none ["/l", overlong] tangled).outcomes[1]? =
      some (.failed overlong "" (ioError overlong .read
        { cause := .notDirectory, operation := "open", paths := [overlong] })) := by
    decide +kernel
  have member := mem_sorted.mpr (List.mem_of_getElem? last)
  have located : tangled.locate overlong true = .error .tooManyLinks := by decide +kernel
  have unread : tangled.read overlong =
      .error { cause := .tooManyLinks, operation := "open", paths := [overlong] } := by
    rw [read_eq, Tree.find_eq, located]
  have refused := perFile.unread _ member _ unread
  revert refused
  decide +kernel

end Codemod
