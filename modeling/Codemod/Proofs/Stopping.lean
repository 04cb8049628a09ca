import Codemod.Proofs.FileByFile
import Mathlib.Logic.Relation

/-!
# Runs that are told to stop

A run may be told to stop at any moment: before its first file, between two files, while a file is being
processed, or after the last one. It looks whether it was told so before it starts a file, and nowhere
else. So it processes the files that it had started, in order, as a run does that is not told to stop;
the others are neither read nor written.

Files do not alias: no two listed paths lead to one file, through however many links. The limit on
links has no part in this. Where a run writes, it puts what a file becomes in a new file first, under a
temporary name that is drawn at random; these names are taken to be unused in the tree before the run.
Nothing else is asked for, unlike in a comparison with the tree before the run.
-/
namespace Codemod

open Files

namespace Files.Tree

variable {tree now : Tree}

/-- A walk that ends in an overlaid tree ended there before, unless it comes to a file in the place of a
link; then it went on to the file behind that link, with as many links as that takes. -/
theorem follow_underlaid (overlaid : tree.Overlaid now) (followLast : Bool) (links : Nat)
    (done : Place) (names : List String) {place : Place}
    (ended : now.follow followLast links done names = .ok place) :
    tree.follow followLast links done names = .ok place ∨
      followLast = true ∧ now.at? place ≠ tree.at? place ∧
        ∃ file more, tree.LeadsOn place file ∧ tree.follow true more done names = .ok file := by
  induction links, done, names using follow_induction with
  | arrived links done =>
    rw [follow_nil] at ended ⊢
    exact .inl ended
  | onward links done name rest shorter fewer =>
    obtain same | ⟨target, file, changed, isLink, leads, before, entering⟩ :=
      move_overlaid overlaid followLast done name rest
    · cases moved : tree.move followLast done name rest with
      | halt result =>
        rw [follow_halt (same.trans moved)] at ended
        exact .inl (by rw [follow_halt moved, ended])
      | enter entered =>
        rw [follow_enter (same.trans moved)] at ended
        obtain kept | ⟨rfl, differs, file, more, leads, behind⟩ := shorter entered ended
        · exact .inl (by rw [follow_enter moved, kept])
        · exact .inr ⟨rfl, differs, file, more, leads, by rw [follow_enter moved, behind]⟩
      | leap start names =>
        rw [follow_leap (same.trans moved)] at ended
        cases links with
        | zero => cases ended
        | succ links =>
          obtain kept | ⟨rfl, differs, file, more, leads, behind⟩ :=
            fewer links rfl start names ended
          · exact .inl (by rw [follow_leap moved, leapt, kept])
          · exact .inr ⟨rfl, differs, file, more + 1, leads,
              by rw [follow_leap moved, leapt, behind]⟩
    · -- a file stands where the link stood, so that nothing follows it
      rw [follow_enter entering] at ended
      cases rest with
      | nil =>
        rw [follow_nil] at ended
        cases ended
        cases followLast with
        | false =>
          have halted : tree.move false done name [] = .halt (.ok (done ++ [name])) := by
            rw [before]
            simp [meet]
          exact .inl (follow_halt halted)
        | true =>
          have leaping : tree.move true done name [] =
              .leap (behind done target) (Path.parts target) := by
            rw [before]
            simp [meet]
          obtain ⟨more, reached⟩ := leads.reached isLink
          exact .inr ⟨rfl, changed, file, more + 1, leads, by rw [follow_leap leaping, leapt, reached]⟩
      | cons next rest =>
        obtain ⟨⟨content, mode, isFile⟩, _⟩ := overlaid _ changed
        have blocked : now.move followLast (done ++ [name]) next rest =
            .halt (.error .notDirectory) := by
          simp [move, isFile]
        rw [follow_halt blocked] at ended
        cases ended

/-- What a path leads to in an overlaid tree it led to before, unless something else stands there now. -/
theorem locate_underlaid (overlaid : tree.Overlaid now) {path : String} {followLast : Bool}
    {place : Place} (located : now.locate path followLast = .ok place) :
    tree.locate path followLast = .ok place ∨ followLast = true ∧ now.at? place ≠ tree.at? place := by
  obtain ⟨named, ended⟩ := locate_ok.mp located
  obtain before | ⟨last, differs, _⟩ := follow_underlaid overlaid followLast maxLinks [] _ ended
  · exact .inl (locate_ok.mpr ⟨named, before⟩)
  · exact .inr ⟨last, differs⟩

/-- A path leads to a file, through however many links. -/
def Reaches (tree : Tree) (path : String) (file : Place) : Prop :=
  (∃ content mode, tree.at? file = some (.file content mode)) ∧
    ∃ links, tree.follow true links [] (Path.parts path) = .ok file

/-- A path that finds a file reaches it. -/
theorem Reaches.of_find {path : String} {file : Place} {content : ByteArray} {mode : Nat}
    (found : tree.find path true = .ok (file, .file content mode)) : tree.Reaches path file := by
  obtain ⟨located, standing⟩ := find_ok found
  exact ⟨⟨content, mode, standing⟩, maxLinks, (locate_ok.mp located).2⟩

/-- The empty path reaches no file: its only name is empty, and stays at the root. -/
theorem Reaches.named {path : String} {file : Place} (reaches : tree.Reaches path file) :
    path ≠ "" := by
  rintro rfl
  obtain ⟨⟨content, mode, standing⟩, links, ended⟩ := reaches
  have entered : tree.move true [] "" [] = .enter [] := rfl
  have root : tree.follow true links [] (Path.parts "") = .ok [] := by
    rw [show Path.parts "" = [""] from rfl, follow_enter entered, follow_nil]
  cases root.symm.trans ended
  cases standing

/-- What a path reaches is what it is found to lead to, if it is not refused for too many links. -/
theorem Reaches.locate_eq {path : String} {file : Place} (reaches : tree.Reaches path file)
    (enough : tree.locate path true ≠ .error .tooManyLinks) : tree.locate path true = .ok file := by
  obtain ⟨_, links, ended⟩ := id reaches
  rw [Tree.locate_eq reaches.named] at enough ⊢
  exact (follow_agrees enough (by rw [ended]; simp)).trans ended

/-- A tree in which files were written where something led on to the files of some paths. -/
def Rewritten (tree : Tree) (paths : List String) (now : Tree) : Prop :=
  ∀ place, now.at? place ≠ tree.at? place →
    (∃ content mode, now.at? place = some (.file content mode)) ∧
      ∃ path ∈ paths, ∃ file, tree.Reaches path file ∧ tree.LeadsOn place file

/-- A path that reaches no file of some others. -/
def Apart (tree : Tree) (paths : List String) (path : String) : Prop :=
  ∀ other ∈ paths, ∀ file, tree.Reaches other file → ¬tree.Reaches path file

namespace Rewritten

variable {paths : List String} {path : String}

/-- A tree in which files were written is one with files laid over it. -/
theorem overlaid (rewritten : tree.Rewritten paths now) : tree.Overlaid now := by
  intro place differs
  obtain ⟨isFile, _, _, file, _, leads⟩ := rewritten place differs
  exact ⟨isFile, file, leads⟩

/-- What a path reaches now it reached before, or a file that stands in the way of it reached what
that file's place led on to. -/
theorem reached_before (rewritten : tree.Rewritten paths now) {file : Place}
    (reaches : now.Reaches path file) :
    ∃ before, tree.Reaches path before ∧
      (now.at? file = tree.at? file ∧ before = file ∨
        now.at? file ≠ tree.at? file ∧ tree.LeadsOn file before) := by
  obtain ⟨⟨content, mode, standing⟩, links, ended⟩ := reaches
  obtain kept | ⟨_, differs, before, more, leads, behind⟩ :=
    follow_underlaid rewritten.overlaid true links [] _ ended
  · by_cases same : now.at? file = tree.at? file
    · exact ⟨file, ⟨⟨content, mode, same ▸ standing⟩, links, kept⟩, .inl ⟨same, rfl⟩⟩
    · obtain ⟨_, _, _, before, _, leads⟩ := rewritten file same
      obtain ⟨isFile, itself | ⟨target, _, isLink, _⟩⟩ := id leads
      · subst itself
        exact ⟨file, ⟨isFile, links, kept⟩, .inr ⟨same, leads⟩⟩
      · have way := follow_no_link links [] _ tree.no_link_to_root kept file.length target
        rw [List.take_length] at way
        exact absurd isLink way
  · exact ⟨before, ⟨leads.1, more, behind⟩, .inr ⟨differs, leads⟩⟩

/-- What another path reaches now it reached before, and it was not written. -/
theorem reached_apart (rewritten : tree.Rewritten paths now) (apart : tree.Apart paths path)
    {file : Place} (reaches : now.Reaches path file) :
    tree.Reaches path file ∧ now.at? file = tree.at? file := by
  obtain ⟨before, reached, ⟨same, rfl⟩ | ⟨differs, leads⟩⟩ := rewritten.reached_before reaches
  · exact ⟨reached, same⟩
  · obtain ⟨_, other, member, written, leading, also⟩ := rewritten file differs
    cases leads.unique also
    exact absurd reached (apart other member before leading)

/-- What another path reached is not written. -/
theorem kept (rewritten : tree.Rewritten paths now) (apart : tree.Apart paths path) {file : Place}
    (reached : tree.Reaches path file) : now.at? file = tree.at? file := by
  by_contra differs
  obtain ⟨_, other, member, written, leading, leads⟩ := rewritten file differs
  cases LeadsOn.unique ⟨reached.1, .inl rfl⟩ leads
  exact apart other member file leading reached

/-- What another path reached it still reaches, through no more links. -/
theorem follow_apart (rewritten : tree.Rewritten paths now) (apart : tree.Apart paths path)
    {file : Place} {links : Nat} (reached : tree.Reaches path file)
    (ended : tree.follow true links [] (Path.parts path) = .ok file) :
    now.follow true links [] (Path.parts path) = .ok file := by
  obtain same | ⟨_, place, other, differs, leads, located⟩ :=
    follow_overlaid rewritten.overlaid true links [] _ (by rw [ended]; simp)
  · exact same.trans ended
  · cases ended.symm.trans located
    obtain ⟨_, before, member, written, leading, also⟩ := rewritten place differs
    cases leads.unique also
    exact absurd reached (apart before member file leading)

/-- What another path reached it still reaches, and it is still a file. -/
theorem reaches (rewritten : tree.Rewritten paths now) (apart : tree.Apart paths path)
    {file : Place} (reached : tree.Reaches path file) : now.Reaches path file := by
  obtain ⟨links, ended⟩ := reached.2
  exact ⟨rewritten.kept apart reached ▸ reached.1, links,
    rewritten.follow_apart apart reached ended⟩

/-- Another path is found to lead to the same file with the same content. What was written stands at
places that lead to other files, and the walk of this path, if it goes through such a place, is the same. -/
theorem find_iff (rewritten : tree.Rewritten paths now) (apart : tree.Apart paths path)
    {file : Place} {content : ByteArray} {mode : Nat} :
    now.find path true = .ok (file, .file content mode) ↔
      tree.find path true = .ok (file, .file content mode) := by
  constructor
  · intro found
    obtain ⟨located, standing⟩ := find_ok found
    obtain ⟨_, same⟩ := rewritten.reached_apart apart (.of_find found)
    obtain before | ⟨_, differs⟩ := locate_underlaid rewritten.overlaid located
    · rw [find_eq, before]
      dsimp only
      rw [← same, standing]
    · exact absurd same differs
  · intro found
    obtain ⟨located, standing⟩ := find_ok found
    have reached : tree.Reaches path file := .of_find found
    obtain ⟨named, led⟩ := locate_ok.mp located
    rw [find_eq, locate_ok.mpr ⟨named, rewritten.follow_apart apart reached led⟩]
    dsimp only
    rw [rewritten.kept apart reached, standing]

/-- What leads on to a file that another path reaches did so before. What was written for the paths is a
file, and so the link was there before. -/
theorem leads_apart (rewritten : tree.Rewritten paths now) (apart : tree.Apart paths path)
    {place file : Place} (reaches : now.Reaches path file) (leads : now.LeadsOn place file) :
    tree.LeadsOn place file := by
  obtain ⟨reached, same⟩ := rewritten.reached_apart apart reaches
  refine ⟨reached.1, ?_⟩
  obtain ⟨_, itself | ⟨target, links, isLink, ended⟩⟩ := leads
  · exact .inl itself
  · refine .inr ⟨target, links, ?_, ?_⟩
    · by_contra differs
      obtain ⟨⟨content, mode, isFile⟩, _⟩ := rewritten place (by rw [isLink]; exact Ne.symm differs)
      rw [isLink] at isFile
      cases isFile
    · obtain before | ⟨_, differs, _⟩ :=
        follow_underlaid rewritten.overlaid true links _ _ ended
      · exact before
      · exact absurd same differs

/-- Writing the files of further paths. A place is changed by the first part or by the second, whose
paths lead where they led before. -/
theorem trans {last : Tree} {more : List String} (rewritten : tree.Rewritten paths now)
    (further : now.Rewritten more last) (apart : ∀ path ∈ more, tree.Apart paths path) :
    tree.Rewritten (paths ++ more) last := by
  intro place differs
  by_cases same : last.at? place = now.at? place
  · rw [same] at differs ⊢
    obtain ⟨isFile, path, member, reaching⟩ := rewritten place differs
    exact ⟨isFile, path, List.mem_append_left _ member, reaching⟩
  · obtain ⟨isFile, path, member, file, reaches, leads⟩ := further place same
    exact ⟨isFile, path, List.mem_append_right _ member, file,
      (rewritten.reached_apart (apart path member) reaches).1,
      rewritten.leads_apart (apart path member) reaches leads⟩

end Rewritten

end Files.Tree

/-- Listed paths that do not alias: none is listed twice, and no file is reached from two of them. Where
the job writes, the temporary names of its new files are unused in the tree. -/
structure Unaliased (job : Job) (paths : List String) (tree : Tree) : Prop where
  distinct : paths.Nodup
  apart : ∀ path ∈ paths, ∀ other ∈ paths, path ≠ other →
    ∀ file, tree.Reaches path file → ¬tree.Reaches other file
  unused : job.write = true → ∀ path ∈ paths, tree.Unused (temporaryPath job.token path)

namespace Unaliased

variable {job : Job} {paths : List String} {tree : Tree}

/-- A listed path is apart from other listed paths. -/
theorem others (unaliased : Unaliased job paths tree) {some : List String} {path : String}
    (listed : ∀ other ∈ some, other ∈ paths) (member : path ∈ paths) (absent : path ∉ some) :
    tree.Apart some path :=
  fun other among => unaliased.apart other (listed other among) path member
    (ne_of_mem_of_not_mem among absent)

/-- Paths that do not alias do not alias after some of their files were written: two paths that reach
one file now reached one file before. -/
theorem rewritten (unaliased : Unaliased job paths tree) {some : List String} {now : Tree}
    (rewritten : tree.Rewritten some now) : Unaliased job paths now where
  distinct := unaliased.distinct
  apart path member other otherMember different file reaches also := by
    obtain ⟨before, reached, ⟨same, rfl⟩ | ⟨differs, leads⟩⟩ := rewritten.reached_before reaches
    · obtain ⟨_, otherReached, ⟨_, rfl⟩ | ⟨impossible, _⟩⟩ := rewritten.reached_before also
      · exact unaliased.apart path member other otherMember different _ reached otherReached
      · exact impossible same
    · obtain ⟨_, otherReached, ⟨impossible, _⟩ | ⟨_, otherLeads⟩⟩ := rewritten.reached_before also
      · exact differs impossible
      · cases leads.unique otherLeads
        exact unaliased.apart path member other otherMember different _ reached otherReached
  unused writing path member := by
    rintro ⟨place, entry⟩ found
    obtain ⟨located, standing⟩ := Tree.find_ok found
    obtain before | ⟨impossible, _⟩ := Tree.locate_underlaid rewritten.overlaid located
    · have absent := (unaliased.unused writing path member).absent before
      obtain ⟨_, _, _, file, _, leads⟩ := rewritten place (by rw [standing, absent]; simp)
      obtain ⟨held, covered, _⟩ := leads.standing
      rw [absent] at covered
      cases covered
    · cases impossible

/-- Paths do not alias when different files stand where they lead and none is refused for too many
links. -/
theorem of_separate (separate : Separate job.token paths tree)
    (enough : ∀ path ∈ paths, tree.locate path true ≠ .error .tooManyLinks) :
    Unaliased job paths tree where
  distinct := separate.distinct
  apart path member other otherMember different file reaches also := by
    obtain ⟨⟨content, mode, standing⟩, _⟩ := id reaches
    exact separate.alone member otherMember different
      (file_of_located (reaches.locate_eq (enough path member)) standing)
      (file_of_located (also.locate_eq (enough other otherMember)) standing)
  unused _ := separate.unused

end Unaliased

/-! ## One file -/

section FixFile

variable {job : Job} {path : String} {tree : Tree}

/-- Without writing, what a file comes to depends on what is read, and the tree stays. -/
theorem fix_file_idle (reading : job.write = false) :
    fixFile job path tree =
      (match tree.read path with
        | .error fault => .failed path "" (ioError path .read fault)
        | .ok bytes => job.processed path bytes, tree) := by
  unfold fixFile
  cases tree.read path with
  | error fault => rfl
  | ok bytes => simp only [reading, Bool.false_and, Bool.false_eq_true, if_false]; rfl

/-- The outcome of a file is about that file. Each of its cases names the path that it was given. -/
theorem outcome_path (job : Job) (path : String) (tree : Tree) : (fixFile job path tree).1.path = path := by
  unfold fixFile
  cases tree.read path with
  | error fault => rfl
  | ok bytes =>
    have named := process_path path (Text.Utf8.decode bytes) job.fixes job.cap
    dsimp only
    split
    · split
      · exact named
      · rfl
    · exact named

/-- A file that was processed was written, if at all, where its path led on to it. The only place that
changes is the own place of the path, which led on to its file. -/
theorem fix_file_rewritten (unused : job.write = true → tree.Unused (temporaryPath job.token path)) :
    tree.Rewritten [path] (fixFile job path tree).2 := by
  intro place differs
  cases writing : job.write with
  | false =>
    rw [fix_file_idle writing] at differs
    exact absurd rfl differs
  | true =>
    obtain ⟨_, written⟩ := fix_file_spec writing (unused writing)
    rw [written] at differs ⊢
    cases replaced : job.replaces tree path with
    | none =>
      rw [replaced] at differs
      exact absurd rfl differs
    | some change =>
      obtain ⟨taken, entry⟩ := change
      rw [replaced] at differs
      dsimp only at differs ⊢
      by_cases there : place = taken
      · subst there
        obtain ⟨file, _, _, leads⟩ := replaces_leads replaced
        obtain ⟨other, bytes, mode, _, found, placed, _, _, rfl⟩ := replaces_some replaced
        obtain ⟨also, located, otherLeads⟩ := Tree.locate_leads_on found
        cases placed.symm.trans located
        rw [if_pos rfl]
        exact ⟨⟨_, mode, rfl⟩, path, List.mem_singleton_self path, other, .of_find found, otherLeads⟩
      · rw [if_neg there] at differs
        exact absurd rfl differs

/-- In two trees in which a path and the name of its new file lead to the same, the file comes to the
same, and what it changes, it changes to the same. -/
theorem fix_file_same {also : Tree} (found : also.find path true = tree.find path true)
    (placed : also.locate path false = tree.locate path false)
    (free : also.locate (temporaryPath job.token path) true =
      tree.locate (temporaryPath job.token path) true)
    (unused : job.write = true → tree.Unused (temporaryPath job.token path))
    (alsoUnused : job.write = true → also.Unused (temporaryPath job.token path)) :
    (fixFile job path also).1 = (fixFile job path tree).1 ∧
      ∀ place, (fixFile job path also).2.at? place = (fixFile job path tree).2.at? place ∨
        (fixFile job path also).2.at? place = also.at? place ∧
          (fixFile job path tree).2.at? place = tree.at? place := by
  cases writing : job.write with
  | false =>
    rw [fix_file_idle writing, fix_file_idle writing, read_eq, read_eq, found]
    exact ⟨rfl, fun _ => .inr ⟨rfl, rfl⟩⟩
  | true =>
    obtain ⟨outcome, written⟩ := fix_file_spec writing (unused writing)
    obtain ⟨alsoOutcome, alsoWritten⟩ := fix_file_spec writing (alsoUnused writing)
    have replaces : job.replaces also path = job.replaces tree path := by
      unfold Job.replaces
      rw [found, free, placed]
    refine ⟨by rw [alsoOutcome, outcome, found, free], fun place => ?_⟩
    rw [alsoWritten, written, replaces]
    cases job.replaces tree path with
    | none => exact .inr ⟨rfl, rfl⟩
    | some change =>
      dsimp only
      by_cases there : place = change.1
      · exact .inl (by rw [if_pos there, if_pos there])
      · exact .inr ⟨if_neg there, if_neg there⟩

end FixFile

/-! ## Runs over part of the paths -/

section Run

variable {job : Job} {paths : List String} {tree : Tree}

/-- A run over paths is a run over the first of them and then one over the others. -/
theorem run_files_append (job : Job) (first second : List String) (tree : Tree) :
    runFiles job none (first ++ second) tree =
      { runFiles job none second (runFiles job none first tree).tree with
        outcomes := (runFiles job none first tree).outcomes ++
          (runFiles job none second (runFiles job none first tree).tree).outcomes } := by
  induction first generalizing tree with
  | nil => rfl
  | cons path first inductionHypothesis =>
    rw [List.cons_append, run_files_cons, run_files_cons, inductionHypothesis]
    rfl

/-- A run that is told to stop after some files is a run over these. -/
theorem run_files_stopped (job : Job) (done rest : List String) (tree : Tree) :
    runFiles job (some done.length) (done ++ rest) tree =
      { runFiles job none done tree with cancelled := !rest.isEmpty } := by
  induction done generalizing tree with
  | nil => cases rest <;> rfl
  | cons path done inductionHypothesis =>
    rw [run_files_cons, List.cons_append, runFiles, if_neg (by simp)]
    simp only [List.length_cons, Option.map_some, Nat.add_sub_cancel, inductionHypothesis]

/-- A run without a signal is not cancelled. -/
theorem run_finished (job : Job) (paths : List String) (tree : Tree) :
    (runFiles job none paths tree).cancelled = false := by
  induction paths generalizing tree with
  | nil => rfl
  | cons path rest inductionHypothesis =>
    rw [run_files_cons]
    exact inductionHypothesis _

/-- A run has the outcomes of its files, in order. -/
theorem run_outcome_paths (job : Job) (paths : List String) (tree : Tree) :
    (runFiles job none paths tree).outcomes.map (·.path) = paths := by
  induction paths generalizing tree with
  | nil => rfl
  | cons path rest inductionHypothesis =>
    rw [run_files_cons, List.map_cons, inductionHypothesis, outcome_path]

/-- A run writes files only where one of its paths led on to them. The induction is on the paths: the
first one is written, and those after it keep apart from it. -/
theorem run_rewritten (unaliased : Unaliased job paths tree) {done : List String}
    (listed : ∀ path ∈ done, path ∈ paths) (distinct : done.Nodup) :
    tree.Rewritten done (runFiles job none done tree).tree := by
  induction done generalizing tree with
  | nil => exact fun _ differs => absurd rfl differs
  | cons path rest inductionHypothesis =>
    have member := listed path List.mem_cons_self
    have restListed : ∀ other ∈ rest, other ∈ paths :=
      fun other among => listed other (List.mem_cons_of_mem path among)
    obtain ⟨later, restDistinct⟩ := List.nodup_cons.mp distinct
    have first := fix_file_rewritten (fun writing => unaliased.unused writing path member)
    have others := inductionHypothesis (unaliased.rewritten first) restListed restDistinct
    rw [run_files_cons]
    refine first.trans others fun other among => ?_
    refine unaliased.others (by simpa using member) (restListed other among) ?_
    rw [List.mem_singleton]
    exact ne_of_mem_of_not_mem among later

/-- A tree in which the same stands, but for what the files hold that some paths lead to. -/
def DiffersAt (rest : List String) (tree also : Tree) : Prop :=
  tree.Alike also ∧ ∀ place, also.at? place ≠ tree.at? place → ∃ path ∈ rest, tree.Reaches path place

/-- A file comes to the same whatever the files hold that other paths lead to, and those files are left
alone. -/
theorem DiffersAt.step {rest : List String} {path : String} {also : Tree}
    (differing : DiffersAt rest tree also) (unaliased : Unaliased job paths tree)
    (listed : ∀ other ∈ rest, other ∈ paths) (member : path ∈ paths) (absent : path ∉ rest) :
    (fixFile job path also).1 = (fixFile job path tree).1 ∧
      DiffersAt rest (fixFile job path tree).2 (fixFile job path also).2 ∧
      ∀ place, also.at? place = tree.at? place →
        (fixFile job path also).2.at? place = (fixFile job path tree).2.at? place := by
  obtain ⟨alike, reached⟩ := differing
  have unused := fun writing => unaliased.unused writing path member
  have found : also.find path true = tree.find path true := by
    rw [Tree.find_eq, Tree.find_eq, Tree.locate_alike alike]
    cases located : tree.locate path true with
    | error cause => rfl
    | ok place =>
      have same : also.at? place = tree.at? place := by
        by_contra differs
        obtain ⟨other, among, reaches⟩ := reached place differs
        exact unaliased.apart other (listed other among) path member
          (ne_of_mem_of_not_mem among absent) place reaches
          ⟨reaches.1, Tree.maxLinks, (Tree.locate_ok.mp located).2⟩
      dsimp only
      rw [same]
  obtain ⟨outcome, changes⟩ := fix_file_same found (Tree.locate_alike alike path false)
    (Tree.locate_alike alike _ true) unused fun writing => unused_alike alike (unused writing)
  have rewritten := fix_file_rewritten unused
  refine ⟨outcome, ⟨fun place => ?_, fun place differs => ?_⟩, fun place same => ?_⟩
  · obtain same | ⟨alsoKept, kept⟩ := changes place
    · exact .inl same
    · rw [alsoKept, kept]
      exact alike place
  · obtain same | ⟨alsoKept, kept⟩ := changes place
    · exact absurd same differs
    · rw [alsoKept, kept] at differs
      obtain ⟨other, among, reaches⟩ := reached place differs
      refine ⟨other, among, rewritten.reaches ?_ reaches⟩
      refine unaliased.others (by simpa using member) (listed other among) ?_
      rw [List.mem_singleton]
      exact ne_of_mem_of_not_mem among absent
  · obtain same | ⟨alsoKept, kept⟩ := changes place
    · exact same
    · rw [alsoKept, kept, same]

/-- A run gives the same outcomes whatever the files hold that other paths lead to, and leaves those
files alone. -/
theorem run_unread {rest : List String} {also : Tree} (differing : DiffersAt rest tree also)
    (unaliased : Unaliased job paths tree) {done : List String}
    (listed : ∀ path ∈ done ++ rest, path ∈ paths) (distinct : (done ++ rest).Nodup) :
    (runFiles job none done also).outcomes = (runFiles job none done tree).outcomes ∧
      ∀ place, also.at? place = tree.at? place →
        (runFiles job none done also).tree.at? place = (runFiles job none done tree).tree.at? place := by
  induction done generalizing tree also with
  | nil => exact ⟨rfl, fun _ same => same⟩
  | cons path done inductionHypothesis =>
    rw [List.cons_append] at listed distinct
    obtain ⟨later, restDistinct⟩ := List.nodup_cons.mp distinct
    have member := listed path List.mem_cons_self
    have first := fix_file_rewritten (fun writing => unaliased.unused writing path member)
    obtain ⟨outcome, next, kept⟩ := differing.step unaliased
      (fun other among => listed other (List.mem_cons_of_mem _ (List.mem_append_right _ among)))
      member (fun among => later (List.mem_append_right _ among))
    obtain ⟨outcomes, more⟩ := inductionHypothesis next (unaliased.rewritten first)
      (fun other among => listed other (List.mem_cons_of_mem _ among)) restDistinct
    rw [run_files_cons, run_files_cons]
    exact ⟨by rw [outcome, outcomes], fun place same => more place (kept place same)⟩

end Run

/-! ## Every moment -/

/-- Where a run stands: the outcomes so far, the file that is being processed, the paths that are left,
whether the run was told to stop, and the tree. -/
structure Progress where
  outcomes : List Outcome
  hand : Option String
  left : List String
  told : Bool
  tree : Tree

namespace Progress

/-- Before the first file. -/
def beginning (paths : List String) (tree : Tree) : Progress :=
  { outcomes := [], hand := none, left := paths, told := false, tree }

/-- The run is told to stop. -/
def stop (now : Progress) : Progress :=
  { now with told := true }

/-- A file is started only when the run was not told to stop; one that was started is finished, be the
run told so or not. -/
inductive Step (job : Job) : Progress → Progress → Prop where
  | start (outcomes : List Outcome) (path : String) (rest : List String) (tree : Tree) :
    Step job ⟨outcomes, none, path :: rest, false, tree⟩ ⟨outcomes, some path, rest, false, tree⟩
  | finish (outcomes : List Outcome) (path : String) (left : List String) (told : Bool) (tree : Tree) :
    Step job ⟨outcomes, some path, left, told, tree⟩
      ⟨outcomes ++ [(fixFile job path tree).1], none, left, told, (fixFile job path tree).2⟩

/-- Any number of steps. -/
abbrev Steps (job : Job) : Progress → Progress → Prop :=
  Relation.ReflTransGen (Step job)

/-- Nothing is left to do, or no more is to be done. -/
def Over (now : Progress) : Prop :=
  now.hand = none ∧ (now.left = [] ∨ now.told = true)

/-- What a run that is over gave: it was cancelled when paths were left. -/
def result (now : Progress) : Run :=
  { outcomes := now.outcomes, cancelled := !now.left.isEmpty, tree := now.tree }

/-- Some files of a run are done, one may be in hand, and the others are left. -/
structure Reached (job : Job) (paths : List String) (tree : Tree) (done : List String)
    (now : Progress) : Prop where
  whole : done ++ now.hand.toList ++ now.left = paths
  outcomes : now.outcomes = (runFiles job none done tree).outcomes
  tree : now.tree = (runFiles job none done tree).tree

variable {job : Job} {paths done : List String} {tree : Tree} {now last : Progress}

/-- A step starts the next file or finishes the one in hand. A file that is started changes nothing yet,
and one that is finished is the next of the list. -/
theorem Reached.step (reached : Reached job paths tree done now) (step : Step job now last) :
    ∃ done, Reached job paths tree done last := by
  obtain ⟨whole, outcomes, stands⟩ := reached
  cases step with
  | start before path rest before' =>
    exact ⟨done, by simpa using whole, outcomes, stands⟩
  | finish before path left told before' =>
    dsimp only at whole outcomes stands
    subst outcomes stands
    refine ⟨done ++ [path], by simpa using whole, ?_, ?_⟩
    · rw [run_files_append, run_files_cons]
      rfl
    · rw [run_files_append, run_files_cons]
      rfl

/-- However many steps are taken, some files are done, one may be in hand and the others are left. -/
theorem Reached.steps (reached : Reached job paths tree done now) (steps : Steps job now last) :
    ∃ done, Reached job paths tree done last := by
  induction steps with
  | refl => exact ⟨done, reached⟩
  | tail _ step inductionHypothesis =>
    obtain ⟨_, before⟩ := inductionHypothesis
    exact before.step step

/-- At the beginning all files are left. -/
theorem reached_beginning (job : Job) (paths : List String) (tree : Tree) :
    Reached job paths tree [] (beginning paths tree) :=
  ⟨rfl, rfl, rfl⟩

/-- Once the run was told to stop, no further path is taken up. -/
theorem left_of_told (told : now.told = true) (steps : Steps job now last) :
    last.left = now.left ∧ last.told = true := by
  induction steps with
  | refl => exact ⟨rfl, told⟩
  | tail _ step inductionHypothesis =>
    cases step with
    | start => cases inductionHypothesis.2
    | finish => exact inductionHypothesis

/-- A run that was told to stop comes to an end. -/
theorem over_of_told (job : Job) (now : Progress) (told : now.told = true) :
    ∃ last, Steps job now last ∧ last.Over := by
  obtain ⟨outcomes, hand, left, signal, tree⟩ := now
  cases hand with
  | none => exact ⟨_, .refl, rfl, .inr told⟩
  | some path => exact ⟨_, .single (.finish outcomes path left signal tree), rfl, .inr told⟩

/-- A run that is over without having been told to stop gave what a run over all paths gives. -/
theorem result_of_untold (steps : Steps job (beginning paths tree) last) (ended : last.Over)
    (untold : last.told = false) : last.result = runFiles job none paths tree := by
  obtain ⟨done, whole, outcomes, stands⟩ := (reached_beginning job paths tree).steps steps
  obtain ⟨free, none | told⟩ := ended
  · have all : done = paths := by simpa [free, none] using whole
    subst all
    rw [result, outcomes, stands, none]
    simp only [List.isEmpty_nil, Bool.not_true, ← run_finished job done tree]
  · rw [untold] at told
    cases told

end Progress

/-- A run over the first of some paths, as part of the run over all of them. -/
structure CutShort (job : Job) (paths : List String) (tree : Tree) (done rest : List String)
    (run : Run) : Prop where
  whole : done ++ rest = paths
  /-- It is the run that is told to stop after these files. -/
  stopped : run = runFiles job (some done.length) paths tree
  /-- Exactly these files are processed, in their order. -/
  processed : run.outcomes.map (·.path) = done
  /-- Each has the outcome that it has in the run over all paths. -/
  outcomes : run.outcomes = (runFiles job none paths tree).outcomes.take done.length
  /-- Each holds what it holds after the run over all paths. -/
  finished : ∀ path ∈ done, ∀ place content mode,
    run.tree.find path true = .ok (place, .file content mode) ↔
      (runFiles job none paths tree).tree.find path true = .ok (place, .file content mode)
  /-- Only where one of these paths led on to its file something changed; that is a file now. -/
  written : tree.Rewritten done run.tree
  /-- The other files hold what they held. -/
  kept : ∀ path ∈ rest, ∀ place content mode,
    run.tree.find path true = .ok (place, .file content mode) ↔
      tree.find path true = .ok (place, .file content mode)
  /-- Whatever the other files hold, the outcomes are the same, and so is what is written. -/
  unread : ∀ also, DiffersAt rest tree also →
    (runFiles job (some done.length) paths also).outcomes = run.outcomes ∧
      ∀ place, also.at? place = tree.at? place →
        (runFiles job (some done.length) paths also).tree.at? place = run.tree.at? place
  cancelled : run.cancelled = true ↔ rest ≠ []
  /-- The outcomes are given back by path. -/
  sorted : run.sorted.Perm run.outcomes ∧
    run.sorted.Pairwise fun left right => Text.unitsLe left.path right.path = true

/-- A run that is told to stop after some files processes these as the whole run does, and no others. The
run is the run over the files that are done, after which the others are left as they were: what was
written for a file is not overwritten later, and a path that is left reads as before. -/
theorem run_cut_short {job : Job} {paths : List String} {tree : Tree}
    (unaliased : Unaliased job paths tree) {done rest : List String} (whole : done ++ rest = paths) :
    CutShort job paths tree done rest (runFiles job (some done.length) paths tree) := by
  subst whole
  have distinct := unaliased.distinct
  obtain ⟨doneDistinct, restDistinct, disjoint⟩ := List.nodup_append.mp distinct
  have doneListed : ∀ path ∈ done, path ∈ done ++ rest :=
    fun path among => List.mem_append_left rest among
  have restListed : ∀ path ∈ rest, path ∈ done ++ rest :=
    fun path among => List.mem_append_right done among
  have first := run_rewritten unaliased doneListed doneDistinct
  have after := unaliased.rewritten first
  have others := run_rewritten after restListed restDistinct
  constructor
  case whole => rfl
  case stopped => rfl
  case processed => rw [run_files_stopped]; exact run_outcome_paths job done tree
  case outcomes =>
    have count : (runFiles job none done tree).outcomes.length = done.length := by
      rw [← List.length_map (·.path), run_outcome_paths]
    rw [run_files_stopped, run_files_append]
    exact (List.take_left' count).symm
  case finished =>
    intro path among place content mode
    rw [run_files_stopped, run_files_append]
    refine (others.find_iff (after.others restListed (doneListed path among) ?_)).symm
    exact fun also => disjoint path among path also rfl
  case written => rw [run_files_stopped]; exact first
  case kept =>
    intro path among place content mode
    rw [run_files_stopped]
    refine first.find_iff (unaliased.others doneListed (restListed path among) ?_)
    exact fun also => disjoint path also path among rfl
  case unread =>
    intro also differing
    rw [run_files_stopped, run_files_stopped]
    exact run_unread differing unaliased (fun path among => among) distinct
  case cancelled => rw [run_files_stopped]; simp
  case sorted => exact ⟨List.mergeSort_perm _ _, sorted_ordered _⟩

/-- At whatever moment a run is told to stop, it comes to an end, and what it gives then is the run over
the files that it had started: the paths that were left at that moment stay untouched.

The paths do not alias, and where the job writes, the temporary names of its new files are taken to be
unused in the tree: a name that was there would be lost to the file that is put under it.

From the start to that moment and on to the end, the files done, the one in hand and the paths left are
the list. Once the run was told to stop no path is taken up; so those that were left then are left at
the end, and all others are done. -/
theorem stopped_run_cut_short (job : Job) (paths : List String) (tree : Tree)
    (unaliased : Unaliased job paths tree) (moment : Progress)
    (before : Progress.Steps job (.beginning paths tree) moment) :
    (∃ last, Progress.Steps job moment.stop last ∧ last.Over) ∧
      ∀ last, Progress.Steps job moment.stop last → last.Over →
        ∃ done, CutShort job paths tree done moment.left last.result := by
  refine ⟨Progress.over_of_told job moment.stop rfl, fun last after ended => ?_⟩
  obtain ⟨done, begun⟩ := (Progress.reached_beginning job paths tree).steps before
  have stopping : Progress.Reached job paths tree done moment.stop :=
    ⟨begun.whole, begun.outcomes, begun.tree⟩
  obtain ⟨done, reached⟩ := stopping.steps after
  obtain ⟨left, _⟩ := Progress.left_of_told rfl after
  have whole : done ++ moment.left = paths := by
    have all := reached.whole
    rw [ended.1, left] at all
    simpa [Progress.stop] using all
  have ran : last.result = runFiles job (some done.length) paths tree := by
    rw [← whole, run_files_stopped, Progress.result, reached.outcomes, reached.tree, left]
    rfl
  exact ⟨done, ran ▸ run_cut_short unaliased whole⟩

/-- Three paths that do not alias: a link to a file, a file, and nothing. -/
theorem assorted_unaliased : Unaliased relabellingJob ["/l", "/g", "/m"] assorted :=
  .of_separate (by decide +kernel) (by decide +kernel)

/-- A run over them that is told to stop while the file behind the link is being processed finishes that
file and is cancelled before the next one. -/
theorem assorted_stopped :
    ∃ last, Progress.Steps relabellingJob
        (Progress.stop ⟨[], some "/l", ["/g", "/m"], false, assorted⟩) last ∧
      last.Over ∧ last.result.cancelled = true ∧
      ∃ done, CutShort relabellingJob ["/l", "/g", "/m"] assorted done ["/g", "/m"] last.result := by
  obtain ⟨⟨last, steps, ended⟩, every⟩ := stopped_run_cut_short relabellingJob ["/l", "/g", "/m"]
    assorted assorted_unaliased _ (.single (.start [] "/l" ["/g", "/m"] assorted))
  obtain ⟨done, cutShort⟩ := every last steps ended
  exact ⟨last, steps, ended, cutShort.cancelled.mpr (by simp), done, cutShort⟩

end Codemod
