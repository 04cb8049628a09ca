import Codemod.Proofs.FileByFile

/-!
# Replacements that fail or are cut off

Every operation of a replacement may fail, for whatever reason the system has: the question about the path,
making and filling the new file, setting its permission bits, giving it the place of the path, and removing it
after a failure. A new file may hold any bytes before it holds all of them, and any permission bits
before it is given the right ones. A replacement may also be cut off anywhere.

In all these cases a reader of the path finds what it found at first, or the new contents with the permission
bits of the file that the path led to. This rests on the name of the new file being unused: it is the
only place that changes before the one operation that gives the new file the place of the path.
-/
namespace Codemod.Files

/-- Where a replacement stands. Permission bits are those that the new file is to have. -/
inductive Stage where
  | begun
  | writing (mode : Nat)
  | written (mode : Nat)
  | ready
  | done
  /-- An operation failed, and the new file is still to be removed. -/
  | failing (fault : Fault)
  /-- The end after a failure, with or without what could be removed. -/
  | failed (fault : Fault) (cleaned : Bool)

/-- Whether the new file is to be removed when the next operation fails. -/
def Stage.isOpen : Stage → Bool
  | .writing _ | .written _ | .ready => true
  | _ => false

/-- What one operation of a replacement may do, a part of the writing included. -/
inductive Step (token path : String) (content : ByteArray) : Stage → Tree → Stage → Tree → Prop where
  | unseen (fault : Fault) (tree : Tree) : Step token path content .begun tree (.failed fault true) tree
  | seen {tree : Tree} {entry : Entry} (asked : tree.inspect path = .ok entry) :
    Step token path content .begun tree (.writing entry.mode) tree
  | part {tree next : Tree} {mode : Nat} (part : ByteArray) (bits : Nat)
      (wrote : tree.write (temporaryPath token path) part bits = .ok next) :
    Step token path content (.writing mode) tree (.writing mode) next
  | whole {tree next : Tree} {mode : Nat} (bits : Nat)
      (wrote : tree.write (temporaryPath token path) content bits = .ok next) :
    Step token path content (.writing mode) tree (.written mode) next
  | permitted {tree next : Tree} {mode : Nat}
      (set : tree.setMode (temporaryPath token path) mode = .ok next) :
    Step token path content (.written mode) tree .ready next
  | renamed {tree next : Tree} (took : tree.rename (temporaryPath token path) path = .ok next) :
    Step token path content .ready tree .done next
  | fails {stage : Stage} (isOpen : stage.isOpen = true) (fault : Fault) (tree : Tree) :
    Step token path content stage tree (.failing fault) tree
  | cleaned {tree next : Tree} {fault : Fault}
      (removed : tree.discard (temporaryPath token path) = .ok next) :
    Step token path content (.failing fault) tree (.failed fault true) next
  | left (fault second : Fault) (tree : Tree) :
    Step token path content (.failing fault) tree (.failed second false) tree

/-- The stages and trees that a replacement comes to. Whenever it is cut off, it is cut off at one of
them. -/
inductive Replacing (token path : String) (content : ByteArray) (tree : Tree) : Stage → Tree → Prop where
  | begun : Replacing token path content tree .begun tree
  | step {stage next : Stage} {now later : Tree} (before : Replacing token path content tree stage now)
      (step : Step token path content stage now next later) :
    Replacing token path content tree next later

namespace Tree

/-- A path is left as it was: it reads as the same bytes, it leads to the same entry with the same
permission bits, and the same entry stands at its own place. -/
structure ReadsAs (now tree : Tree) (path : String) : Prop where
  bytes : now.read path = tree.read path
  entry : now.inspect path = tree.inspect path
  own : now.find path false = tree.find path false

/-- A tree in which a new file stands at a path's own place, with the permission bits of what the path led
to, and nothing else changed. If the path led to a file, the new contents are read there. -/
structure Replaced (tree : Tree) (path : String) (content : ByteArray) (now : Tree) (entry : Entry)
    (place : Place) : Prop where
  seen : tree.inspect path = .ok entry
  placed : tree.locate path false = .ok place
  only : ∀ other, now.at? other =
    if other = place then some (.file content entry.mode) else tree.at? other
  reads : (∃ before mode, entry = .file before mode) →
    now.read path = .ok content ∧ now.inspect path = .ok (.file content entry.mode)

/-- A tree with a new file beside a path that leads somewhere, or still without it. -/
inductive Beside (tree : Tree) (temporary path : String) (now : Tree) : Prop where
  | absent (leads : ∃ entry, tree.inspect path = .ok entry) (same : now = tree) :
    Beside tree temporary path now
  | present {fresh : Place} {content : ByteArray} {mode : Nat}
      (leads : ∃ entry, tree.inspect path = .ok entry) (free : tree.locate temporary true = .ok fresh)
      (made : now = tree.put fresh (.file content mode)) : Beside tree temporary path now

section

variable {tree now next : Tree} {temporary path : String} {fresh : Place} {content part : ByteArray}
  {entry : Entry} {mode bits : Nat}

/-- Of two entries put at one place the second stands there. -/
theorem put_put (tree : Tree) (place : Place) (first second : Entry) :
    (tree.put place first).put place second = tree.put place second := by
  simp [put, remove, List.filter_filter]

/-- Removing what was put where nothing stood gives the tree back. The entry is listed nowhere else, and
so removing it takes away just what was put. -/
theorem remove_put (absent : tree.at? fresh = none) (entry : Entry) :
    (tree.put fresh entry).remove fresh = tree := by
  have below : fresh ≠ [] := ne_root_of_absent absent
  have unlisted : tree.entries.filter (·.1 ≠ fresh) = tree.entries := by
    rw [at?, if_neg below, List.lookup_eq_none_iff] at absent
    refine List.filter_eq_self.mpr fun listed present => ?_
    have other : ¬fresh = listed.1 := by simpa using absent listed present
    exact decide_eq_true (Ne.symm other)
  obtain ⟨entries⟩ := tree
  simp only [put, remove, List.filter_cons, ne_eq, not_true_eq_false, decide_false,
    Bool.false_eq_true, if_false, List.filter_filter, Bool.and_self] at unlisted ⊢
  rw [unlisted]

/-- An entry that is inspected was found at some place. To inspect a path is to find what it leads to and
to look no further. -/
theorem inspect_ok (seen : tree.inspect path = .ok entry) :
    ∃ place, tree.find path true = .ok (place, entry) := by
  unfold inspect at seen
  cases found : tree.find path true with
  | error cause =>
    rw [found] at seen
    cases seen
  | ok result =>
    rw [found] at seen
    obtain ⟨place, standing⟩ := result
    cases seen
    exact ⟨place, rfl⟩

/-- What can be read is a file. -/
theorem file_of_read {bytes : ByteArray} (read : tree.read path = .ok bytes)
    (seen : tree.inspect path = .ok entry) : ∃ before mode, entry = .file before mode := by
  obtain ⟨place, found⟩ := inspect_ok seen
  rw [read_eq, found] at read
  cases entry with
  | file before mode => exact ⟨before, mode, rfl⟩
  | directory => cases read
  | link => cases read

/-- A path reads as before when it finds the same, with the last link followed and without. -/
theorem reads_as_of_find (same : ∀ followLast, now.find path followLast = tree.find path followLast) :
    now.ReadsAs tree path where
  bytes := by rw [read_eq, read_eq, same]
  entry := by rw [inspect, inspect, same]
  own := same false

/-- A path reads in a tree as it does. -/
theorem reads_as_refl (tree : Tree) (path : String) : tree.ReadsAs tree path :=
  reads_as_of_find fun _ => rfl

/-- A path that leads somewhere has an entry at its own place. If nothing stood there the walk would end
at that place, and nothing would be found. -/
theorem find_own {file : Place} (found : tree.find path true = .ok (file, entry)) :
    ∃ place held, tree.locate path false = .ok place ∧ tree.at? place = some held := by
  cases placed : tree.locate path false with
  | error cause =>
    rw [find_eq, locate_refused placed] at found
    cases found
  | ok place =>
    cases standing : tree.at? place with
    | some held => exact ⟨place, held, rfl, standing⟩
    | none =>
      have lost : tree.locate path true = .ok place := locate_last placed (by simp [standing])
      rw [find_eq, lost] at found
      simp [standing] at found

/-- A new file where nothing stood hides nothing that a path leads to. -/
theorem Grown.find_kept (grown : tree.Grown fresh content mode now) {followLast : Bool} {place : Place}
    (located : tree.locate path followLast = .ok place) (standing : tree.at? place = some entry) :
    now.find path followLast = .ok (place, entry) := by
  have apart : place ≠ fresh := by
    rintro rfl
    cases grown.absent.symm.trans standing
  rw [find_eq, grown.locate located]
  dsimp only
  rw [grown.unchanged apart, standing]

/-- A new file where nothing stood leaves a path that leads somewhere as it was. The walk to the path
passes places where something stands, and the new file is at none of them. -/
theorem Grown.reads_as (grown : tree.Grown fresh content mode now)
    (leads : ∃ entry, tree.inspect path = .ok entry) : now.ReadsAs tree path := by
  obtain ⟨entry, seen⟩ := leads
  obtain ⟨file, found⟩ := inspect_ok seen
  obtain ⟨place, held, placed, standing⟩ := find_own found
  obtain ⟨located, there⟩ := find_ok found
  apply reads_as_of_find
  rintro (_ | _)
  · rw [grown.find_kept placed standing, find_eq, placed]
    dsimp only
    rw [standing]
  · rw [grown.find_kept located there, found]

/-- A path that led to a file leads to the one that is put at its own place. Its own place was one that
led on to the file, so that a walk with its last link unfollowed comes there as before; and what stands
there now is a file, so that nothing more is followed. -/
theorem find_replaced {file place : Place} {before : ByteArray} {bits : Nat}
    (found : tree.find path true = .ok (file, .file before bits))
    (placed : tree.locate path false = .ok place)
    (only : ∀ other, now.at? other =
      if other = place then some (.file content mode) else tree.at? other) :
    now.find path true = .ok (place, .file content mode) := by
  obtain ⟨other, located, leads⟩ := locate_leads_on found
  cases placed.symm.trans located
  have standing : now.at? place = some (.file content mode) := by rw [only, if_pos rfl]
  have overlaid : tree.Overlaid now := by
    intro other changed
    have here : other = place := by
      by_contra elsewhere
      exact changed (by rw [only, if_neg elsewhere])
    exact here ▸ ⟨⟨_, _, standing⟩, file, leads⟩
  have still : now.locate path false = .ok place := by
    obtain same | ⟨impossible, _⟩ := locate_overlaid overlaid path false (by simp [placed])
    · exact same.trans placed
    · cases impossible
  have led : now.locate path true = .ok place := locate_last still (by simp [standing])
  rw [find_eq, led]
  dsimp only
  rw [standing]

variable (unused : tree.Unused temporary)

include unused

/-- Nothing stands where an unused name leads to. -/
theorem Unused.absent_at (free : tree.locate temporary true = .ok fresh) : tree.at? fresh = none :=
  unused.absent (unused.locate_eq.symm.trans free)

/-- A reader of the path does not see the new file beside it. -/
theorem Beside.reads_as (beside : tree.Beside temporary path now) : now.ReadsAs tree path := by
  cases beside with
  | absent _ same => exact same ▸ reads_as_refl tree path
  | present leads free made => exact made ▸ (grown_put (unused.absent_at free) _ _).reads_as leads

/-- Writing the new file, or more of it, leaves it beside the path with what was written. If it was not
there it is made where its name leads; if it was, the name leads to it. -/
theorem Beside.write (beside : tree.Beside temporary path now)
    (wrote : now.write temporary part bits = .ok next) :
    ∃ fresh mode, tree.locate temporary true = .ok fresh ∧
      next = tree.put fresh (.file part mode) := by
  cases beside with
  | absent _ same =>
    subst same
    cases free : now.locate temporary true with
    | error cause =>
      rw [Tree.write, free] at wrote
      cases wrote
    | ok fresh =>
      rw [write_fresh (unused.absent_at free) free] at wrote
      exact ⟨fresh, bits, rfl, (Except.ok.inj wrote).symm⟩
  | @present fresh content mode _ free made =>
    subst made
    have grown := grown_put (unused.absent_at free) content mode
    have led : (tree.put fresh (.file content mode)).locate temporary true = .ok fresh :=
      grown.locate free
    have written : (tree.put fresh (.file content mode)).write temporary part bits =
        .ok ((tree.put fresh (.file content mode)).put fresh (.file part mode)) := by
      unfold Tree.write
      rw [led]
      simp only [bind, Except.bind, grown.added]
      rfl
    rw [written, put_put] at wrote
    exact ⟨fresh, mode, free, (Except.ok.inj wrote).symm⟩

/-- Removing the new file gives the tree back. Where the new file was not made there is nothing to
remove, and the name stays unused. -/
theorem Beside.discard (beside : tree.Beside temporary path now)
    (removed : now.discard temporary = .ok next) : next = tree := by
  cases beside with
  | absent _ same =>
    subst same
    unfold Tree.discard at removed
    split at removed
    · rename_i found
      exact absurd found (unused _)
    · exact (Except.ok.inj removed).symm
    · cases removed
  | @present fresh content mode _ free made =>
    subst made
    have absent := unused.absent_at free
    have found := (grown_put absent content mode).find (unused.locate_eq.symm.trans free)
    rw [Tree.discard, found] at removed
    rw [← remove_put absent]
    exact (Except.ok.inj removed).symm

/-- A new file that takes the place of the path stands there alone. What stood at the own place of the
path is covered, the new file no longer stands where it was made, and no other place was touched.
Renaming over a directory would have failed. -/
theorem replaced_of_rename (seen : tree.inspect path = .ok entry)
    (free : tree.locate temporary true = .ok fresh)
    (took : (tree.put fresh (.file content entry.mode)).rename temporary path = .ok next) :
    ∃ place, tree.Replaced path content next entry place := by
  have absent := unused.absent_at free
  have grown := grown_put absent content entry.mode
  obtain ⟨file, found⟩ := inspect_ok seen
  have source := grown.find (unused.locate_eq.symm.trans free)
  obtain ⟨place, held, placed, standing⟩ := find_own found
  have target : (tree.put fresh (.file content entry.mode)).locate path false = .ok place :=
    grown.locate placed
  have apart : place ≠ fresh := by
    rintro rfl
    cases absent.symm.trans standing
  have covered := (grown.unchanged apart).trans standing
  -- no file takes the place of a directory
  have noDirectory : held.isDirectory = false := by
    cases held with
    | directory =>
      unfold rename at took
      rw [source, target] at took
      simp [bind, Except.bind, covered, Except.mapError] at took
    | file => rfl
    | link => rfl
  have unlike : tree.at? place ≠ some .directory := by
    rw [standing]
    rintro ⟨⟩
    cases noDirectory
  rw [rename_found source target covered noDirectory, remove_put absent] at took
  have only (other : Place) : next.at? other =
      if other = place then some (.file content entry.mode) else tree.at? other := by
    rw [← Except.ok.inj took, at_put _ _ _ _ (ne_root unlike)]
  refine ⟨place, seen, placed, only, ?_⟩
  rintro ⟨before, mode, rfl⟩
  have finds := find_replaced found placed only
  exact ⟨by rw [read_eq, finds], inspect_found finds⟩

end

end Tree

/-! ## A replacement -/

/-- What the tree is at each stage, compared with the tree before the replacement. -/
def Stage.Holds (token path : String) (content : ByteArray) (tree now : Tree) : Stage → Prop
  | .begun | .failed _ true => now = tree
  | .writing mode => (∃ entry, tree.inspect path = .ok entry ∧ entry.mode = mode) ∧
      tree.Beside (temporaryPath token path) path now
  | .written mode => ∃ entry fresh bits, tree.inspect path = .ok entry ∧ entry.mode = mode ∧
      tree.locate (temporaryPath token path) true = .ok fresh ∧
      now = tree.put fresh (.file content bits)
  | .ready => ∃ entry fresh, tree.inspect path = .ok entry ∧
      tree.locate (temporaryPath token path) true = .ok fresh ∧
      now = tree.put fresh (.file content entry.mode)
  | .done => ∃ entry place, tree.Replaced path content now entry place
  | .failing _ | .failed _ false => tree.Beside (temporaryPath token path) path now

section

variable {token path : String} {content : ByteArray} {tree now later : Tree} {stage next : Stage}

/-- While the new file is made, it stands beside the path or not yet. -/
theorem Stage.Holds.beside (held : stage.Holds token path content tree now)
    (isOpen : stage.isOpen = true) : tree.Beside (temporaryPath token path) path now := by
  cases stage with
  | writing mode => exact held.2
  | written mode =>
    obtain ⟨entry, fresh, bits, seen, _, free, made⟩ := held
    exact .present ⟨entry, seen⟩ free made
  | ready =>
    obtain ⟨entry, fresh, seen, free, made⟩ := held
    exact .present ⟨entry, seen⟩ free made
  | begun | done | failing | failed => cases isOpen

variable (unused : tree.Unused (temporaryPath token path))

include unused

/-- Every operation, done or failed, takes what holds at its stage to what holds at the next. There is a
case for each operation; those that write are covered by the lemmas on files beside a path, and a failed
one leaves the tree. -/
theorem Step.holds (step : Step token path content stage now next later)
    (held : stage.Holds token path content tree now) :
    next.Holds token path content tree later := by
  cases step with
  | unseen => exact held
  | seen asked =>
    subst held
    exact ⟨⟨_, asked, rfl⟩, .absent ⟨_, asked⟩ rfl⟩
  | part _ _ wrote =>
    obtain ⟨⟨entry, seen, same⟩, beside⟩ := held
    obtain ⟨fresh, mode, free, made⟩ := beside.write unused wrote
    exact ⟨⟨entry, seen, same⟩, .present ⟨entry, seen⟩ free made⟩
  | whole _ wrote =>
    obtain ⟨⟨entry, seen, same⟩, beside⟩ := held
    obtain ⟨fresh, mode, free, made⟩ := beside.write unused wrote
    exact ⟨entry, fresh, mode, seen, same, free, made⟩
  | permitted set =>
    obtain ⟨entry, fresh, bits, seen, rfl, free, rfl⟩ := held
    have found := (Tree.grown_put (unused.absent_at free) content bits).find free
    rw [set_mode_file found, Tree.put_put] at set
    exact ⟨entry, fresh, seen, free, (Except.ok.inj set).symm⟩
  | renamed took =>
    obtain ⟨entry, fresh, seen, free, rfl⟩ := held
    exact ⟨entry, Tree.replaced_of_rename unused seen free took⟩
  | fails isOpen => exact held.beside isOpen
  | cleaned removed => exact held.discard unused removed
  | left => exact held

/-- At every stage that a replacement comes to, the tree is what holds there. -/
theorem Replacing.holds (replacing : Replacing token path content tree stage now) :
    stage.Holds token path content tree now := by
  induction replacing with
  | begun => rfl
  | step _ step earlier => exact step.holds unused earlier

/-- Before its last operation a replacement leaves the path as it was. Up to then there is at most a new
file beside, or it was removed again. -/
theorem Replacing.reads_as (replacing : Replacing token path content tree stage now)
    (undone : stage ≠ .done) : now.ReadsAs tree path := by
  have held := replacing.holds unused
  cases stage with
  | begun => exact held ▸ Tree.reads_as_refl tree path
  | writing | written | ready => exact (held.beside rfl).reads_as unused
  | done => exact absurd rfl undone
  | failing => exact Tree.Beside.reads_as unused held
  | failed fault cleaned =>
    cases cleaned with
    | true => exact held ▸ Tree.reads_as_refl tree path
    | false => exact Tree.Beside.reads_as unused held

end

/-! ## The replacement that is run -/

/-- How a replacement ended, at a stage that is an end. -/
def Stage.result : Stage → Option (Except Fault Unit)
  | .done => some (.ok ())
  | .failed fault _ => some (.error fault)
  | _ => none

/-- The trees that a replacement passes through and its end are some that it may come to. -/
structure Replacement.Goes (replacement : Replacement) (token path : String) (content : ByteArray)
    (tree : Tree) : Prop where
  between : ∀ now ∈ replacement.trail, ∃ stage, Replacing token path content tree stage now
  ended : ∃ stage, Replacing token path content tree stage (replacement.final tree) ∧
    stage.result = some replacement.result

section

variable {token path : String} {content : ByteArray} {tree now : Tree} {stage : Stage}

/-- A replacement that fails after it has begun to write passes through trees that it may come to, and
ends in one, whether the new file can be removed or stays behind. -/
theorem clean_up_goes {trail : List Tree}
    (between : ∀ earlier ∈ trail, ∃ stage, Replacing token path content tree stage earlier)
    (last : trail.getLastD tree = now) (replacing : Replacing token path content tree stage now)
    (isOpen : stage.isOpen = true) (fault : Fault) :
    (cleanUp (temporaryPath token path) trail now fault).Goes token path content tree := by
  have failing := replacing.step (.fails isOpen fault now)
  unfold cleanUp
  cases removed : now.discard (temporaryPath token path) with
  | ok cleaned =>
    have ended := failing.step (.cleaned removed)
    refine ⟨fun earlier member => ?_, _, by simpa [Replacement.final] using ended, rfl⟩
    obtain member | rfl := List.mem_append.mp member |>.imp_right List.mem_singleton.mp
    · exact between earlier member
    · exact ⟨_, ended⟩
  | error second => exact ⟨between, _, last ▸ failing.step (.left fault second now), rfl⟩

/-- The replacement that is run passes through the stages one by one. At each of them it fails, with
nothing to clean up at the first, or goes on to the next. -/
theorem replace_goes (token path : String) (content : ByteArray) (tree : Tree) :
    (replace token path content tree).Goes token path content tree := by
  unfold replace
  have start : Replacing token path content tree .begun tree := .begun
  cases asked : tree.inspect path with
  | error fault =>
    exact ⟨by simpa using ⟨_, start⟩, _, start.step (.unseen fault tree), rfl⟩
  | ok entry =>
    have writing := start.step (.seen asked)
    dsimp only
    cases wrote : tree.write (temporaryPath token path) content entry.mode with
    | error fault => exact clean_up_goes (by simpa using ⟨_, start⟩) rfl writing rfl fault
    | ok written =>
      have whole := writing.step (.whole entry.mode wrote)
      dsimp only
      cases set : written.setMode (temporaryPath token path) entry.mode with
      | error fault =>
        exact clean_up_goes (by simpa using ⟨⟨_, start⟩, _, whole⟩) rfl whole rfl fault
      | ok ready =>
        have permitted := whole.step (.permitted set)
        dsimp only
        cases took : ready.rename (temporaryPath token path) path with
        | error fault =>
          exact clean_up_goes (by simpa using ⟨⟨_, start⟩, ⟨_, whole⟩, _, permitted⟩) rfl permitted
            rfl fault
        | ok renamed =>
          have done := permitted.step (.renamed took)
          exact ⟨by simpa using ⟨⟨_, start⟩, ⟨_, whole⟩, ⟨_, permitted⟩, _, done⟩, _, done, rfl⟩

end

end Codemod.Files

/-! ## Rewriting a file -/

namespace Codemod

open Files

/-- What rewriting a file may come to, whichever operation fails. -/
inductive Rewriting (job : Job) (path : String) (tree : Tree) : Outcome → Tree → Prop where
  | unread (fault : Fault) : Rewriting job path tree (.failed path "" (ioError path .read fault)) tree
  | unchanged {bytes : ByteArray} (read : tree.read path = .ok bytes)
      (same : (job.processed path bytes).changed = false) :
    Rewriting job path tree (job.processed path bytes) tree
  | written {bytes : ByteArray} {now : Tree} (read : tree.read path = .ok bytes)
      (changed : (job.processed path bytes).changed = true)
      (replacing : Replacing job.token path (job.processed path bytes).newText.toUTF8 tree .done now) :
    Rewriting job path tree (job.processed path bytes) now
  | unwritten {bytes : ByteArray} {now : Tree} {fault : Fault} {cleaned : Bool}
      (read : tree.read path = .ok bytes) (changed : (job.processed path bytes).changed = true)
      (replacing : Replacing job.token path (job.processed path bytes).newText.toUTF8 tree
        (.failed fault cleaned) now) :
    Rewriting job path tree
      (.failed path (Text.Utf8.decode bytes) (ioError path .write fault)) now

/-- Rewriting a file that is to be written comes to one of these. The file cannot be read, or its text
comes out unchanged, or the replacement that is run ends well, or it fails. -/
theorem fix_file_rewriting {job : Job} (writing : job.write = true) (path : String) (tree : Tree) :
    Rewriting job path tree (fixFile job path tree).1 (fixFile job path tree).2 := by
  cases read : tree.read path with
  | error fault =>
    rw [fix_file_unread read]
    exact .unread fault
  | ok bytes =>
    have after := fix_file_tree writing read
    by_cases changed : (job.processed path bytes).changed = true
    · obtain ⟨-, stage, replacing, ended⟩ :=
        replace_goes job.token path (job.processed path bytes).newText.toUTF8 tree
      rw [after, if_pos changed]
      generalize replaced : replace job.token path (job.processed path bytes).newText.toUTF8 tree =
        replacement at replacing ended
      cases stage with
      | done =>
        have done := Option.some.inj ended
        rw [fix_file_settled writing read fun _ => by rw [replaced, ← done]]
        exact .written read changed replacing
      | failed fault cleaned =>
        have failed := Option.some.inj ended
        rw [fix_file_refused writing read changed (by rw [replaced, ← failed])]
        exact .unwritten read changed replacing
      | begun | writing | written | ready | failing => cases ended
    · rw [after, if_neg changed, fix_file_settled writing read fun still => absurd still changed]
      exact .unchanged read (Bool.eq_false_iff.mpr changed)

/-- What holds of replacing the contents of a path in a tree, wherever it is cut off and whichever operation
fails, and of rewriting the file at the path. -/
structure Atomic (job : Job) (path : String) (content : ByteArray) (tree : Tree) : Prop where
  between : ∀ {stage now}, Replacing job.token path content tree stage now →
    now.ReadsAs tree path ∨ ∃ entry place, tree.Replaced path content now entry place
  replaced : ∀ {now}, Replacing job.token path content tree .done now →
    ∃ entry place, tree.Replaced path content now entry place
  restored : ∀ {fault now}, Replacing job.token path content tree (.failed fault true) now → now = tree
  operates : (replace job.token path content tree).Goes job.token path content tree
  rewritten : ∀ {outcome now}, Rewriting job path tree outcome now →
    now.ReadsAs tree path ∧ (outcome.changed = false ∨ outcome.error.isSome) ∨
      now.read path = .ok outcome.newText.toUTF8 ∧ outcome.error = none
  rewrites : job.write = true →
    Rewriting job path tree (fixFile job path tree).1 (fixFile job path tree).2

/-- Rewriting a file leaves its path as it was, or its path holds the new text. The cases are those of
rewriting, and a replacement that is done holds the new text. -/
theorem Rewriting.left_or_written {job : Job} {path : String} {tree now : Tree} {outcome : Outcome}
    (rewriting : Rewriting job path tree outcome now)
    (unused : tree.Unused (temporaryPath job.token path)) :
    now.ReadsAs tree path ∧ (outcome.changed = false ∨ outcome.error.isSome) ∨
      now.read path = .ok outcome.newText.toUTF8 ∧ outcome.error = none := by
  cases rewriting with
  | unread fault => exact .inl ⟨Tree.reads_as_refl tree path, .inl rfl⟩
  | unchanged _ same => exact .inl ⟨Tree.reads_as_refl tree path, .inl same⟩
  | @written bytes _ read changed replacing =>
    obtain ⟨entry, place, replaced⟩ := replacing.holds unused
    refine .inr ⟨(replaced.reads ?_).1, process_changed changed⟩
    exact Tree.file_of_read read replaced.seen
  | unwritten _ _ replacing => exact .inl ⟨replacing.reads_as unused (by rintro ⟨⟩), .inl rfl⟩

/-- A path's contents are replaced at once or not at all when the name of the new file is unused. Each
part of the statement is read off what holds at the stages of a replacement. -/
theorem replacement_atomic (job : Job) (path : String) (content : ByteArray) (tree : Tree)
    (unused : tree.Unused (temporaryPath job.token path)) : Atomic job path content tree where
  between {stage now} replacing := by
    by_cases done : stage = .done
    · subst done
      exact .inr (replacing.holds unused)
    · exact .inl (replacing.reads_as unused done)
  replaced replacing := replacing.holds unused
  restored replacing := replacing.holds unused
  operates := replace_goes job.token path content tree
  rewritten rewriting := rewriting.left_or_written unused
  rewrites writing := fix_file_rewriting writing path tree

/-- The contents of a link that leads to a file are replaced, and its target keeps its own; or the new file
is made with no bytes yet, and neither written on nor removed, and the link reads as before. -/
theorem link_replaced_atomically :
    assorted.Unused (temporaryPath relabellingJob.token "/l") ∧
      Atomic relabellingJob "/l" "b".toUTF8 assorted ∧
      ((replace "t" "/l" "b".toUTF8 assorted).final assorted).entries =
        [(["l"], .file "b".toUTF8 0o600), (["f"], .file "a".toUTF8 0o600),
          (["g"], .file "a".toUTF8 0o644), (["c"], .link "c"), (["d"], .directory)] ∧
      ∃ now fault, Replacing "t" "/l" "b".toUTF8 assorted (.failed fault false) now ∧
        now.read (temporaryPath "t" "/l") = .ok .empty ∧ now.read "/l" = .ok "a".toUTF8 := by
  have unused : assorted.Unused (temporaryPath relabellingJob.token "/l") := by decide +kernel
  refine ⟨unused, replacement_atomic relabellingJob "/l" "b".toUTF8 assorted unused, rfl, ?_⟩
  have seen : assorted.inspect "/l" = .ok (.file "a".toUTF8 0o600) := rfl
  have started : Replacing "t" "/l" "b".toUTF8 assorted (.writing 0o600) assorted :=
    Replacing.begun.step (.seen seen)
  have part := started.step (.part .empty 0o600 rfl)
  have failing := part.step (.fails rfl ⟨.noEntry, "write", []⟩ _)
  exact ⟨_, _, failing.step (.left _ ⟨.noEntry, "rm", []⟩ _), rfl, rfl⟩

end Codemod
