import Codemod.Batch
import Codemod.Proofs.Replacement

/-!
# One file

A file is read, processed and replaced when it changed. What it comes to depends
on what its path leads to and on whether its new file can be made; the tree
changes at the place of the path, when the file is written, and nowhere else.
-/
namespace Codemod

open Files

/-- Processing a text fails or settles. -/
theorem process_cases (path text : String) (fixes : List Fix) (cap : Int) :
    (∃ error, processSource path text fixes cap = .failed path text error) ∨
      ∃ driven draft, processSource path text fixes cap = .settled path text driven draft := by
  unfold processSource
  rcases Draft.parse path text with cause | draft
  · exact .inl ⟨_, rfl⟩
  · dsimp only
    rcases (FixedPoint.drive fixes cap).run draft with ⟨thrown | driven, after⟩
    · exact .inl ⟨_, rfl⟩
    · exact .inr ⟨driven, after, rfl⟩

/-- The outcome of a text names the path that the text was given under. -/
theorem process_path (path text : String) (fixes : List Fix) (cap : Int) :
    (processSource path text fixes cap).path = path := by
  obtain ⟨error, failed⟩ | ⟨driven, draft, settled⟩ := process_cases path text fixes cap
  · rw [failed]; rfl
  · rw [settled]; rfl

/-- A text that came out changed was processed without failure. -/
theorem process_changed {path text : String} {fixes : List Fix} {cap : Int}
    (changed : (processSource path text fixes cap).changed = true) :
    (processSource path text fixes cap).error = none := by
  obtain ⟨error, failed⟩ | ⟨driven, draft, settled⟩ := process_cases path text fixes cap
  · rw [failed] at changed
    cases changed
  · rw [settled]; rfl

section FixFile

variable {job : Job} {tree : Tree} {path : String}

/-- The outcome of the bytes of a file. -/
def Job.processed (job : Job) (path : String) (bytes : ByteArray) : Outcome :=
  processSource path (Text.Utf8.decode bytes) job.fixes job.cap

/-- The outcome of a path by what it leads to and where its new file would stand. -/
def Job.verdict (job : Job) (path : String) (found : Except Cause (Place × Entry))
    (free : Except Cause Place) : Outcome :=
  match found with
  | .ok (_, .file bytes _) =>
    if (job.processed path bytes).changed then
      match free with
      | .ok _ => job.processed path bytes
      | .error cause => .failed path (Text.Utf8.decode bytes)
          (ioError path .write (refusal (temporaryPath job.token path) cause))
    else job.processed path bytes
  | .ok _ => .failed path "" (ioError path .read
      { cause := .isDirectory, operation := "read", paths := [] })
  | .error cause => .failed path "" (ioError path .read
      { cause, operation := "open", paths := [path] })

/-- The place that a path's changed file takes, and the file, when it is written. -/
def Job.replaces (job : Job) (tree : Tree) (path : String) : Option (Place × Entry) :=
  match tree.find path true, tree.locate path false,
      tree.locate (temporaryPath job.token path) true with
  | .ok (_, .file bytes mode), .ok place, .ok _ =>
    if (job.processed path bytes).changed then
      some (place, .file (job.processed path bytes).newText.toUTF8 mode)
    else none
  | _, _, _ => none

/-- A file that is to be written was found through links; its own place and the place of the new file are
known; and what is written there is the text that processing it gave, with the mode that it had. -/
theorem replaces_some {place : Place} {entry : Entry}
    (replaced : job.replaces tree path = some (place, entry)) :
    ∃ file bytes mode fresh, tree.find path true = .ok (file, .file bytes mode) ∧
      tree.locate path false = .ok place ∧
      tree.locate (temporaryPath job.token path) true = .ok fresh ∧
      (job.processed path bytes).changed = true ∧
      entry = .file (job.processed path bytes).newText.toUTF8 mode := by
  unfold Job.replaces at replaced
  split at replaced
  · rename_i file bytes mode there fresh found placed free
    split at replaced
    · rename_i changed
      cases replaced
      exact ⟨file, bytes, mode, fresh, found, placed, free, changed, rfl⟩
    · cases replaced
  · cases replaced

/-- Reading a path gives the bytes of the file that it leads to. -/
theorem read_eq (tree : Tree) (path : String) :
    tree.read path = match tree.find path true with
      | .ok (_, .file bytes _) => .ok bytes
      | .ok _ => .error { cause := .isDirectory, operation := "read", paths := [] }
      | .error cause => .error { cause, operation := "open", paths := [path] } := by
  unfold Tree.read
  rcases tree.find path true with cause | ⟨place, entry⟩
  · rfl
  · cases entry <;> rfl

/-- A file that can be read is processed, and replaced when it changed. Nothing is written for a file
that came out as it was. -/
theorem fix_file_read (writing : job.write = true) {bytes : ByteArray}
    (read : tree.read path = .ok bytes) :
    fixFile job path tree =
      if (job.processed path bytes).changed then
        let replacement :=
          replace job.token path (job.processed path bytes).newText.toUTF8 tree
        match replacement.result with
        | .ok () => (job.processed path bytes, replacement.final tree)
        | .error fault => (.failed path (Text.Utf8.decode bytes) (ioError path .write fault),
            replacement.final tree)
      else (job.processed path bytes, tree) := by
  unfold fixFile
  rw [read, writing]
  rfl

/-- A changed file that cannot be written is reported with the text that was read. The outcome of the
fixes is dropped, and the failure to write stands in its place. -/
theorem fix_file_refused (writing : job.write = true) {bytes : ByteArray}
    (read : tree.read path = .ok bytes) (changed : (job.processed path bytes).changed = true)
    {fault : Fault}
    (refused : (replace job.token path (job.processed path bytes).newText.toUTF8 tree).result =
      .error fault) :
    (fixFile job path tree).1 =
      .failed path (Text.Utf8.decode bytes) (ioError path .write fault) := by
  rw [fix_file_read writing read]
  revert changed refused
  generalize job.processed path bytes = processed
  intro changed refused
  simp only [changed, if_true, refused]

/-- A file that is unchanged or is written comes to what processing its text comes to. In both cases the
outcome of processing is handed on as it is. -/
theorem fix_file_settled (writing : job.write = true) {bytes : ByteArray}
    (read : tree.read path = .ok bytes)
    (written : (job.processed path bytes).changed = true →
      (replace job.token path (job.processed path bytes).newText.toUTF8 tree).result = .ok ()) :
    (fixFile job path tree).1 = job.processed path bytes := by
  rw [fix_file_read writing read]
  revert written
  generalize job.processed path bytes = processed
  intro written
  cases changed : processed.changed with
  | false => simp
  | true => simp only [if_true, written changed]

/-- Only the replacement of a changed file changes the tree. Reading and processing leave it alone. -/
theorem fix_file_tree (writing : job.write = true) {bytes : ByteArray}
    (read : tree.read path = .ok bytes) :
    (fixFile job path tree).2 =
      if (job.processed path bytes).changed then
        (replace job.token path (job.processed path bytes).newText.toUTF8 tree).final tree
      else tree := by
  rw [fix_file_read writing read]
  generalize job.processed path bytes = processed
  cases processed.changed with
  | false => rfl
  | true =>
    simp only [if_true]
    cases (replace job.token path processed.newText.toUTF8 tree).result <;> rfl

/-- A file that cannot be read is reported, and nothing changes. -/
theorem fix_file_unread {fault : Fault} (unread : tree.read path = .error fault) :
    fixFile job path tree = (.failed path "" (ioError path .read fault), tree) := by
  unfold fixFile
  rw [unread]

/-- What a file comes to depends on what its path leads to and where its new file would stand, and
the tree changes at most at the place of the path. -/
theorem fix_file_spec (writing : job.write = true)
    (unused : tree.Unused (temporaryPath job.token path)) :
    (fixFile job path tree).1 =
        job.verdict path (tree.find path true) (tree.locate (temporaryPath job.token path) true) ∧
      ∀ other, (fixFile job path tree).2.at? other =
        match job.replaces tree path with
        | some (place, entry) => if other = place then some entry else tree.at? other
        | none => tree.at? other := by
  have reading := read_eq tree path
  unfold Job.verdict Job.replaces
  rcases found : tree.find path true with cause | ⟨file, entry⟩
  · rw [found] at reading
    rw [fix_file_unread reading]
    exact ⟨rfl, fun _ => rfl⟩
  · cases entry with
    | directory =>
      rw [found] at reading
      rw [fix_file_unread reading]
      exact ⟨rfl, fun _ => rfl⟩
    | link =>
      rw [found] at reading
      rw [fix_file_unread reading]
      exact ⟨rfl, fun _ => rfl⟩
    | file bytes mode =>
      rw [found] at reading
      rw [fix_file_read writing reading]
      obtain ⟨place, placed, _⟩ := Tree.locate_leads_on found
      rw [placed]
      rcases free : tree.locate (temporaryPath job.token path) true with cause | fresh
      · dsimp only
        generalize job.processed path bytes = processed
        obtain ⟨failed, kept⟩ := replace_refused unused found free processed.newText.toUTF8
        cases changed : processed.changed with
        | false => simp
        | true => simp only [if_true, failed, kept, implies_true, and_self]
      · dsimp only
        generalize job.processed path bytes = processed
        obtain ⟨replaced, written⟩ :=
          replace_replaced unused found placed free processed.newText.toUTF8
        cases changed : processed.changed with
        | false => simp
        | true => simpa only [if_true, replaced, true_and] using written

/-- What becomes of a path is told under that path. Each of its cases names the path that it was asked
about. -/
theorem verdict_path (job : Job) (path : String) (found : Except Cause (Place × Entry))
    (free : Except Cause Place) : (job.verdict path found free).path = path := by
  have processed : ∀ bytes, (job.processed path bytes).path = path :=
    fun bytes => process_path path _ job.fixes job.cap
  unfold Job.verdict
  rcases found with cause | ⟨place, entry⟩
  · rfl
  · cases entry with
    | directory => rfl
    | link => rfl
    | file bytes mode =>
      dsimp only
      split
      · rcases free with cause | fresh
        · rfl
        · exact processed bytes
      · exact processed bytes

/-- The outcome of a file names its path, as the verdict on it does. -/
theorem fix_file_path (writing : job.write = true)
    (unused : tree.Unused (temporaryPath job.token path)) :
    (fixFile job path tree).1.path = path := by
  rw [(fix_file_spec writing unused).1, verdict_path]

/-- A file that is written is processed without failure and came out changed. A place is written only
after the fixes came to an end, and the outcome is theirs. -/
theorem fix_file_replaces (writing : job.write = true)
    (unused : tree.Unused (temporaryPath job.token path)) {place : Place} {entry : Entry}
    (replaced : job.replaces tree path = some (place, entry)) :
    (fixFile job path tree).1.changed = true ∧ (fixFile job path tree).1.error = none := by
  obtain ⟨file, bytes, mode, fresh, found, _, free, changed, _⟩ := replaces_some replaced
  have outcome : (fixFile job path tree).1 = job.processed path bytes := by
    rw [(fix_file_spec writing unused).1, found, free]
    unfold Job.verdict
    dsimp only
    rw [if_pos changed]
  rw [outcome]
  exact ⟨changed, process_changed changed⟩

/-- A file that came out changed is written, with its new text and its old permission bits. The cases are
those of the verdict on a file: what cannot be found, is no file, cannot be written or came out unchanged
does not count as changed. -/
theorem fix_file_changed (writing : job.write = true)
    (unused : tree.Unused (temporaryPath job.token path))
    (changed : (fixFile job path tree).1.changed = true) :
    ∃ file bytes mode place, tree.find path true = .ok (file, .file bytes mode) ∧
      tree.locate path false = .ok place ∧ job.replaces tree path =
        some (place, .file (fixFile job path tree).1.newText.toUTF8 mode) := by
  rw [(fix_file_spec writing unused).1] at changed ⊢
  unfold Job.verdict at changed ⊢
  unfold Job.replaces
  rcases found : tree.find path true with cause | ⟨file, entry⟩
  · rw [found] at changed
    cases changed
  · rw [found] at changed
    cases entry with
    | directory => cases changed
    | link => cases changed
    | file bytes mode =>
      obtain ⟨place, placed, _⟩ := Tree.locate_leads_on found
      refine ⟨file, bytes, mode, place, rfl, placed, ?_⟩
      rw [placed]
      rcases free : tree.locate (temporaryPath job.token path) true with cause | fresh <;>
        rw [free] at changed
      · dsimp only at changed
        generalize job.processed path bytes = processed at changed
        cases differs : processed.changed with
        | true => simp [differs, Outcome.failed] at changed
        | false => simp [differs] at changed
      · dsimp only at changed ⊢
        generalize job.processed path bytes = processed at changed ⊢
        cases differs : processed.changed with
        | true => simp only [if_true]
        | false => simp [differs] at changed

end FixFile

end Codemod
