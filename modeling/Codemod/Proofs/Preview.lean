import Codemod.Command.Fix
import Codemod.Proofs.Discovering
import Codemod.Proofs.Encoding
import Codemod.Proofs.Endings
import Codemod.Proofs.Stopping

/-!
# Differences as a preview

A request that asks for differences tells the user what the request that changes files tells, and
prints the differences that the latter would make. One writes while it goes and the other one never
does; both read each file as it was before the run. The standard input is no part of this: without
paths the result itself is printed.

The conditions are those under which files are processed each on its own.
-/
namespace Codemod

open Files

/-- What a text is reported to have been is that text. -/
theorem process_old_text (path text : String) (fixes : List Fix) (cap : Int) :
    (processSource path text fixes cap).oldText = text := by
  obtain ⟨error, failed⟩ | ⟨driven, draft, settled⟩ := process_cases path text fixes cap
  · rw [failed]; rfl
  · rw [settled]; rfl

/-- A processed text counts as changed exactly if it comes out as another text. -/
theorem process_changed_iff (path text : String) (fixes : List Fix) (cap : Int) :
    (processSource path text fixes cap).changed = true ↔
      (processSource path text fixes cap).newText ≠ text := by
  obtain ⟨error, failed⟩ | ⟨driven, draft, settled⟩ := process_cases path text fixes cap
  · simp [failed, Outcome.failed]
  · simp [settled, Outcome.settled]

namespace Files

/-- What is found is put together from what the paths lead to. -/
theorem discover_listed {tree : Tree} {endings ignore paths : List String}
    {lists : List (Except Unreachable (List String))}
    (listed : paths.mapM (filesAt tree endings ignore) = .ok lists) :
    discover tree endings ignore paths = .ok
      { files := sortedDistinct (lists.flatMap filesOf)
        unreachable := lists.filterMap fun
          | .ok _ => none
          | .error unreachable => some unreachable } :=
  discover_by_listed listed

/-- Files are found in the order of their paths. -/
theorem discover_ordered {tree : Tree} {endings ignore paths : List String} {found : Discovery}
    (discovered : discover tree endings ignore paths = .ok found) :
    found.files.Pairwise fun left right => Text.unitsLe left right = true := by
  obtain ⟨lists, _, files, _⟩ := listed_of_discovered discovered
  rw [files]
  exact sorted_distinct_ordered _

/-- The difference between what a file holds in two trees, under a name; empty when it holds the same
bytes. -/
def Tree.difference (before after : Tree) (path name : String) : String :=
  match before.read path, after.read path with
  | .ok old, .ok new =>
    if old.toList = new.toList then ""
    else Patch.unified name (Text.Utf8.decode old) (Text.Utf8.decode new) Patch.defaultContext
  | _, _ => ""

end Files

/-- The work of a prepared request, with or without writing. -/
def Command.Plan.work (plan : Command.Plan) (token : String) (write : Bool) : Job :=
  { fixes := plan.fixes, cap := plan.config.maxPasses, write, token }

/-- Every file that comes out changed can be written. -/
def Writable (job : Job) (paths : List String) (tree : Tree) : Prop :=
  ∀ path ∈ paths, ∀ bytes, tree.read path = .ok bytes →
    (job.processed path bytes).changed = true →
    (replace job.token path (job.processed path bytes).newText.toUTF8 tree).result = .ok ()

instance (job : Job) (paths : List String) (tree : Tree) : Decidable (Writable job paths tree) :=
  decidable_of_iff (∀ path ∈ paths, ∀ bytes ∈ (tree.read path).toOption,
      (job.processed path bytes).changed = false ∨
      (replace job.token path (job.processed path bytes).newText.toUTF8 tree).result = .ok ()) <| by
    unfold Writable
    refine forall_congr' fun path => forall_congr' fun _ => forall_congr' fun bytes =>
      imp_congr ?_ <| by rw [← Bool.not_eq_true]; exact imp_iff_not_or.symm
    cases tree.read path <;> simp [Except.toOption]

section Runs

variable {job : Job} {paths : List String} {tree : Tree}

/-- Outcomes of ordered paths are ordered as they are. -/
theorem sorted_of_ordered (job : Job) (tree : Tree)
    (ordered : paths.Pairwise fun left right => Text.unitsLe left right = true) :
    (runFiles job none paths tree).sorted = (runFiles job none paths tree).outcomes := by
  rw [← run_outcome_paths job paths tree, List.pairwise_map] at ordered
  exact List.mergeSort_of_pairwise ordered

/-- Without writing a run gives every path its outcome in the tree, which stays. -/
theorem run_idle (reading : job.write = false) (paths : List String) (tree : Tree) :
    (runFiles job none paths tree).outcomes = paths.map (fun path => (fixFile job path tree).1) ∧
      (runFiles job none paths tree).tree = tree := by
  induction paths with
  | nil => exact ⟨rfl, rfl⟩
  | cons path rest inductionHypothesis =>
    have idle : (fixFile job path tree).2 = tree := by rw [fix_file_idle reading]
    rw [run_files_cons, idle]
    exact ⟨by rw [inductionHypothesis.1]; rfl, inductionHypothesis.2⟩

/-- A file that can be written when it is changed comes to what processing its text comes to. -/
theorem fix_file_writable (writing : job.write = true) (writable : Writable job paths tree)
    {path : String} (member : path ∈ paths) :
    (fixFile job path tree).1 =
      match tree.read path with
      | .error fault => .failed path "" (ioError path .read fault)
      | .ok bytes => job.processed path bytes := by
  cases read : tree.read path with
  | error fault => rw [fix_file_unread read]
  | ok bytes => exact fix_file_settled writing read (writable path member bytes read)

/-- A path whose file is not written leads to what it led to, also when the run is over: a tree in which
the changed files were written is one in which those of the other paths were. -/
theorem After.find_unwritten {now : Tree} (after : After job tree paths now)
    (separate : Separate job.token paths tree) (untangled : Untangled job.token paths tree)
    {path : String} (member : path ∈ paths) (unwritten : job.replaces tree path = none) :
    now.find path true = tree.find path true := by
  have others : After job tree (paths.filter (· ≠ path)) now := by
    constructor
    · intro place differs
      obtain ⟨other, among, entry, replaced⟩ := after.changed place differs
      have different : other ≠ path := by
        rintro rfl
        rw [unwritten] at replaced
        cases replaced
      exact ⟨other, by simp [among, different], entry, replaced⟩
    · intro other among
      exact after.written other (List.mem_of_mem_filter among)
  exact others.find separate untangled (fun other among => List.mem_of_mem_filter among) member
    (by simp)

/-- What is shown of an outcome is the difference that the file's change makes.

A changed file holds its new text afterwards, which is not what it held before: bytes that are read as
one text are not those of another one. Any other file holds what it held. -/
theorem outcome_difference (writing : job.write = true) {now : Tree}
    (after : After job tree paths now) (separate : Separate job.token paths tree)
    (untangled : Untangled job.token paths tree) (writable : Writable job paths tree)
    {path : String} (member : path ∈ paths) (name : String) :
    (if (fixFile job path tree).1.error.isNone then
      (fixFile job path tree).1.diff name Patch.defaultContext else "") =
      tree.difference now path name := by
  have outcome := fix_file_writable writing writable member
  have unused := separate.unused path member
  cases read : tree.read path with
  | error fault =>
    rw [read] at outcome
    rw [outcome, Tree.difference, read]
    rfl
  | ok bytes =>
    rw [read] at outcome
    dsimp only at outcome
    have oldText : (job.processed path bytes).oldText = Text.Utf8.decode bytes :=
      process_old_text path _ job.fixes job.cap
    have differing := process_changed_iff path (Text.Utf8.decode bytes) job.fixes job.cap
    by_cases changed : (job.processed path bytes).changed = true
    · have succeeded : (job.processed path bytes).error = none := process_changed changed
      obtain ⟨file, held, mode, place, _, _, replaced⟩ :=
        fix_file_changed writing unused (by rw [outcome]; exact changed)
      rw [outcome] at replaced
      have stands := after.find_written untangled (fun path listed => listed) member member replaced
      have reread : now.read path = .ok (job.processed path bytes).newText.toUTF8 := by
        rw [read_eq, stands]
      have apart : bytes.toList ≠ (job.processed path bytes).newText.toUTF8.toList := by
        intro same
        have read : Text.Utf8.decode bytes =
            Text.Utf8.decode (job.processed path bytes).newText.toUTF8 := by
          rw [Text.Utf8.decode, same, Text.Utf8.decode]
        exact differing.mp changed (read.trans (Text.Utf8.decode_encode _)).symm
      rw [outcome, Tree.difference, read, reread]
      simp only [succeeded, Option.isNone_none, if_true, Outcome.diff, changed, oldText, apart,
        if_false, Text.Utf8.decode_encode]
    · have unwritten : job.replaces tree path = none := by
        cases replaced : job.replaces tree path with
        | none => rfl
        | some change =>
          have written := (fix_file_replaces writing unused replaced).1
          rw [outcome] at written
          exact absurd written changed
      have reread : now.read path = .ok bytes := by
        rw [← read, read_eq, read_eq,
          after.find_unwritten separate untangled member unwritten]
      rw [outcome, Tree.difference, read, reread]
      simp [Outcome.diff, changed]

end Runs

namespace Command

/-- What a request is prepared to do does not depend on whether differences are asked for. -/
theorem plan_diff (options : Options) (around : Surroundings) (tree : Tree) (diff : Bool) :
    plan { options with diff } around tree = plan options around tree := rfl

/-- The report about files that were found, none of which the run was told to stop at, by their
outcomes. -/
def uncutReport (plan : Plan) (diff : Bool) (around : Surroundings) (found : Discovery)
    (tree : Tree) : Report :=
  let run := runFiles (plan.work around.token !diff) none found.files tree
  let outcomes := found.failures ++ run.outcomes
  { result := .ok (if outcomes.any (·.error.isSome) then 1 else 0)
    output := String.join (outcomes.map fun outcome =>
      if diff && outcome.error.isNone then
        outcome.diff (labelOf around.cwd outcome.path) Patch.defaultContext
      else "")
    messages :=
      message .debug ("discovered " ++ toString found.files.length ++ " file(s)") ::
        outcomes.flatMap fun outcome =>
          outcomeMessages (labelOf around.cwd outcome.path) outcome
    tree := run.tree }

/-- A run over files in order that is not told to stop reports of each in that order: sorting the
outcomes leaves them as they come, and nothing is cut short. -/
theorem run_found_eq (plan : Plan) (diff : Bool) {around : Surroundings} {found : Discovery}
    (tree : Tree) (unstopped : around.stopAfter = none)
    (ordered : found.files.Pairwise fun left right => Text.unitsLe left right = true) :
    runFound plan diff around found tree = uncutReport plan diff around found tree := by
  have sorted := sorted_of_ordered (plan.work around.token !diff) tree ordered
  have finished := run_finished (plan.work around.token !diff) found.files tree
  unfold runFound uncutReport
  rw [unstopped]
  change Report.mk _ _ _ _ = _
  simp only [Plan.work] at sorted finished ⊢
  simp [sorted, finished]

/-- The files that a request with paths is carried out on. -/
def Finds (options : Options) (around : Surroundings) (paths : List String) (tree : Tree)
    (plan : Plan) (found : Discovery) : Prop :=
  Command.plan options around tree = .ok plan ∧
    discover tree plan.config.extensions plan.config.ignore (paths.map (Path.resolve around.cwd)) =
      .ok found

/-- A request with paths is prepared, and carried out on the files found. -/
theorem fix_found {options : Options} {around : Surroundings} {paths : List String} {tree : Tree}
    {plan : Plan} {found : Discovery} (finds : Finds options around paths tree plan found)
    (named : paths ≠ []) (diff : Bool) :
    fix { options with diff } around paths tree =
      { runFound plan diff around found tree with
        messages := plan.announcement :: (runFound plan diff around found tree).messages } := by
  obtain ⟨planned, discovered⟩ := finds
  have some : paths.isEmpty = false := by simpa using named
  simp [fix, plan_diff, planned, carryOut, some, runPaths, discovered]

/-- What is reported of the files found, when the request is not told to stop. -/
theorem fix_found_uncut {options : Options} {around : Surroundings} {paths : List String} {tree : Tree}
    {plan : Plan} {found : Discovery} (finds : Finds options around paths tree plan found)
    (named : paths ≠ []) (unstopped : around.stopAfter = none) (diff : Bool) :
    fix { options with diff } around paths tree =
      { uncutReport plan diff around found tree with
        messages := plan.announcement :: (uncutReport plan diff around found tree).messages } := by
  rw [fix_found finds named diff, run_found_eq plan diff tree unstopped (discover_ordered finds.2)]

/-- What the request that asks for differences shows of the request that changes files. -/
structure Previews (cwd : String) (files : List String) (tree : Tree) (shown made : Report) : Prop where
  result : shown.result = made.result
  messages : shown.messages = made.messages
  unchanged : shown.tree = tree
  silent : made.output = ""
  output : shown.output =
    String.join (files.map fun path => tree.difference made.tree path (labelOf cwd path))
  ordered : files.Pairwise fun left right => Text.unitsLe left right = true

/-- Empty texts put together are empty. -/
theorem join_empty {α : Type} (list : List α) : String.join (list.map fun _ => "") = "" := by
  induction list with
  | nil => exact String.join_nil
  | cons _ rest inductionHypothesis => rw [List.map_cons, String.join_cons, inductionHypothesis]; rfl

/-- Nothing is shown of paths that could not be inspected. -/
theorem join_failures (found : Discovery) (shown : Outcome → String) :
    String.join (found.failures.map fun outcome =>
      if outcome.error.isNone then shown outcome else "") = "" := by
  rw [Discovery.failures, List.map_map]
  exact join_empty found.unreachable

/-- The files that were found come to the same outcomes in both requests; so the same is told, and what
is shown is what is written. -/
theorem run_found_previews (plan : Plan) {around : Surroundings} {found : Discovery} {tree : Tree}
    (unstopped : around.stopAfter = none)
    (ordered : found.files.Pairwise fun left right => Text.unitsLe left right = true)
    (separate : Separate around.token found.files tree)
    (untangled : Untangled around.token found.files tree)
    (writable : Writable (plan.work around.token true) found.files tree) :
    Previews around.cwd found.files tree (runFound plan true around found tree)
      (runFound plan false around found tree) := by
  have writing : (plan.work around.token true).write = true := rfl
  obtain ⟨made, _, after⟩ := run_after writing separate untangled (after_nothing _ tree)
    (fun path listed => listed) separate.distinct
  have reading : (plan.work around.token false).write = false := rfl
  obtain ⟨shown, kept⟩ := run_idle reading found.files tree
  have agree : (runFiles (plan.work around.token false) none found.files tree).outcomes =
      (runFiles (plan.work around.token true) none found.files tree).outcomes := by
    rw [shown, made]
    refine List.map_congr_left fun path member => ?_
    rw [fix_file_idle reading, fix_file_writable writing writable member]
    rfl
  rw [run_found_eq plan true tree unstopped ordered, run_found_eq plan false tree unstopped ordered]
  simp only [uncutReport, Bool.not_true, Bool.not_false, agree]
  constructor
  case result => rfl
  case messages => rfl
  case unchanged => exact kept
  case silent =>
    simp only [Bool.false_and, Bool.false_eq_true, if_false]
    exact join_empty _
  case ordered => exact ordered
  case output =>
    simp only [Bool.true_and, List.map_append, String.join_append, join_failures, made,
      List.map_map, String.empty_append]
    refine congrArg String.join (List.map_congr_left fun path member => ?_)
    have difference := outcome_difference writing after separate untangled writable member
      (labelOf around.cwd path)
    simpa only [Function.comp, outcome_path, List.nil_append] using difference

/-- A request that asks for differences previews the one that changes files. On any tree, with paths that
are given, when the run is not told to stop, the files found do not alias and each one that comes out
changed can be written, both come to the same result and tell the same; the first one leaves the tree
alone and prints, in the order of the paths, what every file holds otherwise after the second one, which
prints nothing. -/
theorem fix_previews (options : Options) (around : Surroundings) (paths : List String) (tree : Tree)
    (named : paths ≠ []) (unstopped : around.stopAfter = none)
    (apart : ∀ plan found, Finds options around paths tree plan found →
      Separate around.token found.files tree ∧ Untangled around.token found.files tree ∧
        Writable (plan.work around.token true) found.files tree) :
    ∃ files, (∀ plan found, Finds options around paths tree plan found → files = found.files) ∧
      Previews around.cwd files tree (fix { options with diff := true } around paths tree)
        (fix { options with diff := false } around paths tree) := by
  by_cases finding : ∃ plan found, Finds options around paths tree plan found
  · obtain ⟨plan, found, finds⟩ := finding
    refine ⟨found.files, fun other also finds' => ?_, ?_⟩
    · cases finds.1.symm.trans finds'.1
      cases finds.2.symm.trans finds'.2
      rfl
    · obtain ⟨separate, untangled, writable⟩ := apart plan found finds
      obtain ⟨result, messages, unchanged, silent, output, ordered⟩ := run_found_previews plan unstopped
        (discover_ordered finds.2) separate untangled writable
      rw [fix_found finds named, fix_found finds named]
      exact ⟨result, congrArg (plan.announcement :: ·) messages, unchanged, silent, output, ordered⟩
  · -- the request ends before any file is touched
    refine ⟨[], fun plan found finds => absurd ⟨plan, found, finds⟩ finding, ?_⟩
    have some : paths.isEmpty = false := by simpa using named
    have same : fix { options with diff := true } around paths tree =
        fix { options with diff := false } around paths tree ∧
        (fix { options with diff := false } around paths tree).tree = tree ∧
        (fix { options with diff := false } around paths tree).output = "" := by
      cases planned : Command.plan options around tree with
      | error error => simp [fix, plan_diff, planned]
      | ok plan =>
        cases discovered : discover tree plan.config.extensions plan.config.ignore
            (paths.map (Path.resolve around.cwd)) with
        | ok found => exact absurd ⟨plan, found, planned, discovered⟩ finding
        | error fault => simp [fix, plan_diff, planned, carryOut, some, runPaths, discovered]
    obtain ⟨same, kept, silent⟩ := same
    exact ⟨congrArg _ same, congrArg _ same, (congrArg _ same).trans kept, silent,
      (congrArg _ same).trans (silent.trans String.join_nil.symm), .nil⟩

/-! ## A preview, and what is none -/

/-- A request in the root directory, with one fix, which gives one name in place of another. -/
def relabellingSurroundings : Surroundings where
  cwd := "/"
  environment := {}
  registry := { fixes := [relabelling] }
  input := .ok ["a".toUTF8]
  token := "t"

/-- Without options and without a configuration file all fixes run, as they do by default. -/
theorem plan_relabelling {tree : Tree}
    (loaded : Config.load { tree, cwd := "/", environment := {} } = .ok Config.initial) :
    plan {} relabellingSurroundings tree = .ok { config := .initial, fixes := [relabelling] } := by
  have load : Config.load
      { tree, cwd := relabellingSurroundings.cwd, environment := relabellingSurroundings.environment
        overrides := { fixes := Option.map Naming.parseNames none } } = .ok Config.initial := loaded
  have all : relabellingSurroundings.registry.all = [relabelling] := List.mergeSort_singleton _
  simp only [plan, Options.layer, pure, Except.pure, bind, Except.bind, load]
  rw [show Config.initial.fixes = none from rfl]
  simp only [all]

/-- The files that are found when no path is refused. The plan comes from the configuration alone, and
the files are the lists put together and sorted. -/
theorem finds_listed {tree : Tree} {paths files : List String} {lists : List (List String)}
    (loaded : Config.load { tree, cwd := "/", environment := {} } = .ok Config.initial)
    (listed : (paths.map (Path.resolve "/")).mapM
      (filesAt tree Config.initial.extensions Config.initial.ignore) = .ok (lists.map .ok))
    (sorted : sortedDistinct lists.flatten = files) :
    Finds {} relabellingSurroundings paths tree { config := .initial, fixes := [relabelling] }
      { files, unreachable := [] } := by
  refine ⟨plan_relabelling loaded, (discover_listed listed).trans ?_⟩
  have given : (lists.map Except.ok).flatMap filesOf = lists.flatten := by
    rw [List.flatMap_map, ← List.flatMap_id']
    rfl
  simp [given, sorted]

/-- The file and the link to a file in the tree of assorted entries are found by their paths. -/
theorem assorted_finds :
    Finds {} relabellingSurroundings ["l", "g"] assorted
      { config := .initial, fixes := [relabelling] } { files := ["/g", "/l"], unreachable := [] } := by
  have listed : (["l", "g"].map (Path.resolve "/")).mapM
      (filesAt assorted Config.initial.extensions Config.initial.ignore) =
      .ok ([["/l"], ["/g"]].map .ok) := by decide +kernel
  refine finds_listed (by decide +kernel) listed ?_
  rw [sortedDistinct]
  exact List.mergeSort_of_pairwise (by decide +kernel)

/-- The difference is shown of the file and of the link, both of which are files with the new name in
them after the other request. -/
theorem assorted_previews :
    ∃ made shown, made = fix {} relabellingSurroundings ["l", "g"] assorted ∧
      shown = fix { diff := true } relabellingSurroundings ["l", "g"] assorted ∧
      Previews "/" ["/g", "/l"] assorted shown made := by
  have finds := assorted_finds
  obtain ⟨files, found, previews⟩ := fix_previews {} relabellingSurroundings ["l", "g"] assorted
    (by simp) rfl (by
      intro plan found also
      cases finds.1.symm.trans also.1
      cases finds.2.symm.trans also.2
      exact ⟨by decide +kernel, by decide +kernel, by decide +kernel⟩)
  rw [found _ _ finds] at previews
  exact ⟨_, _, rfl, rfl, previews⟩

/-- A file behind a link, and another link behind which as many links stand on the way to the first one
as may be followed. -/
def entangled : Tree where
  entries := [(["k"], .link "."), (["f"], .file "a".toUTF8 0o644),
    (["p.ts"], .link (String.join (List.replicate 39 "k/") ++ "l.ts/x")), (["l.ts"], .link "f")]

/-- Both links are found in the root. The pattern of the endings is expanded by the lemma about it, and
the rest is computed. -/
theorem entangled_finds :
    Finds {} relabellingSurroundings ["."] entangled
      { config := .initial, fixes := [relabelling] }
      { files := ["/l.ts", "/p.ts"], unreachable := [] } := by
  have parts : Glob.patternParts false (endingPattern Config.defaultExtensions) =
      Config.defaultExtensions.map fun ending => ["**", "*" ++ ending] := by
    rw [Glob.patternParts, Glob.expand_default_endings]
    decide +kernel
  have parsed : Glob.Pattern.parse false (endingPattern Config.defaultExtensions) =
      (Config.defaultExtensions.map fun ending => ["**", "*" ++ ending]).mapM
        (Glob.Pattern.ofParts false) := by
    rw [Glob.Pattern.parse, parts]
    rfl
  have below : filesBelowBy (finder "/" entangled) Config.initial.extensions Config.initial.ignore "/" =
      .ok ["/p.ts", "/l.ts"] := by
    rw [show Config.initial.extensions = Config.defaultExtensions from rfl, filesBelowBy,
      if_neg (by decide)]
    simp only [finder, parsed]
    decide +kernel
  have listed : (["."].map (Path.resolve "/")).mapM
      (filesAt entangled Config.initial.extensions Config.initial.ignore) =
      .ok ([["/p.ts", "/l.ts"]].map .ok) := by
    rw [show ["."].map (Path.resolve "/") = ["/"] by decide +kernel]
    have directory : entangled.inspectFrom "/" "/" = .ok .directory := rfl
    simp [filesAt, filesAtBy, directory, below]
  refine finds_listed (by decide +kernel) listed ?_
  rw [sortedDistinct]
  exact List.mergeSort_of_pairwise (by decide +kernel)

/-- Two ways in which the requests differ: the standard input is printed with its changes, although no
differences are asked for; and with a link on the way to another one, the latter fails otherwise when a
file has taken the place of the former. -/
theorem previews_differ :
    (fix {} relabellingSurroundings [] entangled).output = "b;\n" ∧
      (∃ plan found, Finds {} relabellingSurroundings ["."] entangled plan found ∧
        Separate "t" found.files entangled ∧ Writable (plan.work "t" true) found.files entangled) ∧
      (fix { diff := true } relabellingSurroundings ["."] entangled).messages ≠
        (fix {} relabellingSurroundings ["."] entangled).messages := by
  refine ⟨by decide +kernel, ⟨_, _, entangled_finds, by decide +kernel, by decide +kernel⟩, ?_⟩
  have shown := fix_found_uncut entangled_finds (by simp) rfl true
  have made := fix_found_uncut entangled_finds (by simp) rfl false
  rw [shown, show ({} : Options) = { ({} : Options) with diff := false } from rfl, made]
  decide +kernel

/-- A file, and another one under the name that the new file of the former is given before it takes its
place. -/
def occupied : Tree where
  entries := [(["!"], .file "a".toUTF8 0o644), ([".!.t.tmp"], .file "a".toUTF8 0o644)]

/-- The request over the two files finds both, although one of them has the name of a new file. -/
theorem occupied_finds :
    Finds {} relabellingSurroundings [".!.t.tmp", "!"] occupied
      { config := .initial, fixes := [relabelling] }
      { files := ["/!", "/.!.t.tmp"], unreachable := [] } := by
  have listed : ([".!.t.tmp", "!"].map (Path.resolve "/")).mapM
      (filesAt occupied Config.initial.extensions Config.initial.ignore) =
      .ok ([["/.!.t.tmp"], ["/!"]].map .ok) := by decide +kernel
  refine finds_listed (by decide +kernel) listed ?_
  rw [sortedDistinct]
  exact List.mergeSort_of_pairwise (by decide +kernel)

/-- The name of the new file has to be unused: a file of that name among those found is gone before its
turn comes, and a request that shows differences succeeds where the other one does not. -/
theorem taken_name_unpreviewed :
    (∃ plan found, Finds {} relabellingSurroundings [".!.t.tmp", "!"] occupied plan found ∧
      (∀ path ∈ found.files, ∀ other ∈ found.files, path ≠ other →
        occupied.fileOf path ≠ occupied.fileOf other) ∧
      Untangled "t" found.files occupied ∧ Writable (plan.work "t" true) found.files occupied) ∧
      (fix { diff := true } relabellingSurroundings [".!.t.tmp", "!"] occupied).result = .ok 0 ∧
      (fix {} relabellingSurroundings [".!.t.tmp", "!"] occupied).result = .ok 1 := by
  refine ⟨⟨_, _, occupied_finds, by decide +kernel, by decide +kernel, by decide +kernel⟩, ?_⟩
  have shown := fix_found_uncut occupied_finds (by simp) rfl true
  have made := fix_found_uncut occupied_finds (by simp) rfl false
  rw [shown, show ({} : Options) = { ({} : Options) with diff := false } from rfl, made]
  decide +kernel

end Command

end Codemod
