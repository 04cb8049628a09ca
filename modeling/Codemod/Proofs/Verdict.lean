import Codemod.Proofs.Preview
import Codemod.Proofs.Settling

/-!
# The exit code of a request

A request is trusted by its exit code. It is zero when the configuration resolves, every fix that is asked
for is registered, every path can be inspected, nothing that was processed failed and the run was not
stopped before its last file; and else it is one. There is no exit code when a directory is to be searched
and one of the patterns for that cannot be used: the request fails with the fault of the pattern, before any
file is touched.

A request that cannot be prepared changes nothing, does not look at the standard input, prints nothing and
gives one message. The standard input is processed as one text, however it arrives in pieces.
-/
namespace Codemod

open Files

/-- The fixes that a configuration asks for: those of the given names, or all. -/
def Registry.chosen (registry : Registry) : Option (List String) → List Fix
  | none => registry.all
  | some names => registry.all.filter (names.contains ·.name)

/-- Names are looked up once each. -/
theorem Registry.mem_distinct {names : List String} {name : String} :
    name ∈ Registry.distinct names ↔ name ∈ names := by
  have same : Registry.distinct names = FixedPoint.addNames [] names := rfl
  rw [same, FixedPoint.mem_add_names]
  simp

/-- Fixes are selected exactly when all their names are registered. The names that are not registered are
collected, and there are none or some. -/
theorem Registry.select_cases (registry : Registry) (names : List String) :
    (∀ name ∈ names, registry.has name = true) ∧
        registry.select names = .ok (registry.chosen (some names)) ∨
      (∃ name ∈ names, registry.has name = false) ∧
        ∃ unknown offers, registry.select names = .error (.unknownFixes unknown offers) := by
  rw [Registry.select]
  split
  · rename_i none
    refine .inl ⟨?_, rfl⟩
    intro name asked
    by_contra missing
    have listed : name ∈ (Registry.distinct names).filter (!registry.has ·) := by
      simp [Registry.mem_distinct, asked, Bool.eq_false_iff.mpr missing]
    rw [List.isEmpty_iff.mp none] at listed
    exact absurd listed List.not_mem_nil
  · rename_i some
    refine .inr ⟨?_, _, _, rfl⟩
    obtain ⟨name, listed⟩ := List.exists_mem_of_ne_nil _ (mt List.isEmpty_iff.mpr some)
    obtain ⟨asked, missing⟩ := List.mem_filter.mp listed
    exact ⟨name, Registry.mem_distinct.mp asked, by simpa using missing⟩

namespace Command

variable {options : Options} {around : Surroundings} {paths : List String} {tree : Tree}

/-- The configuration of a request, from its file, the environment and the options. -/
def configuration (options : Options) (around : Surroundings) (tree : Tree) : Except Error Config := do
  let overrides ← options.layer
  Config.load
    { tree, cwd := around.cwd, environment := around.environment, file := options.config, overrides }

/-- What a request is prepared to do when its configuration resolves and every fix that it asks for is
registered. -/
structure Prepares (options : Options) (around : Surroundings) (tree : Tree) (plan : Plan) : Prop where
  resolves : configuration options around tree = .ok plan.config
  registered : ∀ names, plan.config.fixes = some names →
    ∀ name ∈ names, around.registry.has name = true
  fixes : plan.fixes = around.registry.chosen plan.config.fixes

end Command

/-- A computation that fails with a configuration that cannot be used, if it fails. -/
def Config.Refusing {α : Type} (result : Except Error α) : Prop :=
  ∀ error, result = .error error → ∃ message source, error = .config message source

namespace Config.Refusing

variable {α β : Type}

/-- What succeeds does not fail in another way. -/
theorem ok (value : α) : Refusing (.ok value) := by
  intro error failed
  cases failed

/-- A configuration error is one. -/
theorem config (message : String) (source : Option String) :
    Refusing (.error (.config message source) : Except Error α) := by
  intro error failed
  cases failed
  exact ⟨message, source, rfl⟩

/-- Steps that fail with a configuration error only do so together. -/
theorem bind {result : Except Error α} {next : α → Except Error β} (first : Refusing result)
    (second : ∀ value, Refusing (next value)) : Refusing (result >>= next) := by
  cases result with
  | error cause =>
    intro error failed
    cases failed
    exact first cause rfl
  | ok value => exact second value

/-- A number that cannot be read, or that is not positive, is a configuration error. -/
theorem positive (value source : String) : Refusing (Config.parsePositive value source) := by
  rw [Config.parsePositive]
  split
  · split
    · exact ok _
    · exact config _ _
  · exact config _ _

/-- The options fail to give a layer only over the number of passes. -/
theorem layer (options : Command.Options) : Refusing options.layer := by
  rw [Command.Options.layer]
  split
  · exact ok _
  · exact bind (positive _ _) fun _ => ok _

/-- The environment fails to give a layer only over the number of passes. -/
theorem environment (environment : Config.Environment) :
    Refusing (Config.ofEnvironment environment) := by
  rw [Config.ofEnvironment]
  split
  · exact ok _
  · exact bind (positive _ _) fun _ => ok _

/-- Looking for the file fails only where a file was asked for and is not there. -/
theorem file (tree : Tree) (named : Option String) (cwd : String) :
    Refusing (Config.findFile tree named cwd) := by
  rw [Config.findFile]
  split
  · dsimp only
    split
    · exact ok _
    · exact config _ _
  · exact ok _

/-- A file fails to load only with a configuration error, whether it cannot be read, is no valid text or
breaks the schema. -/
theorem load_file (tree : Tree) (path : String) : Refusing (Config.loadFile tree path) := by
  rw [Config.loadFile]
  split
  · exact config _ _
  · rename_i bytes _
    cases Config.parseFileText (Text.Utf8.decode bytes) with
    | error message => exact config _ _
    | ok layer => exact ok _

/-- Resolving the configuration fails only with a configuration error, since each of its steps does. They
are taken one after another, and what fails first is the answer. -/
theorem load (sources : Config.Sources) : Refusing (Config.load sources) := by
  have layers : Refusing (Config.layers sources) := by
    rw [Config.layers]
    apply bind (file _ _ _)
    intro found
    dsimp only
    split
    · apply bind (load_file _ _)
      intro layer
      exact bind (environment _) fun _ => ok _
    · apply bind (ok _)
      intro layer
      exact bind (environment _) fun _ => ok _
  rw [Config.load]
  cases loaded : Config.layers sources with
  | error cause =>
    intro error failed
    cases failed
    exact layers cause loaded
  | ok layers => exact ok _

end Config.Refusing

namespace Command

variable {options : Options} {around : Surroundings} {paths : List String} {tree : Tree}

/-- A plan is made from the configuration. -/
theorem plan_eq (options : Options) (around : Surroundings) (tree : Tree) :
    plan options around tree = do
      let config ← configuration options around tree
      let fixes ← match config.fixes with
        | some names => around.registry.select names
        | none => pure around.registry.all
      return { config, fixes } := by
  rw [plan, configuration]
  cases options.layer with
  | error error => rfl
  | ok overrides => rfl

/-- A failure to prepare a request: its configuration cannot be used, or a fix that it asks for is not
registered. -/
inductive Misuse : Error → Prop where
  | config (message : String) (source : Option String) : Misuse (.config message source)
  | unknownFixes (names : List String) (offers : List (String × List String)) :
    Misuse (.unknownFixes names offers)

/-- A request is prepared, or its preparation fails for one of the two reasons. The configuration
resolves or does not; and if it does, the fixes that it asks for are all registered or not. -/
theorem plan_cases (options : Options) (around : Surroundings) (tree : Tree) :
    (∃ prepared, Prepares options around tree prepared ∧ plan options around tree = .ok prepared) ∨
      (∀ prepared, ¬Prepares options around tree prepared) ∧
        ∃ error, Misuse error ∧ plan options around tree = .error error := by
  rw [plan_eq]
  cases resolved : configuration options around tree with
  | error error =>
    refine .inr ⟨?_, error, ?_, rfl⟩
    · intro prepared prepares
      cases resolved.symm.trans prepares.resolves
    · have refusing : Config.Refusing (configuration options around tree) :=
        .bind (.layer options) fun overrides => .load _
      obtain ⟨message, source, rfl⟩ := refusing error resolved
      exact .config message source
  | ok config =>
    cases asked : config.fixes with
    | none =>
      refine .inl ⟨⟨config, around.registry.all⟩, ⟨resolved, ?_, ?_⟩, ?_⟩
      · intro names named
        cases asked.symm.trans named
      · dsimp only
        rw [asked]
        rfl
      · simp only [bind, Except.bind, pure, Except.pure, asked]
    | some names =>
      obtain ⟨registered, selected⟩ | ⟨⟨name, listed, missing⟩, unknown, offers, refused⟩ :=
        around.registry.select_cases names
      · refine .inl ⟨⟨config, around.registry.chosen (some names)⟩, ⟨resolved, ?_, ?_⟩, ?_⟩
        · intro others named
          cases asked.symm.trans named
          exact registered
        · dsimp only
          rw [asked]
        · simp only [bind, Except.bind, pure, Except.pure, asked, selected]
      · refine .inr ⟨?_, .unknownFixes unknown offers, .unknownFixes unknown offers, ?_⟩
        · intro prepared prepares
          have same : config = prepared.config := Except.ok.inj (resolved.symm.trans prepares.resolves)
          have has := prepares.registered names (same ▸ asked) name listed
          rw [missing] at has
          cases has
        · simp only [bind, Except.bind, asked, refused]

end Command

namespace Files

variable {tree : Tree} {endings ignore paths : List String}

/-- Paths that were resolved are absolute. -/
theorem resolved_absolute {base : String} :
    ∀ path ∈ paths.map (Path.resolve base), Path.isAbsolute path = true :=
  List.forall_mem_map.mpr fun path _ => is_absolute_resolve base path

/-- Nothing is reported as leading nowhere exactly when all paths can be inspected. -/
theorem discover_unreachable (absolute : ∀ path ∈ paths, Path.isAbsolute path = true)
    {found : Discovery} (discovered : discover tree endings ignore paths = .ok found) :
    found.unreachable = [] ↔ ∀ path ∈ paths, ∃ entry, tree.inspect path = .ok entry := by
  rw [← List.map_eq_nil_iff, reported_of_discovered discovered, List.filterMap_eq_nil_iff]
  refine forall₂_congr fun path member => ?_
  rw [reportOf, inspect_from_absolute (absolute path member)]
  cases tree.inspect path <;> simp

/-- A search is refused only where a directory is to be searched, for a pattern that cannot be used. The
search fails as one of the paths does, and a path that is no directory does not fail. -/
theorem discover_refused (absolute : ∀ path ∈ paths, Path.isAbsolute path = true)
    {fault : Glob.Fault} (refused : discover tree endings ignore paths = .error fault) :
    ∃ path ∈ paths, tree.inspect path = .ok .directory ∧
      filesBelow tree endings ignore path = .error fault := by
  obtain ⟨path, present, failed⟩ := map_error (refused_of_discover refused)
  refine ⟨path, present, ?_⟩
  obtain ⟨_, _, found⟩ | ⟨inspected, found⟩ | ⟨_, _, _, found⟩ :=
    files_at_by_cases (finder "/" tree) "/" tree endings ignore path
  all_goals
    rw [found] at failed
  · cases failed
  · rw [inspect_from_absolute (absolute path present)] at inspected
    refine ⟨inspected, ?_⟩
    rw [filesBelow]
    cases below : filesBelowBy (finder "/" tree) endings ignore path with
    | error fault =>
      rw [below] at failed
      cases failed
      rfl
    | ok files =>
      rw [below] at failed
      cases failed
  · cases failed

end Files

/-- A run is cancelled exactly when it is told to stop before its last file. The induction is on the
files, over the number after which to stop. -/
theorem run_cancelled_iff (job : Job) (stopAfter : Option Nat) (paths : List String) (tree : Tree) :
    (runFiles job stopAfter paths tree).cancelled = true ↔
      ∃ count, stopAfter = some count ∧ count < paths.length := by
  induction paths generalizing stopAfter tree with
  | nil => simp [runFiles]
  | cons path rest inductionHypothesis =>
    rw [runFiles]
    split
    · rename_i stopped
      subst stopped
      simp
    · rename_i going
      rw [inductionHypothesis]
      cases stopAfter with
      | none => simp
      | some count =>
        have positive : count ≠ 0 := fun zero => going (congrArg some zero)
        simp only [Option.map_some, Option.some.injEq, exists_eq_left', List.length_cons]
        omega

namespace Command

variable {options : Options} {around : Surroundings} {paths : List String} {tree : Tree}

/-- The text of the standard input: what all its bytes stand for, whichever pieces they came in. -/
def inputText (chunks : List ByteArray) : String :=
  String.ofList (Text.Utf8.decodeFrom .idle (chunks.flatMap (·.toList)))

/-- Pieces are put together before they are read as text. Their bytes are put in a row, whatever the
pieces are. -/
theorem decode_chunks (chunks : List ByteArray) :
    Text.Utf8.decode (chunks.foldl (· ++ ·) ByteArray.empty) = inputText chunks := by
  have joined (before : ByteArray) :
      (chunks.foldl (· ++ ·) before).toList = before.toList ++ chunks.flatMap (·.toList) := by
    induction chunks generalizing before with
    | nil => simp
    | cons chunk rest inductionHypothesis =>
      rw [List.foldl_cons, inductionHypothesis, List.flatMap_cons, ← List.append_assoc]
      congr 1
      simp [Text.Utf8.bytes_eq]
  rw [Text.Utf8.decode, joined, inputText]
  congr 2
  simp [Text.Utf8.bytes_eq]

/-- The outcome of the standard input. -/
def streamed (plan : Plan) (chunks : List ByteArray) : Outcome :=
  processSource inputLabel (inputText chunks) plan.fixes plan.config.maxPasses

/-- What a search for the files of a request comes to. -/
def searched (plan : Plan) (around : Surroundings) (paths : List String) (tree : Tree) :
    Except Glob.Fault Discovery :=
  discover tree plan.config.extensions plan.config.ignore (paths.map (Path.resolve around.cwd))

/-- What a request needs to succeed. -/
structure Succeeds (options : Options) (around : Surroundings) (paths : List String) (tree : Tree)
    (chunks : List ByteArray) (plan : Plan) : Prop where
  /-- The configuration resolves, and every fix that is asked for is registered. -/
  prepared : Prepares options around tree plan
  /-- Every path can be inspected. -/
  inspected : ∀ path ∈ paths, ∃ entry, tree.inspect (Path.resolve around.cwd path) = .ok entry
  /-- Without paths, the outcome of the standard input has no error. -/
  streamed : paths = [] → (streamed plan chunks).error = none
  /-- The outcome of no file that is processed has one. -/
  processed : paths ≠ [] → ∀ found, searched plan around paths tree = .ok found →
    ∀ outcome ∈ (runFiles (plan.work around.token !options.diff) around.stopAfter found.files
      tree).outcomes, outcome.error = none
  /-- The run is not told to stop before its last file. -/
  finished : paths ≠ [] → ∀ found, searched plan around paths tree = .ok found →
    ∀ count, around.stopAfter = some count → found.files.length ≤ count

/-- A request for which a directory cannot be searched, for a pattern that cannot be used. -/
def Refused (options : Options) (around : Surroundings) (paths : List String) (tree : Tree)
    (fault : Glob.Fault) : Prop :=
  paths ≠ [] ∧ ∃ plan, Prepares options around tree plan ∧
    searched plan around paths tree = .error fault

/-- The outcomes of paths that could not be inspected all have errors. Each of them stands for a path
that could not be inspected. -/
theorem failures_clean (found : Discovery) :
    (∀ outcome ∈ found.failures, outcome.error = none) ↔ found.unreachable = [] := by
  constructor
  · intro clean
    cases listed : found.unreachable with
    | nil => rfl
    | cons first rest =>
      have present : first.outcome ∈ found.failures := by
        rw [Discovery.failures, listed, List.map_cons]
        exact List.mem_cons_self
      cases clean first.outcome present
  · intro none outcome present
    rw [Discovery.failures, none] at present
    exact absurd present List.not_mem_nil

/-- The exit code after the files that were found: zero when every path could be inspected, no outcome
has an error and the run was not stopped before its last file, and else one. -/
theorem run_found_code (plan : Plan) (diff : Bool) (around : Surroundings) (found : Discovery)
    (tree : Tree) :
    ((runFound plan diff around found tree).result = .ok 0 ↔
      found.unreachable = [] ∧
      (∀ outcome ∈ (runFiles (plan.work around.token !diff) around.stopAfter found.files
        tree).outcomes, outcome.error = none) ∧
      ∀ count, around.stopAfter = some count → found.files.length ≤ count) ∧
    ((runFound plan diff around found tree).result = .ok 0 ∨
      (runFound plan diff around found tree).result = .ok 1) := by
  let run := runFiles (plan.work around.token !diff) around.stopAfter found.files tree
  have coded : (runFound plan diff around found tree).result =
      .ok (if run.cancelled || (found.failures ++ run.sorted).any (·.error.isSome) then 1 else 0) :=
    rfl
  have unstopped : run.cancelled = false ↔
      ∀ count, around.stopAfter = some count → found.files.length ≤ count := by
    rw [← Bool.not_eq_true, run_cancelled_iff]
    simp
  have clean : (found.failures ++ run.sorted).any (·.error.isSome) = false ↔
      found.unreachable = [] ∧ ∀ outcome ∈ run.outcomes, outcome.error = none := by
    rw [← failures_clean]
    simp only [List.any_eq_false, List.forall_mem_append, Run.sorted, List.mem_mergeSort,
      Option.isSome_iff_ne_none, ne_eq, not_not]
  rw [coded]
  cases failed : run.cancelled || (found.failures ++ run.sorted).any (·.error.isSome) with
  | false =>
    obtain ⟨going, fine⟩ := Bool.or_eq_false_iff.mp failed
    obtain ⟨reached, processed⟩ := clean.mp fine
    exact ⟨iff_of_true rfl ⟨reached, processed, unstopped.mp going⟩, .inl rfl⟩
  | true =>
    refine ⟨iff_of_false (by simp) ?_, .inr rfl⟩
    rintro ⟨reached, processed, going⟩
    have fine := clean.mpr ⟨reached, processed⟩
    rw [unstopped.mpr going, fine] at failed
    cases failed

/-- A request that is prepared is carried out, and told about. -/
theorem fix_prepared {plan : Plan} (planned : Command.plan options around tree = .ok plan) :
    fix options around paths tree =
      { carryOut plan options around paths tree with
        messages := plan.announcement :: (carryOut plan options around paths tree).messages } := by
  simp only [fix, planned]

/-- A request is prepared in one way. -/
theorem Prepares.unique {plan other : Plan} (one : Prepares options around tree plan)
    (also : Prepares options around tree other) : plan = other := by
  obtain ⟨config, fixes⟩ := plan
  obtain ⟨otherConfig, otherFixes⟩ := other
  have same : config = otherConfig := Except.ok.inj (one.resolves.symm.trans also.resolves)
  subst same
  have chosen : fixes = otherFixes := one.fixes.trans also.fixes.symm
  rw [chosen]

/-- What a request comes to. -/
structure Verdict (options : Options) (around : Surroundings) (paths : List String) (tree : Tree)
    (chunks : List ByteArray) (report : Report) : Prop where
  /-- The exit code is zero for a request that succeeds, unless there is none. -/
  succeeded : (∀ fault, ¬Refused options around paths tree fault) → ∀ plan,
    Succeeds options around paths tree chunks plan → report.result = .ok 0
  /-- Any other request has the exit code one. -/
  failed : (∀ fault, ¬Refused options around paths tree fault) →
    (∀ plan, ¬Succeeds options around paths tree chunks plan) → report.result = .ok 1
  /-- There is none when a directory among the paths cannot be searched. Then nothing is done. -/
  refused : ∀ fault, Refused options around paths tree fault →
    report.result = .error (.pattern fault) ∧ report.tree = tree ∧ report.output = "" ∧
      ∃ path ∈ paths, tree.inspect (Path.resolve around.cwd path) = .ok .directory
  /-- A configuration that cannot be used or a fix that is not registered: the tree stays, nothing is
  printed, and one error is told. -/
  misused : (∀ plan, ¬Prepares options around tree plan) → ∃ error, Misuse error ∧
    report = { result := .ok 1, output := "", messages := [message .error (refusal error)], tree }
  /-- In that case the standard input is not looked at. -/
  unconsumed : (∀ plan, ¬Prepares options around tree plan) → ∀ input,
    fix options { around with input } paths tree = report
  /-- Without paths the tree stays, and the output is the new text of the standard input, or its
  difference, and nothing when it has an error. -/
  streams : paths = [] → report.tree = tree ∧ ∀ plan, Prepares options around tree plan →
    report.output =
      if (streamed plan chunks).error.isSome then ""
      else if options.diff then (streamed plan chunks).diff inputLabel Patch.defaultContext
      else (streamed plan chunks).newText
  /-- It does not matter in which pieces the standard input arrives. -/
  pieces : ∀ others : List ByteArray, others.flatMap (·.toList) = chunks.flatMap (·.toList) →
    fix options { around with input := .ok others } paths tree = report

/-- The report about the standard input. The text is processed as that of a file is, and nothing is
written to the tree. -/
theorem run_stream_eq (plan : Plan) (diff : Bool) (tree : Tree) {chunks : List ByteArray}
    (readable : around.input = .ok chunks) :
    runStream plan diff around tree =
      if (streamed plan chunks).error.isSome then
        { result := .ok 1, messages := outcomeMessages inputLabel (streamed plan chunks), tree }
      else
        { result := .ok 0, messages := outcomeMessages inputLabel (streamed plan chunks), tree
          output :=
            if diff then (streamed plan chunks).diff inputLabel Patch.defaultContext
            else (streamed plan chunks).newText } := by
  simp only [runStream, readable, decode_chunks]
  rfl

/-- A request that cannot be prepared ends with one message, whatever the standard input holds. -/
theorem fix_unprepared (unprepared : ∀ plan, ¬Prepares options around tree plan) :
    ∃ error, Misuse error ∧ ∀ input, fix options { around with input } paths tree =
      { result := .ok 1, output := "", messages := [message .error (refusal error)], tree } := by
  obtain ⟨plan, prepares, _⟩ | ⟨_, error, misuse, refused⟩ := plan_cases options around tree
  · exact absurd prepares (unprepared plan)
  · refine ⟨error, misuse, ?_⟩
    intro input
    have also : plan options { around with input } tree = .error error := refused
    simp only [fix, also]

/-- The plan of a request that is prepared. -/
theorem Prepares.planned {plan : Plan} (prepares : Prepares options around tree plan) :
    Command.plan options around tree = .ok plan := by
  obtain ⟨other, also, planned⟩ | ⟨unprepared, _⟩ := plan_cases options around tree
  · rw [planned, also.unique prepares]
  · exact absurd prepares (unprepared plan)

variable {plan : Plan} {chunks : List ByteArray}

/-- A request without paths: its exit code and what it prints follow from the outcome of the standard
input, and the tree stays. -/
theorem fix_streams (prepares : Prepares options around tree plan) (readable : around.input = .ok chunks) :
    (fix options around [] tree).result =
        .ok (if (streamed plan chunks).error.isSome then 1 else 0) ∧
      (fix options around [] tree).tree = tree ∧
      (fix options around [] tree).output =
        if (streamed plan chunks).error.isSome then ""
        else if options.diff then (streamed plan chunks).diff inputLabel Patch.defaultContext
        else (streamed plan chunks).newText := by
  have carried : carryOut plan options around [] tree = runStream plan options.diff around tree := rfl
  rw [fix_prepared prepares.planned, carried, run_stream_eq plan options.diff tree readable]
  dsimp only
  split
  · exact ⟨rfl, rfl, rfl⟩
  · exact ⟨rfl, rfl, rfl⟩

/-- A request whose files cannot be searched for comes to nothing but the fault. Nothing is processed
before the search is over, and it is only below a directory that names are matched. -/
theorem fix_refused (prepares : Prepares options around tree plan) (named : paths ≠ [])
    {fault : Glob.Fault} (refused : searched plan around paths tree = .error fault) :
    (fix options around paths tree).result = .error (.pattern fault) ∧
      (fix options around paths tree).tree = tree ∧ (fix options around paths tree).output = "" ∧
      ∃ path ∈ paths, tree.inspect (Path.resolve around.cwd path) = .ok .directory := by
  obtain ⟨place, listed, directory, _⟩ := discover_refused resolved_absolute refused
  obtain ⟨path, given, rfl⟩ := List.mem_map.mp listed
  have some : paths.isEmpty = false := by simpa using named
  have carried : carryOut plan options around paths tree =
      { result := .error (.pattern fault), tree } := by
    rw [searched] at refused
    simp [carryOut, some, runPaths, refused]
  rw [fix_prepared prepares.planned, carried]
  exact ⟨rfl, rfl, rfl, path, given, directory⟩

/-- The standard input matters for its bytes only, not for its pieces. They are joined before anything
looks at them. -/
theorem fix_pieces {others : List ByteArray} (readable : around.input = .ok chunks)
    (same : others.flatMap (·.toList) = chunks.flatMap (·.toList)) :
    fix options { around with input := .ok others } paths tree = fix options around paths tree := by
  have outcome (plan : Plan) : streamed plan others = streamed plan chunks := by
    rw [streamed, streamed, inputText, inputText, same]
  have carried (plan : Plan) : carryOut plan options { around with input := .ok others } paths tree =
      carryOut plan options around paths tree := by
    rw [carryOut, carryOut]
    split
    · rw [run_stream_eq plan options.diff tree rfl, run_stream_eq plan options.diff tree readable,
        outcome]
    · rfl
  have planned : Command.plan options { around with input := .ok others } tree =
      Command.plan options around tree := rfl
  rw [fix, fix, planned]
  cases Command.plan options around tree with
  | error error => rfl
  | ok plan => simp only [carried]

/-- The exit code of a request that is prepared and whose files, if it has any, can be searched for.
Without paths the code is that of the input; with paths it is whether any of the outcomes, of files or of
paths that could not be inspected, is a failure. -/
theorem fix_code (prepares : Prepares options around tree plan) (readable : around.input = .ok chunks)
    (searchable : ∀ fault, ¬Refused options around paths tree fault) :
    ((fix options around paths tree).result = .ok 0 ↔
      Succeeds options around paths tree chunks plan) ∧
    ((fix options around paths tree).result = .ok 0 ∨
      (fix options around paths tree).result = .ok 1) := by
  by_cases none : paths = []
  · subst none
    obtain ⟨code, _⟩ := fix_streams prepares readable
    rw [code]
    cases failed : (streamed plan chunks).error with
    | none =>
      refine ⟨iff_of_true rfl ⟨prepares, ?_, fun _ => failed, ?_, ?_⟩, .inl rfl⟩
      · intro path impossible
        exact absurd impossible List.not_mem_nil
      · intro impossible
        exact absurd rfl impossible
      · intro impossible
        exact absurd rfl impossible
    | some error =>
      refine ⟨iff_of_false (by simp) ?_, .inr rfl⟩
      intro succeeds
      cases failed.symm.trans (succeeds.streamed rfl)
  · cases discovered : searched plan around paths tree with
    | error fault => exact absurd ⟨none, plan, prepares, discovered⟩ (searchable fault)
    | ok found =>
      have report : (fix options around paths tree).result =
          (runFound plan options.diff around found tree).result := by
        have carried : fix options around paths tree = _ :=
          fix_found ⟨prepares.planned, discovered⟩ none options.diff
        rw [carried]
      obtain ⟨zero, one⟩ := run_found_code plan options.diff around found tree
      rw [report]
      refine ⟨zero.trans ?_, one⟩
      rw [discover_unreachable resolved_absolute discovered, List.forall_mem_map]
      constructor
      · rintro ⟨inspected, processed, finished⟩
        refine ⟨prepares, inspected, fun empty => absurd empty none, ?_, ?_⟩
        · intro _ other also
          cases discovered.symm.trans also
          exact processed
        · intro _ other also
          cases discovered.symm.trans also
          exact finished
      · intro succeeds
        exact ⟨succeeds.inspected, succeeds.processed none found discovered,
          succeeds.finished none found discovered⟩

/-- What a request comes to, for all options, surroundings with a standard input that can be read, paths
and trees. -/
theorem fix_verdict (options : Options) (around : Surroundings) (paths : List String) (tree : Tree)
    (chunks : List ByteArray) (readable : around.input = .ok chunks) :
    Verdict options around paths tree chunks (fix options around paths tree) where
  succeeded := by
    intro searchable plan succeeds
    exact (fix_code succeeds.prepared readable searchable).1.mpr succeeds
  failed := by
    intro searchable fails
    obtain ⟨plan, prepares, _⟩ | ⟨unprepared, _⟩ := plan_cases options around tree
    · obtain ⟨zero, one⟩ := fix_code prepares readable searchable
      exact one.resolve_left fun code => fails plan (zero.mp code)
    · obtain ⟨error, _, report⟩ := fix_unprepared unprepared
      exact congrArg Report.result (report around.input)
  refused := by
    rintro fault ⟨named, plan, prepares, refused⟩
    exact fix_refused prepares named refused
  misused := by
    intro unprepared
    obtain ⟨error, misuse, report⟩ := fix_unprepared unprepared
    exact ⟨error, misuse, report around.input⟩
  unconsumed := by
    intro unprepared input
    obtain ⟨error, _, report⟩ := fix_unprepared unprepared
    exact (report input).trans (report around.input).symm
  streams := by
    rintro rfl
    refine ⟨?_, fun plan prepares => (fix_streams prepares readable).2.2⟩
    obtain ⟨plan, prepares, _⟩ | ⟨unprepared, _⟩ := plan_cases options around tree
    · exact (fix_streams prepares readable).2.1
    · obtain ⟨error, _, report⟩ := fix_unprepared unprepared
      exact congrArg Report.tree (report around.input)
  pieces := by
    intro others same
    exact fix_pieces readable same

/-- The standard input is given the new name, and the exit code is zero. The general verdict is applied
to this request, which is prepared and has no paths. -/
theorem relabelled_input_succeeds :
    (fix {} relabellingSurroundings [] entangled).result = .ok 0 ∧
      (fix {} relabellingSurroundings [] entangled).tree = entangled := by
  have verdict := fix_verdict {} relabellingSurroundings [] entangled ["a".toUTF8] rfl
  have planned : plan {} relabellingSurroundings entangled = _ := plan_relabelling (by decide +kernel)
  obtain ⟨plan, prepares, same⟩ | ⟨_, error, _, unplanned⟩ :=
    plan_cases {} relabellingSurroundings entangled
  · cases planned.symm.trans same
    refine ⟨verdict.succeeded ?_ _ ⟨prepares, ?_, ?_, ?_, ?_⟩, (verdict.streams rfl).1⟩
    · rintro fault ⟨named, _⟩
      exact named rfl
    · intro path impossible
      exact absurd impossible List.not_mem_nil
    · intro _
      decide +kernel
    · intro named
      exact absurd rfl named
    · intro named
      exact absurd rfl named
  · cases planned.symm.trans unplanned

/-- A directory with a configuration one of whose patterns becomes no expression that can be used. -/
def misconfigured : Tree where
  entries := [(["tsfix.config.yaml"],
      .file "extensions: ['.ts']\nignore: ['[[:alpha:]]-*.ts']\n".toUTF8 0o644),
    (["a.ts"], .file "let a = 1;\n".toUTF8 0o644)]

/-- A request without an exit code: the configuration resolves and asks for no fix by name, the path can be
inspected and the run is not told to stop, but the directory cannot be searched. -/
theorem misconfigured_without_code :
    (∃ config, configuration {} relabellingSurroundings misconfigured = .ok config ∧
      config.fixes = none) ∧
    (∃ entry, misconfigured.inspect (Path.resolve relabellingSurroundings.cwd ".") = .ok entry) ∧
    relabellingSurroundings.stopAfter = none ∧
    ∀ code, (fix {} relabellingSurroundings ["."] misconfigured).result ≠ .ok code := by
  refine ⟨?_, ⟨.directory, rfl⟩, rfl, ?_⟩
  · have checked : ((configuration {} relabellingSurroundings misconfigured).toOption.map
        (·.fixes)) = some none := by decide +kernel
    cases resolved : configuration {} relabellingSurroundings misconfigured with
    | error error =>
      rw [resolved] at checked
      cases checked
    | ok config =>
      rw [resolved] at checked
      exact ⟨config, rfl, Option.some.inj checked⟩
  · have checked : (fix {} relabellingSurroundings ["."] misconfigured).result.isOk = false := by
      decide +kernel
    intro code coded
    rw [coded] at checked
    cases checked

end Command

end Codemod
