import Codemod.Proofs.FileSchema
import Codemod.Proofs.Numerals
import Codemod.Proofs.Verdict
import Mathlib.Data.List.Induction

/-!
# Layers of a configuration

A configuration is made of the defaults and three layers: the file, the environment and the command line.
The fixes and the number of passes are taken, one without regard to the other, from the highest layer that
gives them; the patterns of the file to skip are added to the default ones.

A file or a variable that cannot be used refuses the run, also where a higher layer gives the same value.
What the command line gives has been read before it gets here and is taken as it is: its number of passes
is the only one that may be zero.
-/
namespace Codemod.Config

open Files

variable {layers : List Layer} {config : Config} {layer : Layer}

/-- The value of the highest layer that gives one, of layers from the lowest to the highest. -/
def highest? {α : Type} (value : Layer → Option α) (layers : List Layer) : Option α :=
  layers.reverse.findSome? value

/-- A layer over others comes before them. -/
theorem highest_concat {α : Type} (value : Layer → Option α) (layers : List Layer) (layer : Layer) :
    highest? value (layers ++ [layer]) = (value layer).or (highest? value layers) := by
  rw [highest?, List.reverse_concat, List.findSome?_cons, highest?]
  cases value layer with
  | none => rfl
  | some result => rfl

/-- The highest of three layers that gives a value, the three spelled out. -/
theorem highest_three {α : Type} (value : Layer → Option α) (low middle high : Layer) :
    highest? value [low, middle, high] = ((value high).or (value middle)).or (value low) := by
  rw [← Option.or_none (o := value low), Option.or_assoc]
  exact (highest_concat value [low, middle] high).trans
    (congrArg _ ((highest_concat value [low] middle).trans (congrArg _ (highest_concat value [] low))))

/-- The configuration with layers over it: single values from the highest layer that gives them, patterns
to skip from all. -/
theorem foldl_merge (layers : List Layer) (config : Config) :
    layers.foldl merge config =
      { fixes := (highest? (·.fixes) layers).or config.fixes
        extensions := (highest? (·.extensions) layers).getD config.extensions
        ignore := config.ignore ++ layers.flatMap (·.ignore.getD [])
        maxPasses := (highest? (·.maxPasses) layers).getD config.maxPasses } := by
  -- The last merge is that of the highest layer, so the induction takes layers off at the end.
  induction layers using List.reverseRecOn with
  | nil => simp [highest?]
  | append_singleton layers layer inductionHypothesis =>
    rw [List.foldl_concat, inductionHypothesis, merge]
    simp [highest_concat, Option.or_assoc, Option.getD_or]

/-- Layers that give positive numbers of passes keep the number positive. -/
theorem one_le_of_foldl_merge (given : ∀ layer ∈ layers, ∀ n, layer.maxPasses = some n → 1 ≤ n)
    (start : 1 ≤ config.maxPasses) : 1 ≤ (layers.foldl merge config).maxPasses := by
  induction layers generalizing config with
  | nil => exact start
  | cons layer layers inductionHypothesis =>
    obtain ⟨first, others⟩ := List.forall_mem_cons.mp given
    apply inductionHypothesis others
    rw [merge]
    cases passes : layer.maxPasses with
    | none => exact start
    | some n => exact first n passes

/-! ## The file -/

/-- A path leads to a file that holds nothing, or a mapping with the values of a layer. -/
inductive Gives (tree : Tree) (path : String) : Layer → Prop
  | nothing {bytes} (read : tree.read path = .ok bytes)
      (parsed : Yaml.parse (Text.Utf8.decode bytes) = .ok none ∨
        Yaml.parse (Text.Utf8.decode bytes) = .ok (some .null)) : Gives tree path {}
  | entries {bytes entries layer} (read : tree.read path = .ok bytes)
      (parsed : Yaml.parse (Text.Utf8.decode bytes) = .ok (some (.record entries)))
      (conforms : Conforms entries layer) : Gives tree path layer

/-- A path leads to no file that can be read, to a text that is not one document, or to a document with
something else than a mapping that gives the values of a layer. -/
inductive Unusable (tree : Tree) (path : String) : Prop
  | unreadable {fault} (failed : tree.read path = .error fault)
  | unparsed {bytes fault} (read : tree.read path = .ok bytes)
      (failed : Yaml.parse (Text.Utf8.decode bytes) = .error fault)
  | nonconforming {bytes value} (read : tree.read path = .ok bytes)
      (parsed : Yaml.parse (Text.Utf8.decode bytes) = .ok (some value)) (something : value ≠ .null)
      (wrong : ∀ entries layer, value = .record entries → ¬ Conforms entries layer)

variable {tree : Tree} {path : String}

/-- A file that gives a layer loads as this layer: it is read, parsed and found valid. -/
theorem Gives.load (gives : Gives tree path layer) : loadFile tree path = .ok layer := by
  cases gives with
  | nothing read parsed =>
    rw [loadFile, read]
    rcases parsed with none | null
    · simp [parseFileText, none, Except.mapError]
    · simp [parseFileText, null, checkValue, Except.mapError]
  | entries read parsed conforms =>
    have checked : checkValue (.record _) = .ok layer := check_value_iff.mpr (.inr ⟨_, rfl, conforms⟩)
    rw [loadFile, read]
    simp [parseFileText, parsed, checked, Except.mapError]

/-- A file that cannot be used fails to load, at the step that finds it so. Reading, parsing and checking
come in this order, and each case is one of them. -/
theorem Unusable.load (unusable : Unusable tree path) : ∃ error, loadFile tree path = .error error := by
  cases unusable with
  | unreadable failed =>
    rw [loadFile, failed]
    exact ⟨_, rfl⟩
  | unparsed read failed =>
    rw [loadFile, read]
    simp [parseFileText, failed, Except.mapError]
  | @nonconforming _ value read parsed something wrong =>
    rw [loadFile, read]
    cases checked : checkValue value with
    | error issues => simp [parseFileText, parsed, checked, Except.mapError]
    | ok layer =>
      rcases check_value_iff.mp checked with ⟨null, _⟩ | ⟨entries, record, conforms⟩
      · exact absurd null something
      · exact absurd conforms (wrong entries layer record)

/-- A file that can be used gives a layer. It is read, parsed and checked, and each of these works or
does not. -/
theorem unusable_or_gives (tree : Tree) (path : String) :
    Unusable tree path ∨ ∃ layer, Gives tree path layer := by
  cases read : tree.read path with
  | error fault => exact .inl (.unreadable read)
  | ok bytes =>
    match parsed : Yaml.parse (Text.Utf8.decode bytes) with
    | .error fault => exact .inl (.unparsed read parsed)
    | .ok none => exact .inr ⟨{}, .nothing read (.inl parsed)⟩
    | .ok (some value) =>
      by_cases null : value = .null
      · exact .inr ⟨{}, .nothing read (.inr (null ▸ parsed))⟩
      · by_cases conforms : ∃ entries layer, value = .record entries ∧ Conforms entries layer
        · obtain ⟨entries, layer, rfl, conforms⟩ := conforms
          exact .inr ⟨layer, .entries read parsed conforms⟩
        · refine .inl (.nonconforming read parsed null ?_)
          exact fun entries layer record right => conforms ⟨entries, layer, record, right⟩

/-- No configuration file is named. An empty name names none. -/
def Unnamed (sources : Sources) : Prop :=
  ∀ given, sources.file = some given → given = ""

/-- A configuration file is named that is not there. -/
def Missing (sources : Sources) : Prop :=
  ∃ given, sources.file = some given ∧ given ≠ "" ∧
    sources.tree.leads (Path.resolve sources.cwd given) = false

/-- The path of the configuration file: the named one, or the first of two known names that is there. -/
inductive Chosen (sources : Sources) : String → Prop
  | named {given} (named : sources.file = some given) (nonempty : given ≠ "")
      (there : sources.tree.leads (Path.resolve sources.cwd given) = true) :
      Chosen sources (Path.resolve sources.cwd given)
  | first (unnamed : Unnamed sources)
      (there : sources.tree.leads (Path.join sources.cwd "tsfix.config.yaml") = true) :
      Chosen sources (Path.join sources.cwd "tsfix.config.yaml")
  | second (unnamed : Unnamed sources)
      (absent : sources.tree.leads (Path.join sources.cwd "tsfix.config.yaml") = false)
      (there : sources.tree.leads (Path.join sources.cwd "tsfix.config.yml") = true) :
      Chosen sources (Path.join sources.cwd "tsfix.config.yml")

/-- No configuration file is named and none of the known names is there. -/
structure Fileless (sources : Sources) : Prop where
  unnamed : Unnamed sources
  first : sources.tree.leads (Path.join sources.cwd "tsfix.config.yaml") = false
  second : sources.tree.leads (Path.join sources.cwd "tsfix.config.yml") = false

variable {sources : Sources}

/-- Without a name the known names are looked for. -/
theorem Unnamed.find (unnamed : Unnamed sources) :
    findFile sources.tree sources.file sources.cwd =
      .ok ((fileNames.map (Path.join sources.cwd)).find? sources.tree.leads) := by
  have none : sources.file.filter (· ≠ "") = none := by
    rw [Option.filter_eq_none_iff]
    intro given named
    simp [unnamed given named]
  rw [findFile, none]

/-- The file of a name that is not empty must be there. -/
theorem find_file_named {given : String} (nonempty : given ≠ "") (tree : Tree) (cwd : String) :
    findFile tree (some given) cwd =
      if tree.leads (Path.resolve cwd given) then .ok (some (Path.resolve cwd given))
      else .error (.config "config file not found" (some (Path.resolve cwd given))) := by
  have kept : (some given).filter (· ≠ "") = some given := by
    simp [Option.filter, nonempty]
  rw [findFile, kept]

/-- A file that was asked for and is not there is an error, and no other file is sought. -/
theorem Missing.find (missing : Missing sources) :
    ∃ error, findFile sources.tree sources.file sources.cwd = .error error := by
  obtain ⟨given, named, nonempty, absent⟩ := missing
  simp [named, find_file_named nonempty, absent]

/-- The file that was chosen is the one that the search finds, whether it was asked for by path or stands
where a file is looked for. -/
theorem Chosen.find (chosen : Chosen sources path) :
    findFile sources.tree sources.file sources.cwd = .ok (some path) := by
  cases chosen with
  | named named nonempty there => simp [named, find_file_named nonempty, there]
  | first unnamed there => simp [unnamed.find, fileNames, there]
  | second unnamed absent there => simp [unnamed.find, fileNames, absent, there]

/-- Without a file asked for and without one in the directory, the search finds none, which is no error. -/
theorem Fileless.find (fileless : Fileless sources) :
    findFile sources.tree sources.file sources.cwd = .ok none := by
  simp [fileless.unnamed.find, fileNames, fileless.first, fileless.second]

/-- A configuration file is missing, there is none, or one is chosen. A file that is named is there or
not; without a name the two usual names are tried in order. -/
theorem find_cases (sources : Sources) :
    Missing sources ∨ Fileless sources ∨ ∃ path, Chosen sources path := by
  by_cases unnamed : Unnamed sources
  · cases first : sources.tree.leads (Path.join sources.cwd "tsfix.config.yaml") with
    | true => exact .inr (.inr ⟨_, .first unnamed first⟩)
    | false =>
      cases second : sources.tree.leads (Path.join sources.cwd "tsfix.config.yml") with
      | true => exact .inr (.inr ⟨_, .second unnamed first second⟩)
      | false => exact .inr (.inl ⟨unnamed, first, second⟩)
  · obtain ⟨given, named, nonempty⟩ : ∃ given, sources.file = some given ∧ given ≠ "" := by
      simpa [Unnamed] using unnamed
    cases there : sources.tree.leads (Path.resolve sources.cwd given) with
    | true => exact .inr (.inr ⟨_, .named named nonempty there⟩)
    | false => exact .inl ⟨given, named, nonempty, there⟩

/-- The layer of the configuration file, which gives nothing when there is none. -/
inductive FileGives (sources : Sources) : Layer → Prop
  | none (fileless : Fileless sources) : FileGives sources {}
  | file {path : String} {layer : Layer} (chosen : Chosen sources path)
      (gives : Gives sources.tree path layer) : FileGives sources layer

/-! ## The environment -/

/-- A variable has a value that is not empty. -/
def Given (environment : Environment) (name value : String) : Prop :=
  environment.lookup name = some value ∧ value ≠ ""

/-- A variable that is given gives what its value means. -/
inductive VariableGives {α : Type} (environment : Environment) (name : String)
    (means : String → α → Prop) : Option α → Prop
  | unset (absent : ∀ value, ¬ Given environment name value) : VariableGives environment name means none
  | set {value result} (given : Given environment name value) (meant : means value result) :
      VariableGives environment name means (some result)

/-- The variables give fixes and a number of passes, and nothing else. -/
structure VariablesGive (environment : Environment) (layer : Layer) : Prop where
  fixes : VariableGives environment "TSFIX_FIXES" (fun value names => names = Naming.parseNames value)
    layer.fixes
  maxPasses : VariableGives environment "TSFIX_MAX_PASSES" SpellsPositive layer.maxPasses
  extensions : layer.extensions = none
  ignore : layer.ignore = none

/-- The number of passes is given by something else than a positive whole number in decimal. -/
def Misspelt (environment : Environment) : Prop :=
  ∃ value, Given environment "TSFIX_MAX_PASSES" value ∧ ∀ n, ¬ SpellsPositive value n

variable {environment : Environment}

/-- A variable has a value exactly where the environment gives it one that is not blank. -/
theorem setting_eq_some_iff {name value : String} :
    setting? environment name = some value ↔ Given environment name value := by
  simp [setting?, Given, Option.filter_eq_some_iff]

/-- A variable counts as unset exactly where no value is given for it. -/
theorem setting_eq_none_iff {name : String} :
    setting? environment name = none ↔ ∀ value, ¬ Given environment name value := by
  simp [setting?, Given]

/-- A number of passes that cannot be read refuses the environment. -/
theorem Misspelt.load (misspelt : Misspelt environment) :
    ∃ error, ofEnvironment environment = .error error := by
  obtain ⟨value, given, wrong⟩ := misspelt
  rw [ofEnvironment, setting_eq_some_iff.mpr given]
  cases taken : parsePositive value "TSFIX_MAX_PASSES" with
  | error error => exact ⟨error, by simp [taken, bind, Except.bind]⟩
  | ok n => exact absurd (parse_positive_iff.mp taken) (wrong n)

/-- The variables are read as what they give, unless the number of passes is misspelt. Each of the two
variables is unset or given; the fixes can always be read. -/
theorem misspelt_or_gives (environment : Environment) :
    Misspelt environment ∨
      ∃ layer, VariablesGive environment layer ∧ ofEnvironment environment = .ok layer := by
  have fixes : VariableGives environment "TSFIX_FIXES" (fun value names => names = Naming.parseNames value)
      ((setting? environment "TSFIX_FIXES").map Naming.parseNames) := by
    cases setting : setting? environment "TSFIX_FIXES" with
    | none => exact .unset (setting_eq_none_iff.mp setting)
    | some value => exact .set (setting_eq_some_iff.mp setting) rfl
  rw [ofEnvironment]
  cases setting : setting? environment "TSFIX_MAX_PASSES" with
  | none =>
    refine .inr ⟨_, ?_, rfl⟩
    exact ⟨fixes, .unset (setting_eq_none_iff.mp setting), rfl, rfl⟩
  | some value =>
    have given := setting_eq_some_iff.mp setting
    cases taken : parsePositive value "TSFIX_MAX_PASSES" with
    | ok n =>
      refine .inr ⟨{ fixes := (setting? environment "TSFIX_FIXES").map Naming.parseNames
                     maxPasses := some n }, ?_, ?_⟩
      · exact ⟨fixes, .set given (parse_positive_iff.mp taken), rfl, rfl⟩
      · simp only [taken]
        rfl
    | error error =>
      refine .inl ⟨value, given, fun n spells => ?_⟩
      cases taken.symm.trans (parse_positive_iff.mpr spells)

/-! ## All layers -/

/-- The configuration file cannot be used. -/
inductive FileRefused (sources : Sources) : Prop
  | missing (missing : Missing sources)
  | unusable {path : String} (chosen : Chosen sources path) (unusable : Unusable sources.tree path)

/-- Something that a configuration is made of cannot be used. -/
inductive Refused (sources : Sources) : Prop
  | file (refused : FileRefused sources)
  | environment (misspelt : Misspelt sources.environment)

/-- The configuration that the layers over the defaults give together. -/
def together (file environment overrides : Layer) : Config :=
  { fixes := (overrides.fixes.or environment.fixes).or file.fixes
    extensions := file.extensions.getD defaultExtensions
    ignore := defaultIgnore ++ file.ignore.getD []
    maxPasses := ((overrides.maxPasses.or environment.maxPasses).or file.maxPasses).getD defaultMaxPasses }

/-- What loading a configuration comes to. -/
structure Loads (sources : Sources) : Prop where
  refused : (∃ error, load sources = .error error) ↔ Refused sources
  refusal : ∀ error, load sources = .error error → ∃ message source, error = .config message source
  layered : ∀ config, load sources = .ok config → ∃ file environment, FileGives sources file ∧
    VariablesGive sources.environment environment ∧ config = together file environment sources.overrides
  positive : ∀ config, load sources = .ok config → sources.overrides.maxPasses ≠ some 0 → 1 ≤ config.maxPasses

/-- The layers over the defaults. Of what the command line gives only the fixes and the number of passes
are taken. -/
def stack (file environment overrides : Layer) : List Layer :=
  [file, environment, { fixes := overrides.fixes, maxPasses := overrides.maxPasses }]

/-- A file that is missing or unusable refuses the whole configuration, whatever the other layers give. -/
theorem FileRefused.load (refused : FileRefused sources) : ∃ error, Config.load sources = .error error := by
  cases refused with
  | missing missing =>
    obtain ⟨error, failed⟩ := missing.find
    exact ⟨error, by simp only [Config.load, layers, failed, bind, Except.bind, Except.map]⟩
  | unusable chosen unusable =>
    obtain ⟨error, failed⟩ := unusable.load
    exact ⟨error, by simp only [Config.load, layers, chosen.find, failed, bind, Except.bind, Except.map]⟩

/-- The layer of the file goes below that of the environment. Where there is no file its layer is empty,
and the stack is the same. -/
theorem FileGives.load {file : Layer} (gives : FileGives sources file) :
    Config.load sources = (ofEnvironment sources.environment).map fun environment =>
      (stack file environment sources.overrides).foldl merge initial := by
  have three : layers sources = (ofEnvironment sources.environment).map fun environment =>
      stack file environment sources.overrides := by
    cases gives with
    | none fileless =>
      simp only [layers, fileless.find, bind, Except.bind, pure, Except.pure]
      rfl
    | file chosen gives =>
      simp only [layers, chosen.find, gives.load, bind, Except.bind, pure, Except.pure]
      rfl
  rw [Config.load, three]
  cases ofEnvironment sources.environment with
  | error error => rfl
  | ok environment => rfl

/-- The file is refused, or gives a layer; a search that finds none gives the layer in which nothing is
said. There is no third case. -/
theorem file_refused_or_gives (sources : Sources) : FileRefused sources ∨ ∃ file, FileGives sources file := by
  rcases find_cases sources with missing | fileless | ⟨path, chosen⟩
  · exact .inl (.missing missing)
  · exact .inr ⟨_, .none fileless⟩
  · rcases unusable_or_gives sources.tree path with unusable | ⟨file, gives⟩
    · exact .inl (.unusable chosen unusable)
    · exact .inr ⟨file, .file chosen gives⟩

/-- Sources that are refused load as an error: that of the file, if it is the file that is refused, and
else that of the environment. -/
theorem Refused.load (refused : Refused sources) : ∃ error, Config.load sources = .error error := by
  cases refused with
  | file refused => exact refused.load
  | environment misspelt =>
    -- The file is read first. One that cannot be used refuses the run before the variable does.
    rcases file_refused_or_gives sources with refused | ⟨file, gives⟩
    · exact refused.load
    · obtain ⟨error, failed⟩ := misspelt.load
      exact ⟨error, by rw [gives.load, failed, Except.map]⟩

/-- A configuration is refused, or it is that of the layers given. -/
theorem refused_or_gives (sources : Sources) :
    Refused sources ∨ ∃ file environment, FileGives sources file ∧
      VariablesGive sources.environment environment ∧
      load sources = .ok ((stack file environment sources.overrides).foldl merge initial) := by
  rcases file_refused_or_gives sources with refused | ⟨file, gives⟩
  · exact .inl (.file refused)
  · rcases misspelt_or_gives sources.environment with misspelt | ⟨environment, settings, taken⟩
    · exact .inl (.environment misspelt)
    · exact .inr ⟨file, environment, gives, settings, by rw [gives.load, taken, Except.map]⟩

/-- The layers given are put together value by value. -/
theorem foldl_stack {file given overrides : Layer} (settings : VariablesGive environment given) :
    (stack file given overrides).foldl merge initial = together file given overrides := by
  rw [foldl_merge, stack]
  simp only [highest_three]
  simp [together, initial, settings.extensions, settings.ignore]

/-- A file gives a positive number of passes, if any. The value was checked to be at least one when the
file was read. -/
theorem FileGives.positive {file : Layer} (gives : FileGives sources file) {n : Nat}
    (given : file.maxPasses = some n) : 1 ≤ n := by
  cases gives with
  | none => cases given
  | file _ gives =>
    cases gives with
    | nothing => cases given
    | @entries _ entries _ read parsed conforms =>
      have passes := conforms.maxPasses
      rw [given] at passes
      generalize entries.lookup "maxPasses" = value at passes
      cases passes with
      | some means =>
        obtain ⟨_, _, _, bound, _⟩ := means
        exact bound

/-- Variables give a positive number of passes, if any. -/
theorem VariablesGive.positive {environment : Environment} {layer : Layer}
    (gives : VariablesGive environment layer) {n : Nat} (given : layer.maxPasses = some n) : 1 ≤ n := by
  have passes := gives.maxPasses
  rw [given] at passes
  cases passes with
  | set _ spells => exact spells.bounds.1

/-- Loading refuses a configuration exactly if something that it is made of cannot be used, with an error
of the configuration, and else takes each value from the highest layer that gives it. -/
theorem load_layered (sources : Sources) : Loads sources := by
  rcases refused_or_gives sources with refused | ⟨file, environment, gives, settings, loaded⟩
  · obtain ⟨error, failed⟩ := refused.load
    exact
      { refused := iff_of_true refused.load refused
        refusal := Refusing.load sources
        layered := fun config loaded => nomatch failed.symm.trans loaded
        positive := fun config loaded => nomatch failed.symm.trans loaded }
  · have unrefused : ¬ ∃ error, load sources = .error error := by
      rintro ⟨error, failed⟩
      cases loaded.symm.trans failed
    constructor
    · exact iff_of_false unrefused fun refused => unrefused refused.load
    · exact Refusing.load sources
    · intro config result
      cases loaded.symm.trans result
      exact ⟨file, environment, gives, settings, foldl_stack settings⟩
    · intro config result positive
      cases loaded.symm.trans result
      apply one_le_of_foldl_merge _ (by decide)
      intro layer within n passes
      simp only [stack, List.mem_cons, List.not_mem_nil, or_false] at within
      rcases within with rfl | rfl | rfl
      · exact gives.positive passes
      · exact settings.positive passes
      · apply Nat.one_le_iff_ne_zero.mpr
        rintro rfl
        exact positive passes

/-- A number of passes on the command line that is zero is kept. Only what the file and the environment
give is checked. -/
theorem zero_passes_kept : ∃ config,
    load { tree := {}, cwd := "/", environment := [], overrides := { maxPasses := some 0 } } = .ok config ∧
      ¬ 1 ≤ config.maxPasses := by
  refine ⟨{ initial with maxPasses := 0 }, ?_, by decide⟩
  decide +kernel

end Codemod.Config
