import Codemod.Batch
import Codemod.Config.Load
import Codemod.Files.Discover
import Codemod.Log
import Codemod.Registry

/-!
# Fixing files or the standard input

Without paths, the standard input is processed and the result is written to the
standard output. With paths, files are changed in place; when differences are
asked for, nothing is written and they are printed instead. Everything else
that is told to the user goes to the log.

A request is first prepared: the configuration and the fixes are looked up, and
a mistake there ends it before any file is touched.
-/
namespace Codemod.Command

open Files

/-- The options of a request, as they were given. -/
structure Options where
  /-- The names of the fixes to run, divided by commas. -/
  fixes : Option String := none
  diff : Bool := false
  config : Option String := none
  maxPasses : Option String := none
  deriving DecidableEq, Repr, Inhabited

/-- Where a request is carried out. -/
structure Surroundings where
  cwd : String
  environment : Config.Environment
  registry : Registry
  /-- The pieces of the standard input, or why it cannot be read. -/
  input : Except String (List ByteArray)
  /-- The number of files after which the run is told to stop, if ever. -/
  stopAfter : Option Nat := none
  /-- What the names of new files beside changed ones hold. -/
  token : String

/-- What a request came to. -/
structure Report where
  /-- The exit code, or a failure that nothing expected. -/
  result : Except Error Nat
  /-- What was written to the standard output. -/
  output : String := ""
  messages : List Message := []
  tree : Tree

/-- A prepared request. -/
structure Plan where
  config : Config
  fixes : List Fix

/-- The name of the standard input in messages. -/
def inputLabel : String :=
  "<stdin>"

/-- A message of a level. -/
def message (level : Level) (text : String) : Message :=
  { level, text }

/-- The layer that the command line gives. -/
def Options.layer (options : Options) : Except Error Layer := do
  let fixes := options.fixes.map Naming.parseNames
  match options.maxPasses with
  | none => return { fixes }
  | some value => return { fixes, maxPasses := some (← Config.parsePositive value "--max-passes") }

/-- What is told to the user about a request that cannot be prepared: names that no fix has, with
the names offered for them, or a configuration that cannot be used. -/
def refusal : Error → String
  | .unknownFixes names suggestions =>
    let offers := names.filterMap fun name =>
      (suggestions.lookup name).map fun offered =>
        "  " ++ name ++ ": did you mean " ++ ", ".intercalate offered ++ "?"
    "\n".intercalate ((Error.unknownFixes names suggestions).message :: offers)
  | error => "invalid configuration: " ++ error.message

/-- Looks up the configuration and the fixes of a request. -/
def plan (options : Options) (around : Surroundings) (tree : Tree) : Except Error Plan := do
  let overrides ← options.layer
  let config ← Config.load
    { tree, cwd := around.cwd, environment := around.environment, file := options.config, overrides }
  let fixes ← match config.fixes with
    | some names => around.registry.select names
    | none => pure around.registry.all
  return { config, fixes }

/-- The message that names the fixes of a prepared request. -/
def Plan.announcement (plan : Plan) : Message :=
  let names := ", ".intercalate (plan.fixes.map (·.name))
  message .debug ("fixes: " ++ if names.isEmpty then "(none)" else names)

/-- What is told about an outcome: its failure, or its warnings and the fixes that changed it. -/
def outcomeMessages (label : String) (outcome : Outcome) : List Message :=
  match outcome.error with
  | some error => [message .error error.message]
  | none =>
    outcome.warnings.map (fun warning =>
      message .warn (label ++ ":" ++ toString warning.line ++ ":" ++ toString warning.column ++ ": "
        ++ warning.message))
      ++ if outcome.changed then
        outcome.appliedFixNames.map fun name => message .success (label ++ ": fixed " ++ name)
      else []

/-- Processes the standard input. -/
def runStream (plan : Plan) (diff : Bool) (around : Surroundings) (tree : Tree) : Report :=
  match around.input with
  | .error failure => { result := .error (.plain failure none), tree }
  | .ok chunks =>
    let text := Text.Utf8.decode (chunks.foldl (· ++ ·) ByteArray.empty)
    let outcome := processSource inputLabel text plan.fixes plan.config.maxPasses
    let messages := outcomeMessages inputLabel outcome
    if outcome.error.isSome then { result := .ok 1, messages, tree }
    else
      { result := .ok 0, messages, tree
        output := if diff then outcome.diff inputLabel Patch.defaultContext else outcome.newText }

/-- The name of a file in messages: its path from the working directory. -/
def labelOf (cwd path : String) : String :=
  match Path.relative cwd path with
  | "" => path
  | label => label

/-- Processes the files that were found. -/
def runFound (plan : Plan) (diff : Bool) (around : Surroundings) (found : Discovery) (tree : Tree) :
    Report :=
  let total := toString found.files.length
  let job : Job :=
    { fixes := plan.fixes, cap := plan.config.maxPasses, write := !diff, token := around.token }
  let run := runFiles job around.stopAfter found.files tree
  let outcomes := found.failures ++ run.sorted
  let told := outcomes.flatMap fun outcome => outcomeMessages (labelOf around.cwd outcome.path) outcome
  let shown := outcomes.map fun outcome =>
    if diff && outcome.error.isNone then
      outcome.diff (labelOf around.cwd outcome.path) Patch.defaultContext
    else ""
  let stopped := if run.cancelled then
      [message .warn ("cancelled after " ++ toString run.outcomes.length ++ " of " ++ total
        ++ " file(s)")]
    else []
  let failed := run.cancelled || outcomes.any (·.error.isSome)
  { result := .ok (if failed then 1 else 0)
    output := String.join shown
    messages := message .debug ("discovered " ++ total ++ " file(s)") :: told ++ stopped
    tree := run.tree }

/-- Processes the files that paths lead to. -/
def runPaths (plan : Plan) (diff : Bool) (around : Surroundings) (paths : List String) (tree : Tree) :
    Report :=
  let inputs := paths.map (Path.resolve around.cwd)
  match discover tree plan.config.extensions plan.config.ignore inputs with
  | .ok found => runFound plan diff around found tree
  | .error fault => { result := .error (.pattern fault), tree }

/-- Carries out a prepared request. -/
def carryOut (plan : Plan) (options : Options) (around : Surroundings) (paths : List String)
    (tree : Tree) : Report :=
  if paths.isEmpty then runStream plan options.diff around tree
  else runPaths plan options.diff around paths tree

/-- Carries out a request. -/
def fix (options : Options) (around : Surroundings) (paths : List String) (tree : Tree) : Report :=
  match plan options around tree with
  | .error error => { result := .ok 1, messages := [message .error (refusal error)], tree }
  | .ok plan =>
    let report := carryOut plan options around paths tree
    { report with messages := plan.announcement :: report.messages }

end Codemod.Command
