import Codemod.Config.File
import Codemod.Files.Tree
import Codemod.Text.Utf8

/-!
# The configuration of a run

The file is the one that is named, or the first of the known names in the
working directory; none need be there unless it is named. The environment goes
over the file and the command line over both. A value that cannot be used stops
the run even where a higher layer would replace it.
-/
namespace Codemod.Config

open Files

/-- The names of configuration files, in the order in which they are looked for. -/
def fileNames : List String :=
  ["tsfix.config.yaml", "tsfix.config.yml"]

/-- The layer that the file at a path gives. -/
def loadFile (tree : Tree) (path : String) : Except Error Layer :=
  match tree.read path with
  | .error fault => .error (.config fault.message (some path))
  | .ok bytes => (parseFileText (Text.Utf8.decode bytes)).mapError fun message =>
      .config message (some path)

/-- The path of the configuration file: the one that is named, or the first that is there. -/
def findFile (tree : Tree) (named : Option String) (cwd : String) : Except Error (Option String) :=
  match named.filter (· ≠ "") with
  | some path =>
    let path := Path.resolve cwd path
    if tree.leads path then .ok (some path) else .error (.config "config file not found" (some path))
  | none => .ok ((fileNames.map (Path.join cwd)).find? tree.leads)

/-- What the configuration of a run is made of. -/
structure Sources where
  tree : Tree
  cwd : String
  environment : Environment
  /-- The configuration file that is named. -/
  file : Option String := none
  /-- What the command line gives, of which the fixes and the number of passes are taken. -/
  overrides : Layer := {}

/-- The layers over the defaults, lowest first. -/
def layers (sources : Sources) : Except Error (List Layer) := do
  let file ← match ← findFile sources.tree sources.file sources.cwd with
    | some path => loadFile sources.tree path
    | none => pure {}
  let environment ← ofEnvironment sources.environment
  let { fixes, maxPasses, .. } := sources.overrides
  return [file, environment, { fixes, maxPasses }]

/-- The configuration of a run. -/
def load (sources : Sources) : Except Error Config :=
  (layers sources).map fun layers => layers.foldl merge initial

end Codemod.Config
