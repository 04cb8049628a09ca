import Codemod.Error
import Codemod.FixedPoint
import Codemod.Naming.NameList
import Codemod.Number.Numeral
import Codemod.Text.Blank

/-!
# Configuration

A configuration comes in layers: the defaults, a file, the environment and the
command line, each over the one before. A layer gives some of the values; the
patterns to skip are collected from all layers, everything else is taken from
the highest layer that gives it.
-/
namespace Codemod

/-- The values that a layer gives. -/
structure Layer where
  fixes : Option (List String) := none
  extensions : Option (List String) := none
  ignore : Option (List String) := none
  maxPasses : Option Nat := none
  deriving DecidableEq, Repr, Inhabited

/-- The configuration of a run. -/
structure Config where
  /-- The fixes to run, all of them when none are named. -/
  fixes : Option (List String)
  /-- The endings of the files taken from a directory. -/
  extensions : List String
  /-- Patterns of paths to skip in a directory. -/
  ignore : List String
  maxPasses : Nat
  deriving DecidableEq, Repr

namespace Config

/-- The endings of the files taken from a directory by default. -/
def defaultExtensions : List String :=
  [".ts", ".tsx", ".mts", ".cts", ".js", ".jsx", ".mjs", ".cjs"]

/-- The patterns always skipped in a directory. -/
def defaultIgnore : List String :=
  ["**/node_modules/**"]

/-- The configuration without any layer. -/
def initial : Config :=
  { fixes := none, extensions := defaultExtensions, ignore := defaultIgnore
    maxPasses := defaultMaxPasses }

/-- The configuration with a layer over it. -/
def merge (config : Config) (layer : Layer) : Config :=
  { fixes := layer.fixes.or config.fixes
    extensions := layer.extensions.getD config.extensions
    ignore := config.ignore ++ layer.ignore.getD []
    maxPasses := layer.maxPasses.getD config.maxPasses }

/-- Whether characters are a run of decimal digits. -/
def isDigits (chars : List Char) : Bool :=
  !chars.isEmpty && chars.all fun c => '0' ≤ c && c ≤ '9'

/-- A positive whole number given as the value of an option: digits, with any blanks around them, that
as a double stand for a whole number that is told apart from all others. -/
def parsePositive (value source : String) : Except Error Nat :=
  match (Binary64.ofText value).safe? with
  | some n =>
    if isDigits (Text.trimList value.toList) && 1 ≤ n then .ok n.toNat else .error refused
  | none => .error refused
where
  /-- The refusal of the value. -/
  refused : Error := .config ("expected a positive integer, got \"" ++ value ++ "\"") (some source)

/-- The values of an environment. -/
abbrev Environment := List (String × String)

/-- The value of a variable, unless it is empty. -/
def setting? (environment : Environment) (name : String) : Option String :=
  (environment.lookup name).filter (· ≠ "")

/-- The layer that the environment gives. -/
def ofEnvironment (environment : Environment) : Except Error Layer := do
  let fixes := (setting? environment "TSFIX_FIXES").map Naming.parseNames
  match setting? environment "TSFIX_MAX_PASSES" with
  | none => return { fixes }
  | some value => return { fixes, maxPasses := some (← parsePositive value "TSFIX_MAX_PASSES") }

end Config

end Codemod
