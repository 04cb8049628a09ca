import Codemod.Naming.Distance
import Codemod.Text.Units

/-!
# Flags of the command line

A flag has a long spelling, often a short one, and may take a value. For a
spelling that no flag has, those flags are offered that take the fewest edits to
reach, at most three, and share more than two fifths of their letters with it.
-/
namespace Codemod.Command

/-- The flags of the command line. -/
inductive Flag where
  | version
  | fixes
  | diff
  | config
  | maxPasses
  | help
  deriving DecidableEq, Repr

namespace Flag

/-- All flags, in the order in which they are shown. -/
def all : List Flag :=
  [.version, .fixes, .diff, .config, .maxPasses, .help]

/-- The flags that are recognised while arguments are read; help is asked for afterwards. -/
def recognised : List Flag :=
  all.filter (· != .help)

/-- The short spelling of a flag. -/
def short? : Flag → Option String
  | .version => some "-v"
  | .fixes => some "-r"
  | .diff => some "-d"
  | .config => some "-c"
  | .maxPasses => none
  | .help => some "-h"

/-- The long spelling of a flag. -/
def long : Flag → String
  | .version => "--version"
  | .fixes => "--rewrites"
  | .diff => "--diff"
  | .config => "--config"
  | .maxPasses => "--max-passes"
  | .help => "--help"

/-- What the value of a flag is called, when it takes one. -/
def value? : Flag → Option String
  | .fixes => some "<names>"
  | .config => some "<path>"
  | .maxPasses => some "<n>"
  | _ => none

/-- What a flag does. -/
def description : Flag → String
  | .version => "Output the current version"
  | .fixes => "restrict the fixes to this comma-separated list"
  | .diff => "print diffs instead of rewriting files (default: false)"
  | .config => "configuration file (default: tsfix.config.yaml)"
  | .maxPasses => "stop with an error after this many fix passes over one file"
  | .help => "display help for command"

/-- A flag with its spellings and its value. -/
def usage (flag : Flag) : String :=
  ", ".intercalate (flag.short?.toList ++ [flag.long])
    ++ (flag.value?.map (" " ++ ·)).getD ""

/-- Whether a word spells a flag. -/
def isSpelled (flag : Flag) (word : String) : Bool :=
  flag.short? == some word || flag.long == word

/-- The flag that a word spells. -/
def find? (word : String) : Option Flag :=
  recognised.find? (·.isSpelled word)

/-- The greatest number of edits to a flag that is offered. -/
def maxEdits : Nat :=
  3

/-- The edits between two words; words that differ much in length have nothing in common. -/
def edits (word other : String) : Nat :=
  let first := Text.width word
  let second := Text.width other
  if max first second - min first second > maxEdits then max first second
  else Naming.typoDistance word other

/-- The names nearest to a word among those looked at so far, and how near they are. -/
structure Nearest where
  edits : Nat := maxEdits
  names : List String := []

/-- Takes a name into account. -/
def Nearest.consider (word : String) (nearest : Nearest) (name : String) : Nearest :=
  let count := Flag.edits word name
  let size := max (Text.width word) (Text.width name)
  if 5 * (size - count) ≤ 2 * size then nearest
  else if count < nearest.edits then { edits := count, names := [name] }
  else if count = nearest.edits then { nearest with names := nearest.names ++ [name] }
  else nearest

/-- A word without two dashes at its start. -/
def bare (word : String) : String :=
  String.ofList (word.toList.drop 2)

/-- The flags offered for a long spelling that no flag has. -/
def offers (word : String) : List String :=
  let nearest := (all.map fun flag => bare flag.long).foldl (Nearest.consider (bare word)) {}
  (nearest.names.mergeSort Text.unitsLe).map ("--" ++ ·)

end Flag

end Codemod.Command
