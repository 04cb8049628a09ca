import Codemod.Regex.Reader

/-!
# Patterns that cannot be used

The expression that a pattern of a name becomes may be malformed, nothing may be
left of a pattern for paths, and a pattern may be too long.
-/
namespace Codemod.Glob

/-- Why a pattern cannot be used. -/
inductive Fault where
  | expression (source : String) (unicode : Bool) (cause : Regex.Fault)
  | emptyPattern
  | tooLong
  deriving DecidableEq, Repr

/-- The wording of a fault. -/
def Fault.message : Fault → String
  | .expression source unicode cause =>
    "Invalid regular expression: /" ++ source ++ "/" ++ (if unicode then "u" else "") ++ ": "
      ++ cause.message
  | .emptyPattern => "empty pattern list"
  | .tooLong => "pattern is too long"

end Codemod.Glob
