import Codemod.FixedPoint
import Codemod.Patch.Unified

/-!
# Outcomes

What became of one source text: read, driven to a fixed point, printed and
compared. A text that no fix applies to comes back as it was, and a failure of
any kind is part of the outcome.
-/
namespace Codemod

/-- What became of one file. -/
structure Outcome where
  path : String
  oldText : String
  newText : String
  appliedFixNames : List String
  changed : Bool
  warnings : List Warning
  error : Option FileError
  deriving DecidableEq, Repr

namespace Outcome

/-- The outcome of a file that could not be processed. -/
def failed (path text : String) (error : FileError) : Outcome :=
  { path, oldText := text, newText := text, appliedFixNames := [], changed := false
    warnings := [], error := some error }

/-- The failure that an outcome records for whatever was thrown. -/
def failure (path : String) : Thrown → FileError
  | .error (.file cause) => cause
  | thrown => .fix path "unknown" thrown.message

/-- The outcome of a text whose fixes came to a fixed point. -/
def settled (path text : String) (driven : Driven) (draft : Draft) : Outcome :=
  let newText := if driven.appliedFixNames.isEmpty then text else draft.render
  { path, oldText := text, newText, appliedFixNames := driven.appliedFixNames
    changed := newText != text, warnings := draft.warnings, error := none }

/-- The difference that an outcome makes to a file of the given name, empty when it makes none. -/
def diff (outcome : Outcome) (name : String) (context : Nat) : String :=
  if outcome.changed then Patch.unified name outcome.oldText outcome.newText context else ""

end Outcome

/-- Runs fixes over one source text. -/
def processSource (path text : String) (fixes : List Fix) (cap : Int) : Outcome :=
  match Draft.parse path text with
  | .error cause => .failed path text (Outcome.failure path (.error cause))
  | .ok draft =>
    match (FixedPoint.drive fixes cap).run draft with
    | (.ok driven, after) => .settled path text driven after
    | (.error thrown, _) => .failed path text (Outcome.failure path thrown)

end Codemod
