import Codemod.Fix.Basic

/-!
# Driving fixes to a fixed point

The fixes of a list run in passes over one draft until a pass changes nothing. A
fix may bring code into a shape that another fix, or the same one, then
matches, so one pass is not enough. After every change the draft is refreshed,
and only the warnings of the last pass survive.
-/
namespace Codemod

/-- The number of passes allowed unless another is asked for. -/
def defaultMaxPasses : Nat :=
  8

/-- What driving a draft came to. -/
structure Driven where
  /-- The fixes that changed the draft, in the order in which they first did so. -/
  appliedFixNames : List String
  /-- The number of passes, the last one changing nothing. -/
  passes : Nat
  deriving DecidableEq, Repr

namespace FixedPoint

/-- The failure of a fix on a draft. -/
def fixError (path : String) (fix : Fix) (detail : String) : Thrown :=
  .error (.file (.fix path fix.name detail))

/-- Asks a fix whether it could apply and lets it transform the draft; none if it could not. -/
def attempt (fix : Fix) : Edit (Option Bool) := do
  Edit.setActiveFix fix.name
  if ← fix.precondition then some <$> fix.transform else return none

/-- Runs one fix; whether it changed the draft. Its answer must agree with what it did. -/
def runFix (fix : Fix) : Edit Bool := do
  let before ← get
  let answer ←
    try attempt fix
    catch thrown => do
      Edit.setActiveFix ""
      throw (fixError before.path fix thrown.message)
  Edit.setActiveFix ""
  match answer with
  | none => return false
  | some changed =>
    let replaced := (← get).revision != before.revision
    if changed && !replaced then
      throw (fixError before.path fix "reported a change but left the tree untouched")
    if !changed && replaced then
      throw (fixError before.path fix "changed the tree without reporting it")
    return changed

/-- Reads the draft back after a fix changed it. -/
def refreshAfter (fix : Fix) : Edit Unit := do
  let path := (← get).path
  try Edit.refresh
  catch
    | .error (.file (.parse _ _ _ detail)) =>
      throw (fixError path fix ("produced unparsable output: " ++ detail))
    | thrown => throw thrown

/-- Runs each fix once; the names of those that changed the draft. -/
def runPass : List Fix → Edit (List String)
  | [] => return []
  | fix :: rest => do
    if ← runFix fix then
      refreshAfter fix
      return fix.name :: (← runPass rest)
    else runPass rest

/-- The names so far with those that are new added at the end. -/
def addNames (names new : List String) : List String :=
  new.foldl (fun names name => if names.contains name then names else names ++ [name]) names

/-- Passes until one changes nothing, at most `remaining` of them. -/
def passes (fixes : List Fix) (cap : Int) : Nat → Nat → List String → List String → Edit Driven
  | 0, _, _, fired => do
    throw (.error (.file (.convergence (← get).path cap fired)))
  | remaining + 1, pass, applied, _ => do
    Edit.clearWarnings
    let fired ← runPass fixes
    if fired.isEmpty then return { appliedFixNames := applied, passes := pass }
    passes fixes cap remaining (pass + 1) (addNames applied fired) fired

/-- Runs fixes over a draft until a pass applies none of them. -/
def drive (fixes : List Fix) (cap : Int) : Edit Driven :=
  passes fixes cap cap.toNat 1 [] []

end FixedPoint

end Codemod
