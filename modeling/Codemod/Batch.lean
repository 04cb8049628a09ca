import Codemod.Files.Replace
import Codemod.Outcome
import Codemod.Text.Utf8

/-!
# Files one after another

A file is read, processed and, when it changed and writing is asked for,
replaced. Files are independent: what happens to one is recorded with its own
outcome and stops nothing else. A run may be told to stop; a file that was
started is always finished.
-/
namespace Codemod

open Files

/-- How files are processed. -/
structure Job where
  fixes : List Fix
  cap : Int
  /-- Changed files are written back. -/
  write : Bool
  /-- What the names of new files beside changed ones hold. -/
  token : String

/-- The failure of an operation of the system on a file. -/
def ioError (path : String) (operation : Operation) (fault : Fault) : FileError :=
  .io path operation (fault.cause.code ++ ": " ++ fault.message)

/-- Reads and processes one file and writes it back when it changed. -/
def fixFile (job : Job) (path : String) (tree : Tree) : Outcome × Tree :=
  match tree.read path with
  | .error fault => (.failed path "" (ioError path .read fault), tree)
  | .ok bytes =>
    let text := Text.Utf8.decode bytes
    let outcome := processSource path text job.fixes job.cap
    if job.write && outcome.changed then
      let replacement := replace job.token path outcome.newText.toUTF8 tree
      match replacement.result with
      | .ok () => (outcome, replacement.final tree)
      | .error fault => (.failed path text (ioError path .write fault), replacement.final tree)
    else (outcome, tree)

/-- What a run over files gave: the outcomes in the order in which the files were processed. -/
structure Run where
  outcomes : List Outcome
  /-- The run was stopped before its last file. -/
  cancelled : Bool
  tree : Tree

/-- Processes files in order. The run is told to stop once `stopAfter` files are done, if ever. -/
def runFiles (job : Job) (stopAfter : Option Nat) : List String → Tree → Run
  | [], tree => { outcomes := [], cancelled := false, tree }
  | path :: rest, tree =>
    if stopAfter = some 0 then { outcomes := [], cancelled := true, tree }
    else
      let (outcome, after) := fixFile job path tree
      let run := runFiles job (stopAfter.map (· - 1)) rest after
      { run with outcomes := outcome :: run.outcomes }

/-- The outcomes of a run by path. -/
def Run.sorted (run : Run) : List Outcome :=
  run.outcomes.mergeSort fun left right => Text.unitsLe left.path right.path

end Codemod
