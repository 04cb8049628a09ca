import Codemod.Command.Arguments
import Codemod.Command.Help

/-!
# The program

The program reads its command line, prepares the request and carries it out. An
interruption while it runs lets the file in hand be finished and stops the run
before the next; a second one ends the program at once.
-/
namespace Codemod.Command

open Files

namespace Stop

/-- The exit code of a run that the command line ends. -/
def exitCode : Stop → Nat
  | .version | .help => 0
  | .unknownOption _ | .missingValue _ => 1

/-- What is written to the standard output then. -/
def output (stop : Stop) (registry : Registry) : String :=
  match stop with
  | .version => programVersion ++ "\n"
  | .help => helpText registry
  | .unknownOption _ | .missingValue _ => ""

/-- The flags offered for a word that spells none. -/
def offer (word : String) : String :=
  if !word.startsWith "--" then ""
  else
    match Flag.offers word with
    | [] => ""
    | [only] => "\n(Did you mean " ++ only ++ "?)"
    | several => "\n(Did you mean one of " ++ ", ".intercalate several ++ "?)"

/-- What is told to the user then. -/
def messages : Stop → List Message
  | .version | .help => []
  | .unknownOption word => [message .error ("unknown option '" ++ word ++ "'" ++ offer word)]
  | .missingValue flag => [message .error ("option '" ++ flag.usage ++ "' argument missing")]

end Stop

/-- What a run of the program came to, or where the command line ended it. -/
structure Finish where
  code : Nat
  stop : Option Stop := none
  output : String := ""
  /-- The messages before anything was waited for. -/
  early : List Message := []
  /-- The messages after that. -/
  late : List Message := []
  tree : Tree

/-- All messages of a run in order. -/
def Finish.messages (finish : Finish) : List Message :=
  finish.early ++ finish.late

/-- Runs the program on a command line. -/
def run (words : List String) (around : Surroundings) (tree : Tree) : Finish :=
  match readArguments words with
  | .error stop =>
    { code := 0, stop := some stop, output := stop.output around.registry, early := stop.messages, tree }
  | .ok arguments =>
    match plan arguments.options around tree with
    | .error error => { code := 1, early := [message .error (refusal error)], tree }
    | .ok plan =>
      let report := carryOut plan arguments.options around arguments.paths tree
      let early := [plan.announcement]
      match report.result with
      | .ok code => { code, output := report.output, early, late := report.messages, tree := report.tree }
      | .error failure =>
        { code := 1, output := report.output, early
          late := report.messages ++ [message .error ("Command failed: " ++ failure.message)]
          tree := report.tree }

/-- The exit code of an interrupted program. -/
def interruptCode : Nat :=
  130

/-- What a run with interruptions came to. -/
structure Session where
  code : Nat
  /-- The codes with which the program was ended. -/
  exits : List Nat
  output : String
  messages : List Message
  tree : Tree

/-- Runs the program and interrupts it the given number of times before it waits for anything. -/
def session (words : List String) (interrupts : Nat) (around : Surroundings) (tree : Tree) : Session :=
  let around := if interrupts = 0 then around else { around with stopAfter := some 0 }
  let finish := run words around tree
  let warned := if interrupts = 0 then []
    else [message .warn "interrupted: finishing the current file"]
  { code := finish.code
    exits := (finish.stop.map Stop.exitCode).toList ++ List.replicate (interrupts - 1) interruptCode
    output := finish.output
    messages := finish.early ++ warned ++ finish.late
    tree := finish.tree }

end Codemod.Command
