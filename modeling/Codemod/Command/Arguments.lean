import Codemod.Command.Fix
import Codemod.Command.Flag

/-!
# Reading the command line

Words that start with a dash are flags; a flag that takes a value takes the next
word, the rest of its own word after a short spelling, or what follows an equals
sign after a long one. Short spellings may be run together. After two dashes all
words are paths. From a word that spells no flag on, words are kept apart: help
may still be asked for among them, and otherwise the first of them is a mistake.
-/
namespace Codemod.Command

/-- Why reading the command line ends the run. -/
inductive Stop where
  | version
  | help
  | unknownOption (word : String)
  | missingValue (flag : Flag)
  deriving DecidableEq, Repr

/-- What the words so far say. -/
structure Arguments where
  options : Options := {}
  paths : List String := []
  /-- A word that spells no flag, and the words after it that are neither flags nor values. -/
  unknown : List String := []
  deriving Repr

namespace Arguments

/-- The arguments with a word that is neither a flag nor a value. -/
def addWord (arguments : Arguments) (word : String) : Arguments :=
  if arguments.unknown.isEmpty then { arguments with paths := arguments.paths ++ [word] }
  else { arguments with unknown := arguments.unknown ++ [word] }

/-- The arguments with a word that spells no flag. -/
def addUnknown (arguments : Arguments) (word : String) : Arguments :=
  { arguments with unknown := arguments.unknown ++ [word] }

/-- The arguments with the words after two dashes. -/
def addRest (arguments : Arguments) (words : List String) : Arguments :=
  if arguments.unknown.isEmpty then { arguments with paths := arguments.paths ++ words }
  else { arguments with unknown := arguments.unknown ++ "--" :: words }

/-- The arguments with the value of a flag. -/
def setValue (arguments : Arguments) (flag : Flag) (value : String) : Arguments :=
  let options := arguments.options
  { arguments with options :=
      match flag with
      | .fixes => { options with fixes := some value }
      | .config => { options with config := some value }
      | .maxPasses => { options with maxPasses := some value }
      | _ => options }

/-- The arguments with a flag that takes no value. -/
def setFlag (arguments : Arguments) : Flag → Except Stop Arguments
  | .version => .error .version
  | .diff => .ok { arguments with options := { arguments.options with diff := true } }
  | _ => .ok arguments

end Arguments

/-- Whether a word may be a flag. -/
def mayBeFlag (word : String) : Bool :=
  match word.toList with
  | '-' :: _ :: _ => true
  | _ => false

/-- A word as a short spelling with more behind it. -/
def clustered? (word : String) : Option (Flag × String) :=
  match word.toList with
  | '-' :: letter :: rest =>
    if letter = '-' || rest.isEmpty then none
    else (Flag.find? (String.ofList ['-', letter])).map fun flag => (flag, String.ofList rest)
  | _ => none

/-- A word as a long spelling with a value behind an equals sign. -/
def assigned? (word : String) : Option (Flag × String) :=
  match word.toList with
  | '-' :: '-' :: rest =>
    let name := rest.takeWhile (· ≠ '=')
    match rest.drop name.length with
    | '=' :: value =>
      if name.isEmpty then none
      else
        ((Flag.find? (String.ofList ('-' :: '-' :: name))).filter (·.value?.isSome)).map fun flag =>
          (flag, String.ofList value)
    | _ => none
  | _ => none

/-- Reads words, after what the words before them say. -/
def readWords : Nat → Arguments → List String → Except Stop Arguments
  | 0, arguments, _ => .ok arguments
  | _ + 1, arguments, [] => .ok arguments
  | fuel + 1, arguments, word :: rest =>
    if word = "--" then .ok (arguments.addRest rest)
    else if !mayBeFlag word then readWords fuel (arguments.addWord word) rest
    else
      match Flag.find? word with
      | some flag =>
        if flag.value?.isSome then
          match rest with
          | [] => .error (.missingValue flag)
          | value :: rest => readWords fuel (arguments.setValue flag value) rest
        else do readWords fuel (← arguments.setFlag flag) rest
      | none =>
        match clustered? word with
        | some (flag, more) =>
          if flag.value?.isSome then readWords fuel (arguments.setValue flag more) rest
          else do readWords fuel (← arguments.setFlag flag) (("-" ++ more) :: rest)
        | none =>
          match assigned? word with
          | some (flag, value) => readWords fuel (arguments.setValue flag value) rest
          | none => readWords fuel (arguments.addUnknown word) rest

/-- The options and paths of a command line. -/
def readArguments (words : List String) : Except Stop Arguments := do
  let size := words.foldl (fun size word => size + word.length + 1) 1
  let arguments ← readWords size {} words
  if arguments.unknown.any Flag.help.isSpelled then .error .help
  match arguments.unknown with
  | [] => return arguments
  | word :: _ => .error (.unknownOption word)

end Codemod.Command
