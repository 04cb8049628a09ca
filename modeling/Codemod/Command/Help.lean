import Codemod.Command.Flag
import Codemod.Registry

/-!
# The help text

The help text shows how the program is called, what it does, its arguments and
flags in two columns, and the fixes it can apply. Descriptions are wrapped so
that lines stay within eighty columns.
-/
namespace Codemod.Command

/-- The name of the program. -/
def programName : String :=
  "tsfix"

/-- The version of the program. -/
def programVersion : String :=
  "0.1.0"

/-- What the program does. -/
def programDescription : String :=
  "Rewrite TypeScript and JavaScript sources from older API shapes to current ones"

/-- The greatest width of a line. -/
def helpWidth : Nat :=
  80

/-- Words in lines of at most `size`, after the line so far. -/
def wrapWords (size : Nat) (line : String) : List String → List String
  | [] => [line]
  | word :: rest =>
    if line.isEmpty then wrapWords size word rest
    else if line.length + 1 + word.length ≤ size then wrapWords size (line ++ " " ++ word) rest
    else line :: wrapWords size word rest

/-- A text in lines of at most `size`. -/
def wrap (size : Nat) (text : String) : List String :=
  wrapWords size "" (text.splitOn " ")

/-- Blanks. -/
def blanks (count : Nat) : String :=
  String.ofList (List.replicate count ' ')

/-- A term and its description in two columns. -/
def item (termWidth : Nat) (term description : String) : String :=
  let column := termWidth + 2
  let lines := wrap (helpWidth - 2 - column - 1) description
  "  " ++ Text.padRight term column ++ ("\n" ++ blanks (column + 2)).intercalate lines

/-- The help text up to the list of fixes. -/
def usageText : String :=
  let termWidth := (Flag.all.map (·.usage.length)).foldl max 0
  let arguments := [item termWidth "paths" "files or directories to rewrite; standard input when omitted"]
  let flags := Flag.all.map fun flag => item termWidth flag.usage flag.description
  "\n".intercalate
    (["Usage: " ++ programName ++ " [options] [paths...]", ""]
      ++ wrap (helpWidth - 1) programDescription ++ ["", "Arguments:"] ++ arguments
      ++ ["", "Options:"] ++ flags ++ [""])

/-- The help text with the fixes of a registry. -/
def helpText (registry : Registry) : String :=
  usageText ++ registry.describe ++ "\n"

end Codemod.Command
