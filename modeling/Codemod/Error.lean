import Codemod.Glob.Fault

/-!
# Causes of failure

A failure either concerns one file and is recorded with that file's outcome,
or it stops a run before any file is touched. Every cause carries what it is
about; its wording stands in one function per type.
-/
namespace Codemod

/-- What was being done to a file when it failed. -/
inductive Operation where
  | read
  | write
  | stat
  deriving DecidableEq, Repr

/-- The word for an operation. -/
def Operation.name : Operation → String
  | .read => "read"
  | .write => "write"
  | .stat => "stat"

/-- A failure that concerns one file. -/
inductive FileError where
  /-- The text is not in the language; line and column count from one. -/
  | parse (path : String) (line column : Int) (detail : String)
  /-- Reading, writing or inspecting the file failed. -/
  | io (path : String) (operation : Operation) (detail : String)
  /-- The fixes still changed the file after the last pass allowed. -/
  | convergence (path : String) (passes : Int) (fixNames : List String)
  /-- A fix threw, misreported whether it changed the tree, or broke the syntax. -/
  | fix (path : String) (fixName : String) (detail : String)
  deriving DecidableEq, Repr

/-- The message of a failure that concerns one file. -/
def FileError.message : FileError → String
  | .parse path line column detail => s!"{path}:{line}:{column}: {detail}"
  | .io path operation detail => s!"{path}: {operation.name} failed: {detail}"
  | .convergence path passes fixNames =>
    s!"{path}: fixes did not converge after {passes} passes (still applying: "
      ++ ", ".intercalate fixNames ++ ")"
  | .fix path fixName detail => s!"{path}: fix {fixName}: {detail}"

/-- Any failure. -/
inductive Error where
  | file (cause : FileError)
  /-- Requested names that no fix has, with the names offered for each. -/
  | unknownFixes (names : List String) (suggestions : List (String × List String))
  /-- A name that is already taken. -/
  | duplicateFix (name : String)
  /-- A configuration value that cannot be used, and where it stands. -/
  | config (message : String) (source : Option String)
  /-- A pattern for paths that cannot be used. -/
  | pattern (cause : Glob.Fault)
  /-- A directive in a text with a value that has no length. -/
  | emptyDirective
  /-- Any other failure, with the code of a system error. -/
  | plain (message : String) (code : Option String)
  deriving DecidableEq, Repr

namespace Error

/-- The message of a failure. -/
def message : Error → String
  | .file cause => cause.message
  | .unknownFixes names _ =>
    "unknown fix" ++ (if names.length = 1 then "" else "es") ++ ": " ++ ", ".intercalate names
  | .duplicateFix name => "fix \"" ++ name ++ "\" is already registered"
  | .config message source =>
    match source with
    | some place => if place.isEmpty then message else place ++ ": " ++ message
    | none => message
  | .pattern cause => cause.message
  | .emptyDirective => "Cannot read properties of undefined (reading 'length')"
  | .plain message _ => message

/-- The code of a system error. -/
def code? : Error → Option String
  | .plain _ code => code
  | _ => none

/-- Whether the failure concerns one file. -/
def isFileError : Error → Bool
  | .file _ => true
  | _ => false

end Error

/-- What a computation stopped with: a failure, or a bare value known by its text. -/
inductive Thrown where
  | error (cause : Error)
  | value (text : String)
  deriving DecidableEq, Repr

/-- The text of whatever was thrown. -/
def Thrown.message : Thrown → String
  | .error cause => cause.message
  | .value text => text

/-- The code of whatever was thrown, which only a system error has. -/
def Thrown.code? : Thrown → Option String
  | .error cause => cause.code?
  | .value _ => none

end Codemod
