import Codemod.Syntax.Comment
import Codemod.Text.Blank

/-!
# Directives

A line comment with three slashes before the first token may hold a directive: a
name in angle brackets and, after it, arguments with quoted values. A reference
names a file, a library or the types of a package, or says that there is no
default library; one that does none of these is a complaint. The module's name
may be given once.

An argument is looked for in the whole comment, so a value may stand anywhere
after a blank and the argument's name.
-/
namespace Codemod.Grammar

open Syntax

/-- A quoted value and the position where it starts. -/
structure Quoted where
  start : Nat
  text : String
  /-- The quotes are single. -/
  single : Bool
  deriving DecidableEq, Repr

/-- A directive in a comment. -/
structure Directive where
  /-- The name in small letters. -/
  name : String
  start : Nat
  stop : Nat
  /-- The characters of the comment. -/
  comment : List Char
  deriving DecidableEq, Repr

/-- Whether characters begin with others in any case; what follows them. -/
def dropIgnoringCase : List Char → List Char → Option (List Char)
  | [], rest => some rest
  | _ :: _, [] => none
  | c :: more, d :: rest => if c.toLower = d.toLower then dropIgnoringCase more rest else none

/-- A quoted value at the start of the characters at a position. -/
def quotedAt (position : Nat) : List Char → Option Quoted
  | [] => none
  | quote :: rest =>
    if quote = '\x27' || quote = '"' then
      let value := rest.takeWhile (· ≠ quote)
      if value.length < rest.length then
        some { start := position + 1, text := String.ofList value, single := quote = '\x27' }
      else none
    else none

/-- The value of an argument that the characters at a position begin with: a blank, the name, an
equals sign that may stand between blanks, and the value. -/
def argumentAt (name : List Char) (position : Nat) (chars : List Char) : Option Quoted :=
  match chars with
  | [] => none
  | blank :: rest =>
    if !Text.isBlank blank then none
    else
      match dropIgnoringCase name rest with
      | none => none
      | some rest =>
        match rest.dropWhile Text.isBlank with
        | '=' :: rest =>
          let value := rest.dropWhile Text.isBlank
          quotedAt (position + (chars.length - value.length)) value
        | _ => none

/-- The first value of an argument in the characters from a position on. -/
def argumentFrom (name : List Char) (position : Nat) : List Char → Option Quoted
  | [] => none
  | c :: rest => (argumentAt name position (c :: rest)).or (argumentFrom name (position + 1) rest)

/-- Whether a closed bracket `/>` stands in the characters. -/
def closesBracket : List Char → Bool
  | '/' :: '>' :: _ => true
  | _ :: rest => closesBracket rest
  | [] => false

namespace Directive

/-- The directive in a comment. -/
def ofComment? (source : Source) (comment : Comment) : Option Directive :=
  let chars := (source.slice comment.start comment.stop).toList
  match chars with
  | '/' :: '/' :: '/' :: rest =>
    match rest.dropWhile Text.isBlank with
    | '<' :: rest =>
      let name := rest.takeWhile (!Text.isBlank ·)
      if comment.block || name.isEmpty || !closesBracket (rest.drop (name.length + 1)) then none
      else
        some {
          name := (String.ofList name).toLower, start := comment.start, stop := comment.stop
          comment := chars }
    | _ => none
  | _ => none

/-- The directives before the first token of a text. -/
def ofSource (source : Source) : List Directive :=
  (leadingComments source 0).filterMap (ofComment? source)

/-- The value of an argument of a directive. -/
def argument? (directive : Directive) (name : String) : Option Quoted :=
  argumentFrom name.toList directive.start directive.comment

/-- The value of an argument of a directive as a text, empty when there is none. -/
def valueOf (directive : Directive) (name : String) : String :=
  ((directive.argument? name).map (·.text)).getD ""

/-- Whether a directive is a reference. -/
def isReference (directive : Directive) : Bool :=
  directive.name = "reference"

/-- The arguments of a reference that say what it refers to. -/
def targets : List String :=
  ["types", "lib", "path"]

/-- Whether a reference has a target that is empty between single quotes. Such a value has no length,
and the text cannot be read at all. -/
def lacksValue (directive : Directive) : Bool :=
  directive.isReference && targets.any fun name =>
    (directive.argument? name).any fun value => value.single && value.text = ""

/-- A complaint about a whole directive. -/
def complaint (directive : Directive) (message : String) : Diagnostic :=
  { start := directive.start, length := directive.stop - directive.start, message }

/-- The complaint about the way in which types are to be found. -/
def modeComplaint (directive : Directive) (types : Quoted) : List Diagnostic :=
  if ["", "import", "require"].contains (directive.valueOf "resolution-mode") then []
  else
    [{ start := types.start, length := types.text.length
       message := "`resolution-mode` should be either `require` or `import`." }]

/-- The complaints about a reference. -/
def referenceComplaints (directive : Directive) : List Diagnostic :=
  if !directive.isReference || directive.valueOf "no-default-lib" = "true" then []
  else
    match directive.argument? "types" with
    | some types => directive.modeComplaint types
    | none =>
      if targets.any fun name => (directive.argument? name).isSome then []
      else [directive.complaint "Invalid 'reference' directive syntax."]

/-- The complaints about names of the module after one that is not empty. -/
def nameComplaints (named : Bool) : List Directive → List Diagnostic
  | [] => []
  | directive :: rest =>
    let repeated :=
      if named then [directive.complaint "An AMD module cannot have multiple name assignments."] else []
    repeated ++ nameComplaints (directive.valueOf "name" ≠ "") rest

/-- Whether a directive names the module. -/
def namesModule (directive : Directive) : Bool :=
  directive.name = "amd-module" && (directive.argument? "name").isSome

/-- The complaints about directives. -/
def complaints (directives : List Directive) : List Diagnostic :=
  directives.flatMap referenceComplaints ++ nameComplaints false (directives.filter namesModule)

end Directive

end Codemod.Grammar
