import Codemod.Error
import Codemod.Path

/-!
# A tree of files

A place is the list of names that lead to it from the root. At a place stands a
file with its bytes and permission bits, a directory, or a link to a path. Paths
are followed name by name; links on the way are followed, up to a limit. Every
operation either fails with the cause the system gives or leaves a tree.
-/
namespace Codemod.Files

/-- The names that lead to a place from the root. -/
abbrev Place := List String

/-- What stands at a place. -/
inductive Entry where
  | file (content : ByteArray) (mode : Nat)
  | directory
  | link (target : String)
  deriving Inhabited

/-- Whether a directory stands there. -/
def Entry.isDirectory : Entry → Bool
  | .directory => true
  | _ => false

/-- Why the system refuses an operation. -/
inductive Cause where
  | noEntry
  | notDirectory
  | isDirectory
  | nameTooLong
  | tooManyLinks
  deriving DecidableEq, Repr

namespace Cause

/-- The code of a cause. -/
def code : Cause → String
  | .noEntry => "ENOENT"
  | .notDirectory => "ENOTDIR"
  | .isDirectory => "EISDIR"
  | .nameTooLong => "ENAMETOOLONG"
  | .tooManyLinks => "ELOOP"

/-- The wording of a cause. -/
def wording : Cause → String
  | .noEntry => "no such file or directory"
  | .notDirectory => "not a directory"
  | .isDirectory => "illegal operation on a directory"
  | .nameTooLong => "name too long"
  | .tooManyLinks => "too many symbolic links encountered"

end Cause

/-- An operation of the system that failed. -/
structure Fault where
  cause : Cause
  /-- The name of the operation. -/
  operation : String
  /-- The paths it was given, when it was given any. -/
  paths : List String
  deriving DecidableEq, Repr

namespace Fault

/-- The wording of a fault: code, cause, operation and paths. -/
def message (fault : Fault) : String :=
  fault.cause.code ++ ": " ++ fault.cause.wording ++ ", " ++ fault.operation
    ++ (match fault.paths with
      | [] => ""
      | paths => " " ++ " -> ".intercalate (paths.map fun path => "'" ++ path ++ "'"))

/-- The fault as a failure. -/
def toError (fault : Fault) : Error :=
  .plain fault.message (some fault.cause.code)

end Fault

/-- The entries of a file system below its root. -/
structure Tree where
  entries : List (Place × Entry) := []
  deriving Inhabited

namespace Tree

/-- What stands at a place; the root is a directory. -/
def at? (tree : Tree) (place : Place) : Option Entry :=
  if place = [] then some .directory else tree.entries.lookup place

/-- The tree without what stands at a place. -/
def remove (tree : Tree) (place : Place) : Tree :=
  { entries := tree.entries.filter (·.1 ≠ place) }

/-- The tree with an entry at a place. -/
def put (tree : Tree) (place : Place) (entry : Entry) : Tree :=
  { entries := (place, entry) :: (tree.remove place).entries }

/-- The names and entries directly below a place. -/
def children (tree : Tree) (place : Place) : List (String × Entry) :=
  tree.entries.filterMap fun (below, entry) =>
    match below.getLast? with
    | some name => if below.dropLast = place then some (name, entry) else none
    | none => none

/-- The tree with directories at a place and on the way to it, where nothing stands yet. -/
def withDirectories (tree : Tree) (done : Place) : List String → Tree
  | [] => tree
  | name :: rest =>
    let place := done ++ [name]
    let tree := match tree.at? place with
      | some _ => tree
      | none => tree.put place .directory
    withDirectories tree place rest

/-- The tree with an entry at a place and directories on the way to it. -/
def plant (tree : Tree) (place : Place) (entry : Entry) : Tree :=
  (tree.withDirectories [] place.dropLast).put place entry

/-- The greatest size of a name in bytes. -/
def maxNameSize : Nat :=
  255

/-- The number of links that a path may lead through. -/
def maxLinks : Nat :=
  40

/-- Follows names from a directory. The last name need not exist; when it is a link, it is
followed only if `followLast`. `jump` continues behind a link. -/
def walkNames (tree : Tree) (followLast : Bool) (jump : Place → List String → Except Cause Place) :
    Place → List String → Except Cause Place
  | done, [] => .ok done
  | done, name :: rest =>
    match tree.at? done with
    | none => .error .noEntry
    | some (.file ..) | some (.link _) => .error .notDirectory
    | some .directory =>
      if name = "" || name = "." then walkNames tree followLast jump done rest
      else if name = ".." then walkNames tree followLast jump done.dropLast rest
      else if name.utf8ByteSize > maxNameSize then .error .nameTooLong
      else
        let place := done ++ [name]
        match tree.at? place with
        | none => if rest.isEmpty then .ok place else .error .noEntry
        | some (.link target) =>
          if rest.isEmpty && !followLast then .ok place
          else jump (if Path.isAbsolute target then [] else done) (Path.parts target ++ rest)
        | some _ => walkNames tree followLast jump place rest

/-- Follows names from a place through at most the given number of links. -/
def follow (tree : Tree) (followLast : Bool) : Nat → Place → List String → Except Cause Place
  | 0 => tree.walkNames followLast fun _ _ => .error .tooManyLinks
  | links + 1 => tree.walkNames followLast (tree.follow followLast links)

/-- The place that an absolute path leads to, where nothing may stand yet. The empty path leads nowhere. -/
def locate (tree : Tree) (path : String) (followLast : Bool) : Except Cause Place :=
  if path = "" then .error .noEntry else tree.follow followLast maxLinks [] (Path.parts path)

/-- The place that a path leads to and what stands there. -/
def find (tree : Tree) (path : String) (followLast : Bool) : Except Cause (Place × Entry) := do
  let place ← tree.locate path followLast
  match tree.at? place with
  | some entry => .ok (place, entry)
  | none => .error .noEntry

/-- An operation on one path, with its failure. -/
def operating {α : Type} (operation path : String) (result : Except Cause α) : Except Fault α :=
  result.mapError fun cause => { cause, operation, paths := [path] }

/-- What a path leads to. -/
def inspect (tree : Tree) (path : String) : Except Fault Entry :=
  operating "stat" path ((·.2) <$> tree.find path true)

/-- What a path leads to from a directory. A failure names the path as it is given. -/
def inspectFrom (tree : Tree) (here path : String) : Except Fault Entry :=
  operating "stat" path ((·.2) <$> tree.find (Path.against here path) true)

/-- Whether a path leads to anything. -/
def leads (tree : Tree) (path : String) : Bool :=
  (tree.find path true).toBool

/-- The bytes of the file that a path leads to. -/
def read (tree : Tree) (path : String) : Except Fault ByteArray := do
  match ← operating "open" path (tree.find path true) with
  | (_, .file content _) => .ok content
  | _ => .error { cause := .isDirectory, operation := "read", paths := [] }

/-- The tree with bytes in the file that a path leads to. A new file has the given permission bits,
one that exists keeps its own. -/
def write (tree : Tree) (path : String) (content : ByteArray) (mode : Nat) : Except Fault Tree :=
  operating "open" path do
    let place ← tree.locate path true
    match tree.at? place with
    | none => .ok (tree.put place (.file content mode))
    | some (.file _ kept) => .ok (tree.put place (.file content kept))
    | some _ => .error .isDirectory

/-- The tree with permission bits on the file that a path leads to. -/
def setMode (tree : Tree) (path : String) (mode : Nat) : Except Fault Tree :=
  operating "chmod" path do
    match ← tree.find path true with
    | (place, .file content _) => .ok (tree.put place (.file content mode))
    | _ => .ok tree

/-- The tree in which the file at one path stands at another instead of what stood there. -/
def rename (tree : Tree) (old new : String) : Except Fault Tree :=
  Except.mapError (fun cause => { cause, operation := "rename", paths := [old, new] }) do
    let (source, entry) ← tree.find old false
    let target ← tree.locate new false
    match tree.at? target with
    | some .directory =>
      .error (if new.toList.getLast? = some '/' then .notDirectory else .isDirectory)
    | _ => .ok ((tree.remove source).put target entry)

/-- The tree without the entry at a path, where nothing need stand. -/
def discard (tree : Tree) (path : String) : Except Fault Tree :=
  match tree.find path false with
  | .ok (place, _) => .ok (tree.remove place)
  | .error .noEntry => .ok tree
  | .error cause => .error { cause, operation := "lstat", paths := [path] }

end Tree

end Codemod.Files
