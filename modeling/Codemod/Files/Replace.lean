import Codemod.Files.Tree

/-!
# Replacing a file at once

The contents of a file are replaced through a new file beside it, which then
takes its place, so that no reader sees a part of them. The permission bits are
those of the file that the path led to. When a step fails, the new file is
removed again.
-/
namespace Codemod.Files

/-- A replacement: the trees between its operations, first to last, and how it ended. -/
structure Replacement where
  trail : List Tree
  result : Except Fault Unit

/-- The tree that a replacement leaves, given the tree it started from. -/
def Replacement.final (replacement : Replacement) (tree : Tree) : Tree :=
  replacement.trail.getLastD tree

/-- The path of the new file beside a file; `token` tells apart those of different runs. -/
def temporaryPath (token path : String) : String :=
  Path.join (Path.parent path) ("." ++ Path.baseName path ++ "." ++ token ++ ".tmp")

/-- The permission bits of what a path led to; a directory is open to its owner. -/
def Entry.mode : Entry → Nat
  | .file _ mode => mode
  | _ => 0o755

/-- Removes the new file after a failure. When even that fails, this is the failure that counts. -/
def cleanUp (temporary : String) (trail : List Tree) (tree : Tree) (fault : Fault) : Replacement :=
  match tree.discard temporary with
  | .ok cleaned => { trail := trail ++ [cleaned], result := .error fault }
  | .error second => { trail, result := .error second }

/-- Replaces the contents of the file at a path. -/
def replace (token path : String) (content : ByteArray) (tree : Tree) : Replacement :=
  match tree.inspect path with
  | .error fault => { trail := [tree], result := .error fault }
  | .ok entry =>
    let temporary := temporaryPath token path
    match tree.write temporary content entry.mode with
    | .error fault => cleanUp temporary [tree] tree fault
    | .ok written =>
      match written.setMode temporary entry.mode with
      | .error fault => cleanUp temporary [tree, written] written fault
      | .ok ready =>
        match ready.rename temporary path with
        | .error fault => cleanUp temporary [tree, written, ready] ready fault
        | .ok renamed => { trail := [tree, written, ready, renamed], result := .ok () }

end Codemod.Files
