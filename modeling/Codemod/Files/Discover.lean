import Codemod.Config.Basic
import Codemod.Files.Tree
import Codemod.Glob.Pattern
import Codemod.Outcome

/-!
# Finding the files to process

A path that leads to a file is taken whatever its name. A directory gives every
file below it with one of the listed endings, but for files whose path starts a
name with a dot and those to be skipped; links to directories are not entered.
Paths that lead nowhere are reported.
-/
namespace Codemod.Files

open Glob

/-- What a search below a directory looks at. -/
structure Search where
  tree : Tree
  /-- The names that lead to the directory. -/
  base : Place
  ignore : Ignore

namespace Search

/-- The absolute path of a place. -/
def pathOf (place : Place) : String :=
  "/" ++ Path.ofParts place

/-- What the patterns of paths to skip look at in a place. A place outside of the directory has no
other path than its absolute one. -/
def subject (search : Search) (place : Place) : Ignore.Subject :=
  { absolute := pathOf place
    relative :=
      if search.base.isPrefixOf place then Path.ofParts (place.drop search.base.length) else pathOf place }

/-- The place itself, unless the entry there is a directory or it is skipped. -/
def keep (search : Search) (place : Place) (entry : Entry) : List Place :=
  if entry.isDirectory || search.ignore.hides (search.subject place) then [] else [place]

/-- The place itself, unless nothing stands there, a directory does, or it is skipped. -/
def keepAt (search : Search) (place : Place) : List Place :=
  match search.tree.find (pathOf place) false with
  | .ok (_, entry) => search.keep place entry
  | .error _ => []

/-- The place of the directory that another place leads to. -/
def directoryAt (search : Search) (place : Place) : Option Place :=
  match search.tree.find (pathOf place) true with
  | .ok (target, .directory) => some target
  | _ => none

/-- The place of a directory's entry when that is a directory itself. -/
def below? (directory : Place) (name : String) : Entry → Option Place
  | .directory => some (directory ++ [name])
  | _ => none

/-- Whether a link stands at a place. -/
def isLink (search : Search) (place : Place) : Bool :=
  match search.tree.find (pathOf place) false with
  | .ok (_, .link _) => true
  | _ => false

/-- Whether a name starts with a dot. -/
def isHidden (name : String) : Bool :=
  name.toList.head? = some '.'

/-- The text that a segment without wildcards stands for. -/
def nameOf? : Segment → Option String
  | .name text => some (Text.ofUnits text)
  | _ => none

/-- The place that a name leads to from another. -/
def step (place : Place) (name : String) : Place :=
  if name = "" || name = "." then place
  else if name = ".." then place.dropLast
  else place ++ [name]

/-- What is left of segments after the names they begin with, all but the last segment, and where
these names lead. -/
def enter (place : Place) : List Segment → Place × List Segment
  | segment :: next :: rest =>
    match nameOf? segment with
    | some name => enter (step place name) (next :: rest)
    | none => (place, segment :: next :: rest)
  | segments => (place, segments)

mutual

/-- The files that segments lead to from a place. `front` says that they are the whole pattern; then
`**` does not enter a link. `known` is the directory that stands at the place itself, where that is
known to be one. -/
def visit (search : Search) : Nat → Bool → List Segment → Place → Option Place → List Place
  | 0, _, _, _, _ => []
  | fuel + 1, front, segments, start, known =>
    if search.ignore.hidesBelow (search.subject start) then []
    else
      let (place, rest) := enter start segments
      let entered := rest.length < segments.length
      let front := front && !entered
      let known := if entered then none else known
      match rest with
      | [] => []
      | .anyNames :: more =>
        let inside :=
          if front && known.isNone && search.isLink place then [] else search.look fuel front rest place known
        inside ++ match more with
          | [] => if known.isSome then [] else search.keepAt place
          | next :: after =>
            if nameOf? next = some ".." && !after.isEmpty then
              search.look fuel false after place.dropLast none
            else []
      | segment :: _ =>
        match nameOf? segment with
        | some name => if name = "" || name = "." || name = ".." then [] else search.keepAt (place ++ [name])
        | none => search.look fuel front rest place known

/-- The files that segments lead to through the entries of a directory. -/
def look (search : Search) : Nat → Bool → List Segment → Place → Option Place → List Place
  | 0, _, _, _, _ => []
  | fuel + 1, front, segments, place, known =>
    match known.or (search.directoryAt place) with
    | none => []
    | some directory =>
      let entries := search.tree.children directory
      match segments with
      | [] => []
      | .anyNames :: rest =>
        let inside := entries.flatMap fun (name, entry) =>
          if isHidden name then []
          else
            let here := place ++ [name]
            (if rest.isEmpty then search.keep here entry else []) ++
              match entry with
              | .directory => search.visit fuel front segments here (below? directory name entry)
              | .link _ => if rest.isEmpty || front then [] else search.visit fuel false rest here none
              | .file .. => []
        inside ++ match rest with
          | [] => []
          | next :: after =>
            match nameOf? next with
            | some name =>
              if name = ".." then if entries.isEmpty then [] else search.visit fuel false rest place known
              else search.take fuel next after place directory entries
            | none => search.take fuel next after place directory entries
      | segment :: rest => search.take fuel segment rest place directory entries

/-- The files that segments lead to through the entries of a directory that the first one matches. -/
def take (search : Search) :
    Nat → Segment → List Segment → Place → Place → List (String × Entry) → List Place
  | 0, _, _, _, _, _ => []
  | fuel + 1, segment, rest, place, directory, entries =>
    entries.flatMap fun (name, entry) =>
      if segment.accepts false name then
        let here := place ++ [name]
        if rest.isEmpty then search.keep here entry
        else
          match entry with
          | .file .. => []
          | _ => search.visit fuel false rest here (below? directory name entry)
      else []

end

/-- The files that a pattern matches. -/
def run (search : Search) (pattern : Pattern) : List String :=
  let size := (search.tree.entries.length + search.base.length + 2) * (pattern.segments.length + 1)
  (search.visit (3 * size) true pattern.segments search.base none).map pathOf

end Search

/-- An ending without the dot it starts with. -/
def bareEnding (ending : String) : String :=
  match ending.toList with
  | '.' :: rest => String.ofList rest
  | _ => ending

/-- The pattern of all files with the listed endings. -/
def endingPattern (endings : List String) : String :=
  match endings.map bareEnding with
  | [ending] => "**/*." ++ ending
  | several => "**/*.\x7b" ++ ",".intercalate several ++ "\x7d"

/-- A path that could not be inspected. -/
structure Unreachable where
  path : String
  fault : Fault
  deriving DecidableEq, Repr

namespace Unreachable

/-- The failure of a path that could not be inspected. -/
def error (unreachable : Unreachable) : FileError :=
  .io unreachable.path .stat unreachable.fault.message

/-- The outcome of a path that could not be inspected. -/
def outcome (unreachable : Unreachable) : Outcome :=
  .failed unreachable.path "" unreachable.error

end Unreachable

/-- What a search for files found. -/
structure Discovery where
  /-- The files in order of their paths, each once. -/
  files : List String
  /-- The paths that could not be inspected, once for each time they were given. -/
  unreachable : List Unreachable

/-- A search for the files below a directory that a pattern matches, less those to be skipped. -/
abbrev Finder :=
  (directory pattern : String) → (ignore : List String) → Except Glob.Fault (List String)

/-- The search of a tree for files, by a process in the directory `here`. -/
def finder (here : String) (tree : Tree) : Finder := fun directory pattern ignore => do
  let patterns ← Pattern.parse false pattern
  let ignore ← Ignore.parse ignore
  let search : Search := { tree, base := Path.reduce false (Path.against here directory), ignore }
  return patterns.flatMap search.run

/-- The files with the given endings that are found below a directory. -/
def filesBelowBy (find : Finder) (endings ignore : List String) (path : String) :
    Except Glob.Fault (List String) :=
  if endings.isEmpty then .ok []
  else find path (endingPattern endings) (Config.defaultIgnore ++ ignore)

/-- The files that one path leads to, or why it leads nowhere. Fails when a search does. -/
def filesAtBy (find : Finder) (here : String) (tree : Tree) (endings ignore : List String)
    (path : String) : Except Glob.Fault (Except Unreachable (List String)) :=
  match tree.inspectFrom here path with
  | .error fault => .ok (.error { path, fault })
  | .ok .directory => .ok <$> filesBelowBy find endings ignore path
  | .ok _ => .ok (.ok [Path.resolve here path])

/-- The sorted members of a list, each once. -/
def sortedDistinct (paths : List String) : List String :=
  (paths.foldl (fun seen path => if seen.contains path then seen else path :: seen) []).mergeSort
    Text.unitsLe

/-- The files that paths lead to. Fails when a search does. -/
def discoverBy (find : Finder) (here : String) (tree : Tree) (endings ignore paths : List String) :
    Except Glob.Fault Discovery := do
  let found ← paths.mapM (filesAtBy find here tree endings ignore)
  return {
    files := sortedDistinct (found.flatMap fun
      | .ok files => files
      | .error _ => [])
    unreachable := found.filterMap fun
      | .ok _ => none
      | .error unreachable => some unreachable }

/-- The files with the given endings below a directory that an absolute path leads to. -/
def filesBelow (tree : Tree) (endings ignore : List String) (path : String) :
    Except Glob.Fault (List String) :=
  filesBelowBy (finder "/" tree) endings ignore path

/-- The files that one absolute path leads to, or why it leads nowhere. Fails when a pattern cannot be
used. -/
def filesAt (tree : Tree) (endings ignore : List String) (path : String) :
    Except Glob.Fault (Except Unreachable (List String)) :=
  filesAtBy (finder "/" tree) "/" tree endings ignore path

/-- The files that paths lead to for a process in the directory `here`. Fails when a pattern cannot be
used. -/
def discoverFrom (here : String) (tree : Tree) (endings ignore paths : List String) :
    Except Glob.Fault Discovery :=
  discoverBy (finder here tree) here tree endings ignore paths

/-- The files that absolute paths lead to, for which it does not matter where the process is. -/
def discover (tree : Tree) (endings ignore paths : List String) : Except Glob.Fault Discovery :=
  discoverFrom "/" tree endings ignore paths

/-- The outcomes of paths that could not be inspected. -/
def Discovery.failures (discovery : Discovery) : List Outcome :=
  discovery.unreachable.map Unreachable.outcome

end Codemod.Files
