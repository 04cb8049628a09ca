import Codemod.Glob.Brace
import Codemod.Glob.Segment

/-!
# Patterns for paths

A pattern for paths is a list of patterns for names, after its braces are
expanded. `**` between slashes stands for any number of names, at the end for at
least one. Names of one or two dots are taken out where they can be, and
patterns that say the same are made one.
-/
namespace Codemod.Glob

/-- The parts of a text between slashes, several slashes counting as one. -/
def slashParts (text : String) : List String :=
  squeeze (Text.split '/' text)
where
  /-- Parts without the empty ones, but for the first and the last. -/
  squeeze : List String → List String
    | first :: rest => first :: inner rest
    | [] => []
  /-- Later parts without the empty ones, but for the last. -/
  inner : List String → List String
    | [] => []
    | [last] => [last]
    | part :: rest => if part = "" then inner rest else part :: inner rest

/-- Parts without a dot or nothing between others. -/
def dropDots : List String → List String
  | first :: rest =>
    match first :: inner rest with
    | [".", "."] | [".", ""] => ["."]
    | parts => parts
  | [] => []
where
  /-- Later parts without dots and empty ones, but for the last. -/
  inner : List String → List String
    | [] => []
    | [last] => [last]
    | part :: rest => if part = "." || part = "" then inner rest else part :: inner rest

/-- Whether two dots after a part lead back to what stands before it. -/
def isUndone (part : String) : Bool :=
  part ≠ "" && part ≠ "." && part ≠ ".." && part ≠ "**"

/-- Takes out a part and the two dots after it; `done` holds the parts so far, last first. A `**` that
would come first that way keeps a dot before it when `keepDot`. -/
def dropParents (keepDot : Bool) : List String → List String → List String
  | done, [] => done.reverse
  | done, part :: rest =>
    match done with
    | last :: before =>
      if part = ".." && isUndone last then
        let before := if keepDot && before.isEmpty && rest.head? = some "**" then ["."] else before
        dropParents keepDot before rest
      else dropParents keepDot (part :: done) rest
    | [] => dropParents keepDot [part] rest

/-- Parts, or an empty part when there are none. -/
def orEmpty (parts : List String) : List String :=
  if parts.isEmpty then [""] else parts

/-- The parts of a path without the dots in it that can be taken out. -/
def pathParts (path : String) : List String :=
  let parts := slashParts path
  reduce parts.length parts
where
  /-- Takes dots out as long as that changes anything. -/
  reduce : Nat → List String → List String
    | 0, parts => orEmpty parts
    | fuel + 1, parts =>
      let next := dropParents false [] (dropDots parts)
      if next = parts then orEmpty parts else reduce fuel next

/-- Several `**` in a row are one. -/
def joinStars : List String → List String
  | first :: second :: rest =>
    if first = "**" && second = "**" then joinStars (second :: rest)
    else first :: joinStars (second :: rest)
  | parts => parts

/-- Parts of a pattern and further ones that were split off. -/
structure Split where
  parts : List String
  others : List (List String) := []

/-- Whether a part is more than dots. -/
def isProper (part : String) : Bool :=
  part ≠ "" && part ≠ "." && part ≠ ".."

/-- Divides `**` before two dots and two proper parts: either it stands for nothing, or it takes the
place of the dots. Several `**` in a row are one once they are come to. -/
def splitStars : Nat → List String → List String → Split
  | 0, done, parts => { parts := done.reverse ++ parts }
  | _, done, [] => { parts := done.reverse }
  | fuel + 1, done, part :: rest =>
    if part = "**" then
      let rest := rest.dropWhile (· = "**")
      match rest with
      | ".." :: first :: second :: more =>
        if isProper first && isProper second then
          let other := done.reverse ++ "**" :: first :: second :: more
          let split := splitStars fuel done rest
          { split with others := other :: split.others }
        else splitStars fuel (part :: done) rest
      | _ => splitStars fuel (part :: done) rest
    else splitStars fuel (part :: done) rest

/-- Takes one pattern through all simplifications once; `true` when that changed more than rows of
`**`. -/
def simplifyOnce (parts : List String) : Split × Bool :=
  let joined := joinStars parts
  let split := splitStars (parts.length + 1) [] parts
  let result := orEmpty (dropParents true [] (dropDots split.parts))
  ({ split with parts := result }, result ≠ joined || !split.others.isEmpty)

/-- Takes all patterns through the simplifications once, those that are split off last. -/
def simplifyAll : Nat → List (List String) → List (List String) × Bool
  | 0, patterns => (patterns, false)
  | _, [] => ([], false)
  | fuel + 1, parts :: rest =>
    let (split, changed) := simplifyOnce parts
    let (others, more) := simplifyAll fuel (rest ++ split.others)
    (split.parts :: others, changed || more)

/-- Simplifies patterns as long as that changes anything. -/
def simplify (size : Nat) : Nat → List (List String) → List (List String)
  | 0, patterns => patterns
  | fuel + 1, patterns =>
    let (patterns, changed) := simplifyAll size patterns
    if changed then simplify size fuel patterns else patterns

/-- Which of two patterns has stars where they differ. -/
inductive Wider where
  | neither
  | left
  | right
  deriving DecidableEq, Repr

/-- The parts that two patterns have in common when a star stands for the part of the other, and `**`
for nothing. Stars are taken from one of the patterns only. -/
def commonParts (dot : Bool) : Nat → Wider → List String → List String → Option (List String)
  | 0, _, _, _ => none
  | _, _, [], _ | _, _, _, [] => some []
  | fuel + 1, wider, a :: as, b :: bs =>
    let covers (part : String) : Bool :=
      part ≠ "" && part ≠ "**" && (dot || part.toList.head? ≠ some '.')
    if a = b then (commonParts dot fuel wider as bs).map (a :: ·)
    else if a = "**" && as.head? = some b then (commonParts dot fuel wider as (b :: bs)).map (a :: ·)
    else if b = "**" && bs.head? = some a then (commonParts dot fuel wider (a :: as) bs).map (b :: ·)
    else if a = "*" && covers b && wider ≠ .right then (commonParts dot fuel .left as bs).map (a :: ·)
    else if a = "*" && covers b then none
    else if b = "*" && covers a && wider ≠ .left then (commonParts dot fuel .right as bs).map (b :: ·)
    else none

/-- One pattern for two of the same size that differ in stars only. -/
def unite? (dot : Bool) (left right : List String) : Option (List String) :=
  if left.length = right.length then commonParts dot (left.length + right.length + 1) .neither left right
  else none

/-- The patterns with another united with the first that allows it. -/
def uniteWith? (dot : Bool) (pattern : List String) : List (List String) → Option (List (List String))
  | [] => none
  | other :: rest =>
    match unite? dot pattern other with
    | some united => some (united :: rest)
    | none => (uniteWith? dot pattern rest).map (other :: ·)

/-- Patterns of which no two can be united. -/
def uniteAll (dot : Bool) : Nat → List (List String) → List (List String)
  | 0, patterns => patterns
  | _, [] => []
  | fuel + 1, pattern :: rest =>
    match uniteWith? dot pattern rest with
    | some rest => uniteAll dot fuel rest
    | none => pattern :: uniteAll dot fuel rest

/-- The parts of the patterns that a text stands for. -/
def patternParts (dot : Bool) (pattern : String) : List (List String) :=
  let patterns := (expandBraces pattern).map slashParts
  let dots := patterns.foldl (fun count parts => max count (parts.count "..")) 0
  let parts := patterns.foldl (fun count parts => count + parts.length) 0
  let size := (parts + 1) * Nat.pow 2 dots
  let simplified := simplify size size patterns
  uniteAll dot simplified.length simplified

/-- A pattern for paths. -/
structure Pattern where
  parts : List String
  segments : List Segment

namespace Pattern

/-- The pattern of simplified parts. -/
def ofParts (dot : Bool) (parts : List String) : Except Fault Pattern := do
  return { parts, segments := ← parts.mapM (Segment.parse dot) }

/-- The patterns that a text stands for. -/
def parse (dot : Bool) (pattern : String) : Except Fault (List Pattern) :=
  if Text.width pattern > Segment.maxSize then .error .tooLong
  else if pattern = "" then .ok []
  else (patternParts dot pattern).mapM (ofParts dot)

/-- Whether a pattern starts at the root. -/
def isAbsolute (pattern : Pattern) : Bool :=
  match pattern.segments with
  | .name [] :: _ :: _ => true
  | _ => false

/-- The text of a pattern. -/
def text (pattern : Pattern) : String :=
  match pattern.isAbsolute, pattern.parts with
  | true, _ :: "" :: rest => "/" ++ "/".intercalate rest
  | true, first :: rest => first ++ "/" ++ "/".intercalate rest
  | _, parts => "/".intercalate parts

/-- Whether segments match names one by one. A path that ends in a slash has an empty name last,
which need not be matched. -/
def matchEach : List Segment → List String → Bool
  | [], [] => true
  | [], [last] => last = ""
  | [], _ => false
  | _ :: _, [] => false
  | segment :: rest, name :: names => segment.accepts true name && matchEach rest names

/-- Whether a name is one that `**` never stands for. -/
def isBarrier (name : String) : Bool :=
  name = "." || name = ".."

/-- Whether a segment is `**`. -/
def isAnyNames : Segment → Bool
  | .anyNames => true
  | _ => false

/-- The segments between those that stand for any names, at least one list. -/
def sections : List Segment → List (List Segment)
  | [] => [[]]
  | segment :: rest =>
    if isAnyNames segment then [] :: sections rest
    else
      match sections rest with
      | [] => [[segment]]
      | first :: more => (segment :: first) :: more

/-- How many sections between `**` are looked for. -/
def maxSections : Nat :=
  200

/-- Looks for a place from `place` on, of which there are `count`. The search ends where `go` gives an
answer at a fitting place, and fails for good at a barrier. -/
def seek (fits stops : Nat → Bool) (go : Nat → Option Bool) : Nat → Nat → Option Bool
  | 0, _ => none
  | count + 1, place =>
    let answer := if fits place then go place else some false
    if answer ≠ some false then answer
    else if stops place then some false
    else seek fits stops go count (place + 1)

/-- Finds sections one after the other among names from a place on, each with the last place where it
may stand. None when a section has no place; `some false` when a barrier is in the way. -/
def placeSections (names : List String) (tailed : Bool) :
    Nat → List (List Segment × Int) → Nat → Option Bool
  | _, [], place =>
    let left := names.drop place
    some (!left.any isBarrier && (tailed || !left.isEmpty))
  | depth, (body, last) :: rest, place =>
    seek
      (fun place => decide (depth < maxSections)
        && matchEach body ((names.drop place).take body.length))
      (fun place => names[place]?.any isBarrier)
      (fun place => placeSections names tailed (depth + 1) rest (place + body.length))
      (last + 1 - (place : Int)).toNat place

/-- The last places of sections, when `size` names are left for them. The later a section, the
fewer of the sections before it count. -/
def lastPlaces (size : Int) (bodies : List (List Segment)) : List (List Segment × Int) :=
  let before := sums 0 (bodies.map (·.length))
  bodies.zip (before.reverse.zip bodies |>.map fun (count, body) => size - (count + body.length : Nat))
where
  /-- For each size the sum of those before it. -/
  sums (total : Nat) : List Nat → List Nat
    | [] => []
    | size :: rest => total :: sums (total + size) rest

/-- Whether segments with `**` among them match names. -/
def matchSections (segments : List Segment) (names : List String) : Bool :=
  match sections segments with
  | [] | [_] => matchEach segments names
  | head :: more =>
    let tail := more.getLast?.getD []
    let bodies := more.dropLast
    let start := head.length
    if !matchEach head (names.take start) then false
    else
      let left := names.drop start
      let ends (skip : Nat) : Bool :=
        matchEach tail (left.drop (left.length - tail.length - skip))
      let matched : Option Nat :=
        if tail.isEmpty then some 0
        else if tail.length > left.length then none
        else if ends 0 then some tail.length
        else if names.getLast? = some "" && tail.length < left.length && ends 1 then some (tail.length + 1)
        else none
      match matched with
      | none => false
      | some size =>
        let tailed := size > 0
        if bodies.isEmpty then
          let inner := left.take (left.length - size)
          !inner.any isBarrier && (tailed || !inner.isEmpty)
        else
          placeSections names tailed 0 (lastPlaces (names.length - size : Int) bodies) start = some true

/-- Whether a path matches a pattern that allows dots. -/
def accepts (pattern : Pattern) (path : String) : Bool :=
  matchSections pattern.segments (pathParts path)

end Pattern

/-- A pattern of paths to skip, and the patterns that it stands for. -/
structure Skip where
  patterns : List Pattern
  /-- The patterns are about absolute paths. -/
  absolute : Bool
  /-- Everything below a directory that matches is skipped. -/
  children : Bool

/-- The patterns of the paths to skip; they match names that start with a dot. -/
structure Ignore where
  skips : List Skip

namespace Ignore

/-- A pattern without the dots that lead nowhere at its start. -/
def dropHere : List String → List Segment → Pattern
  | "." :: parts, _ :: segments => dropHere parts segments
  | parts, segments => { parts, segments }

/-- The pattern of paths to skip that one pattern gives, read once more from its text. -/
def skipOf (pattern : Pattern) : Except Fault Skip := do
  let pattern := dropHere pattern.parts pattern.segments
  if pattern.parts.isEmpty then .error .emptyPattern
  else
    return { patterns := ← Pattern.parse true pattern.text, absolute := pattern.isAbsolute
             children := pattern.parts.getLast? = some "**" }

/-- The patterns that texts stand for. -/
def parse (texts : List String) : Except Fault Ignore := do
  let skips ← texts.mapM fun text => do (← Pattern.parse true text).mapM skipOf
  return { skips := skips.flatten }

/-- A file or directory, known by its path below the place searched and by its absolute path. -/
structure Subject where
  relative : String
  absolute : String

/-- The path of a subject that a pattern is about. -/
def Subject.pathFor (subject : Subject) (skip : Skip) : String :=
  if skip.absolute then subject.absolute
  else if subject.relative = "" then "."
  else subject.relative

/-- Whether a file is skipped. -/
def hides (ignore : Ignore) (subject : Subject) : Bool :=
  ignore.skips.any fun skip =>
    let path := subject.pathFor skip
    skip.patterns.any fun pattern => pattern.accepts path || pattern.accepts (path ++ "/")

/-- Whether everything in a directory is skipped. -/
def hidesBelow (ignore : Ignore) (subject : Subject) : Bool :=
  ignore.skips.any fun skip =>
    skip.children && skip.patterns.any fun pattern => pattern.accepts (subject.pathFor skip ++ "/")

end Ignore

end Codemod.Glob
