import Std.Data.TreeMap

/-!
# Line scripts

A script says how to get from one list of lines to another: runs of kept,
removed and added lines in order. The script is found by a greedy search over
diagonals: a path is the script so far and the lines it has used on both sides,
diagonal `d` holds the furthest path that has used `d` more old lines than new
ones, and each round allows one more edit. Where an insertion and a removal
reach a diagonal equally far, the removal is taken; in the finished script a
removal stands before the insertion next to it.
-/
namespace Codemod.Patch

/-- What a run of a script does with its lines. -/
inductive Change where
  | keep
  | remove
  | add
  deriving DecidableEq, Repr

/-- Some consecutive lines treated alike. -/
structure Run where
  change : Change
  count : Nat
  deriving DecidableEq, Repr

/-- A script in progress, its last run first, and the number of old lines it has used. -/
structure Path where
  usedOld : Nat
  runs : List Run
  deriving Repr

namespace Path

/-- One more removed or added line at the end of a path. -/
def edit (path : Path) (change : Change) : Path :=
  let usedOld := if change = .remove then path.usedOld + 1 else path.usedOld
  match path.runs with
  | last :: earlier =>
    if last.change = change then { usedOld, runs := { last with count := last.count + 1 } :: earlier }
    else { usedOld, runs := { change, count := 1 } :: path.runs }
  | [] => { usedOld, runs := [{ change, count := 1 }] }

/-- The number of lines that agree from the given places on. -/
def commonCount (old new : Array String) (i j : Nat) : Nat → Nat
  | 0 => 0
  | fuel + 1 =>
    match old[i]?, new[j]? with
    | some a, some b => if a = b then commonCount old new (i + 1) (j + 1) fuel + 1 else 0
    | _, _ => 0

/-- The path with all lines kept that agree after it, and the new lines it has used. -/
def follow (path : Path) (old new : Array String) (diagonal : Int) : Path × Nat :=
  let usedNew := ((path.usedOld : Int) - diagonal).toNat
  let count := commonCount old new path.usedOld usedNew old.size
  if count = 0 then (path, usedNew)
  else
    ({ usedOld := path.usedOld + count, runs := { change := .keep, count } :: path.runs },
      usedNew + count)

end Path

/-- The furthest path on each diagonal, and the diagonals still worth trying. -/
structure Search where
  best : Std.TreeMap Int Path
  least : Option Int
  greatest : Option Int

/-- Whether the path on the diagonal above can go on to a diagonal with one more new line. -/
def Path.canAdd (path : Path) (new : Array String) (diagonal : Int) : Bool :=
  let usedNew := (path.usedOld : Int) - 1 - diagonal
  0 ≤ usedNew && usedNew < new.size

/-- The path that goes on to a diagonal, if one can, given those on the diagonals below and above:
the one that has used more old lines then. -/
def Path.further (old new : Array String) (diagonal : Int) (below above : Option Path) : Option Path :=
  match below.filter (·.usedOld < old.size), above.filter (·.canAdd new diagonal) with
  | some before, some after =>
    if before.usedOld + 1 < after.usedOld then some (after.edit .add) else some (before.edit .remove)
  | some before, none => some (before.edit .remove)
  | none, some after => some (after.edit .add)
  | none, none => none

namespace Search

/-- The last diagonal that a round tries. -/
def last (search : Search) (rounds : Int) : Int :=
  match search.greatest with
  | some bound => min bound rounds
  | none => rounds

/-- The first diagonal that a round tries. -/
def first (search : Search) (rounds : Int) : Int :=
  match search.least with
  | some bound => max bound (-rounds)
  | none => -rounds

/-- The search without the path below a diagonal and the one on it. -/
def abandon (search : Search) (diagonal : Int) : Search :=
  { search with best := (search.best.erase (diagonal - 1)).erase diagonal }

/-- The search with a path on a diagonal in place of the one below. Beyond a diagonal whose path has
used all lines of one side nothing is worth trying. -/
def record (search : Search) (old new : Array String) (diagonal : Int) (path : Path) (usedNew : Nat) :
    Search where
  best := (search.best.erase (diagonal - 1)).insert diagonal path
  least :=
    if usedNew ≥ new.size then
      some (match search.least with
        | some bound => max bound (diagonal + 1)
        | none => diagonal + 1)
    else search.least
  greatest :=
    if path.usedOld ≥ old.size then
      some (match search.greatest with
        | some bound => min bound (diagonal - 1)
        | none => diagonal - 1)
    else search.greatest

/-- Tries the diagonals from `diagonal` up to `rounds` by twos; a finished path ends the search. -/
def sweep (old new : Array String) (rounds : Int) : Nat → Int → Search → Except Path Search
  | 0, _, search => .ok search
  | fuel + 1, diagonal, search =>
    if diagonal > search.last rounds then .ok search
    else
      match Path.further old new diagonal search.best[diagonal - 1]? search.best[diagonal + 1]? with
      | none => sweep old new rounds fuel (diagonal + 2) (search.abandon diagonal)
      | some path =>
        let (path, usedNew) := path.follow old new diagonal
        if path.usedOld ≥ old.size && usedNew ≥ new.size then .error path
        else sweep old new rounds fuel (diagonal + 2) (search.record old new diagonal path usedNew)

/-- Rounds of the search, each with one more edit, until a path is finished. -/
def run (old new : Array String) : Nat → Nat → Search → List Run
  | 0, _, _ => []
  | fuel + 1, rounds, search =>
    match sweep old new rounds (rounds + 2) (search.first rounds) search with
    | .error path => path.runs.reverse
    | .ok next => run old new fuel (rounds + 1) next

end Search

/-- Puts each removal before an insertion that stands directly in front of it. -/
def removalsFirst : List Run → List Run
  | first :: second :: rest =>
    if first.change = .add ∧ second.change = .remove then second :: first :: removalsFirst rest
    else first :: removalsFirst (second :: rest)
  | runs => runs

/-- The script from the old lines to the new ones. -/
def script (old new : Array String) : List Run :=
  let (path, usedNew) := Path.follow { usedOld := 0, runs := [] } old new 0
  if path.usedOld ≥ old.size && usedNew ≥ new.size then [{ change := .keep, count := new.size }]
  else
    removalsFirst
      (Search.run old new (old.size + new.size + 1) 1
        { best := (∅ : Std.TreeMap Int Path).insert 0 path, least := none, greatest := none })

end Codemod.Patch
