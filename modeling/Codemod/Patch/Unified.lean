import Codemod.Patch.Script

/-!
# Unified patches

A patch lists the changed places of a text as hunks: each has the line where it
starts and the number of lines it covers on both sides, some unchanged lines
around the change, and the removed and added lines. Two changes stand in one
hunk when at most twice the context lies between them. A line break ends a
line; a last line without one is followed by a mark.
-/
namespace Codemod.Patch

/-- The lines of a text, each with its line break; the last may lack it. -/
def splitLines : List Char → List (List Char)
  | [] => []
  | c :: rest =>
    if c = '\n' then [c] :: splitLines rest
    else
      match splitLines rest with
      | [] => [[c]]
      | line :: lines => (c :: line) :: lines

/-- The lines of a text with their line breaks. -/
def linesOf (text : String) : Array String :=
  ((splitLines text.toList).map String.ofList).toArray

/-- A line without its line break. -/
def bare (line : String) : String :=
  match line.toList.reverse with
  | '\n' :: rest => String.ofList rest.reverse
  | _ => line

/-- Whether a text ends with a line break. -/
def endsWithBreak (text : String) : Bool :=
  text.toList.getLast? == some '\n'

/-- The mark after a last line that has no line break. -/
def noBreakMark : String :=
  "\\ No newline at end of file"

/-- A changed place of a text with the lines around it. -/
structure Hunk where
  oldStart : Nat
  oldCount : Nat
  newStart : Nat
  newCount : Nat
  lines : List String
  deriving Repr

/-- The lines of one run of a script, without line breaks. -/
structure Block where
  change : Change
  lines : List String

/-- The blocks of a script with the lines they are about. -/
def blocks (old new : Array String) : List Run → Nat → Nat → List Block
  | [], _, _ => []
  | run :: rest, i, j =>
    let taken (lines : Array String) (start : Nat) : List String :=
      (lines.toList.drop start |>.take run.count).map bare
    match run.change with
    | .keep => { change := .keep, lines := taken new j } :: blocks old new rest (i + run.count) (j + run.count)
    | .remove => { change := .remove, lines := taken old i } :: blocks old new rest (i + run.count) j
    | .add => { change := .add, lines := taken new j } :: blocks old new rest i (j + run.count)

/-- The hunk being collected: where it starts on both sides and its lines so far. -/
structure OpenHunk where
  oldStart : Nat
  newStart : Nat
  lines : List String

/-- The last `count` members of a list. -/
def lastOf (count : Nat) (lines : List String) : List String :=
  lines.drop (lines.length - count)

/-- The mark lines that belong into the last hunk when it reaches the end of the text. -/
def markEnd (old new : String) (trailing : Nat) (oldCount : Nat) (lines : List String) : List String :=
  let oldBroken := endsWithBreak old
  let newBroken := endsWithBreak new
  let beforeAdds := trailing == 0 && lines.length > oldCount
  let lines :=
    if !oldBroken && beforeAdds && !old.isEmpty then
      lines.take oldCount ++ noBreakMark :: lines.drop oldCount
    else lines
  if (!oldBroken && !beforeAdds) || !newBroken then lines ++ [noBreakMark] else lines

/-- The hunks of a list of blocks. `previous` holds the lines of the block before, if there is
one, and the line numbers count from one. -/
def hunksFrom (old new : String) (context : Nat) :
    List Block → Option (List String) → Option OpenHunk → Nat → Nat → List Hunk
  | [], _, none, _, _ => []
  | [], _, some hunk, oldLine, newLine =>
    let oldCount := oldLine - hunk.oldStart
    [{ oldStart := hunk.oldStart, oldCount, newStart := hunk.newStart, newCount := newLine - hunk.newStart
       lines := markEnd old new 0 oldCount hunk.lines }]
  | block :: rest, previous, current, oldLine, newLine =>
    let size := block.lines.length
    match block.change with
    | .keep =>
      match current with
      | none => hunksFrom old new context rest (some block.lines) none (oldLine + size) (newLine + size)
      | some hunk =>
        if size ≤ context * 2 && !rest.isEmpty then
          let hunk := { hunk with lines := hunk.lines ++ block.lines.map (" " ++ ·) }
          hunksFrom old new context rest (some block.lines) (some hunk) (oldLine + size) (newLine + size)
        else
          let trailing := min size context
          let lines := hunk.lines ++ (block.lines.take trailing).map (" " ++ ·)
          let oldCount := oldLine - hunk.oldStart + trailing
          let newCount := newLine - hunk.newStart + trailing
          let lines := if rest.isEmpty && size ≤ context then markEnd old new size oldCount lines else lines
          { oldStart := hunk.oldStart, oldCount, newStart := hunk.newStart, newCount, lines }
            :: hunksFrom old new context rest (some block.lines) none (oldLine + size) (newLine + size)
    | change =>
      let hunk := match current with
        | some hunk => hunk
        | none =>
          let before := lastOf context (previous.getD [])
          { oldStart := oldLine - before.length, newStart := newLine - before.length
            lines := before.map (" " ++ ·) }
      let sign := if change = .add then "+" else "-"
      let hunk := { hunk with lines := hunk.lines ++ block.lines.map (sign ++ ·) }
      let oldLine := if change = .add then oldLine else oldLine + size
      let newLine := if change = .add then newLine + size else newLine
      hunksFrom old new context rest (some block.lines) (some hunk) oldLine newLine

/-- The hunks between two texts. -/
def hunks (old new : String) (context : Nat) : List Hunk :=
  let oldLines := linesOf old
  let newLines := linesOf new
  hunksFrom old new context (blocks oldLines newLines (script oldLines newLines) 0 0) none none 1 1

/-- One side of a hunk's heading; an empty side starts at the line before it. -/
def rangeText (start count : Nat) : String :=
  toString (if count = 0 then start - 1 else start) ++ "," ++ toString count

/-- The heading and lines of a hunk. -/
def Hunk.text (hunk : Hunk) : List String :=
  ("@@ -" ++ rangeText hunk.oldStart hunk.oldCount ++ " +" ++ rangeText hunk.newStart hunk.newCount ++ " @@")
    :: hunk.lines

/-- The number of unchanged lines shown around a change, unless another is asked for. -/
def defaultContext : Nat :=
  3

/-- The patch between two texts under the name of a file. -/
def unified (name old new : String) (context : Nat) : String :=
  let heading := [String.ofList (List.replicate 67 '='), "--- a/" ++ name, "+++ b/" ++ name]
  "\n".intercalate (heading ++ (hunks old new context).flatMap Hunk.text) ++ "\n"

end Codemod.Patch
