import Codemod.Value
import Codemod.Yaml.Failure

/-!
# Reading a document unit by unit

A reader stands at a position of the text and knows its line, where that line
starts, how far it is indented, and where its indentation holds a tab. It also
keeps the nodes that have been named and the prefixes of tags.
-/
namespace Codemod.Yaml

/-- Reading in progress. -/
structure State where
  input : Array Nat
  position : Nat := 0
  line : Nat := 0
  lineStart : Nat := 0
  lineIndent : Nat := 0
  /-- The first tab among the blanks that start the line. -/
  firstTab : Option Nat := none
  /-- The nodes named so far, the latest first. -/
  anchors : List (String × Value) := []
  /-- The prefixes that the document declares for tag handles. -/
  handles : List (String × String) := []
  /-- The document has declared its version. -/
  versioned : Bool := false
  /-- The number of nodes within one another that are being read. -/
  depth : Nat := 0

/-- A computation that reads a document. -/
abbrev Reader := StateT State (Except Failure)

/-- A space or a tab. -/
def isBlank (unit : Nat) : Bool :=
  unit == 0x20 || unit == 0x09

/-- A line break. -/
def isBreak (unit : Nat) : Bool :=
  unit == 0x0A || unit == 0x0D

/-- A blank or a line break. -/
def isSpace (unit : Nat) : Bool :=
  isBlank unit || isBreak unit

/-- A unit that structures a collection in brackets. -/
def isFlowSign (unit : Nat) : Bool :=
  unit == ','.toNat || unit == '['.toNat || unit == ']'.toNat || unit == 0x7B || unit == 0x7D

/-- The first position from `at'` on whose unit does not satisfy a test. -/
def scan (input : Array Nat) (test : Nat → Bool) : Nat → Nat → Nat
  | 0, at' => at'
  | fuel + 1, at' =>
    match input[at']? with
    | some unit => if test unit then scan input test fuel (at' + 1) else at'
    | none => at'

namespace State

/-- The unit at a distance from the position, zero beyond the end. -/
def unitAt (state : State) (offset : Nat) : Nat :=
  state.input.getD (state.position + offset) 0

/-- The first position from here on whose unit does not satisfy a test. -/
def scanned (state : State) (test : Nat → Bool) : Nat :=
  scan state.input test (state.input.size + 1 - state.position) state.position

/-- The units between two positions. -/
def slice (state : State) (start stop : Nat) : List Nat :=
  (state.input.extract start stop).toList

/-- A failure at the position. -/
def failure (state : State) (reason : String) : Failure :=
  { reason, shown := state.input.toList, position := state.position, line := state.line
    lineStart := state.lineStart }

/-- Whether a mark between documents stands here: three dashes or dots and a space. -/
def atSeparator (state : State) : Bool :=
  let unit := state.unitAt 0
  let after := state.unitAt 3
  (unit == '-'.toNat || unit == '.'.toNat) && state.unitAt 1 == unit && state.unitAt 2 == unit
    && (after == 0 || isSpace after)

/-- Whether the position is at the start of a line where a mark between documents stands. -/
def atLineSeparator (state : State) : Bool :=
  state.position == state.lineStart && state.atSeparator

end State

/-- Stops with a reason. -/
def fail {α : Type} (reason : String) : Reader α := do
  throw ((← get).failure reason)

/-- The unit at the position, zero at the end. -/
def peek : Reader Nat := do
  return (← get).unitAt 0

/-- The unit after the one at the position. -/
def peekNext : Reader Nat := do
  return (← get).unitAt 1

/-- Moves on by some units. -/
def advance (count : Nat) : Reader Unit :=
  modify fun state => { state with position := state.position + count }

/-- Moves to the first unit that does not satisfy a test. -/
def skipWhile (test : Nat → Bool) : Reader Unit :=
  modify fun state => { state with position := state.scanned test }

/-- The line of the position. -/
def currentLine : Reader Nat := do
  return (← get).line

/-- Reads a line break. -/
def readBreak : Reader Unit := do
  let unit ← peek
  if unit == 0x0A then advance 1
  else if unit == 0x0D then advance (if (← peekNext) == 0x0A then 2 else 1)
  else fail "a line break is expected"
  modify fun state =>
    { state with line := state.line + 1, lineStart := state.position, firstTab := none }

/-- Skips blanks, noticing the first tab of the line. -/
def skipBlanks : Reader Unit :=
  modify fun state =>
    let stop := state.scanned isBlank
    let tab := scan state.input (· == 0x20) (stop - state.position) state.position
    { state with position := stop
                 firstTab := state.firstTab.or (if tab < stop then some tab else none) }

/-- Skips a comment. -/
def skipComment : Reader Unit :=
  skipWhile fun unit => !isBreak unit && unit != 0

/-- Skips the spaces that indent a line. -/
def readIndent : Reader Unit :=
  modify fun state =>
    let stop := state.scanned (· == 0x20)
    { state with lineIndent := stop - state.position, position := stop }

/-- Skips blanks, line breaks and, when allowed, comments; gives the number of line breaks. -/
def skipLines (comments : Bool) : Nat → Reader Nat
  | 0 => return 0
  | fuel + 1 => do
    skipBlanks
    if comments && (← peek) == '#'.toNat then skipComment
    if isBreak (← peek) then
      readBreak
      readIndent
      return (← skipLines comments fuel) + 1
    else return 0

/-- Skips what separates nodes; gives the number of line breaks. -/
def skipSpace (comments : Bool) : Reader Nat := do
  skipLines comments ((← get).input.size + 1)

end Codemod.Yaml
