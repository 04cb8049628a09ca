import Codemod.Text.Units

/-!
# What is wrong with a document

A failure is shown with the place where it was noticed and an excerpt of the
text: up to three lines before that place, its line with a mark below it, and up
to two lines after. Long lines are cut around the place, and tabs are made
visible. Lines and columns are counted from one, columns in units.
-/
namespace Codemod.Yaml

/-- The lines of a text: where each starts, and where it ends if a line break or a zero ends it. -/
structure Line where
  start : Nat
  stop : Option Nat
  deriving DecidableEq, Repr, Inhabited

/-- The lines of a text, with the position read so far. -/
def linesFrom : Nat → Nat → List Nat → List Line
  | start, _, [] => [{ start, stop := none }]
  | start, at', unit :: rest =>
    if unit = 0x0D then
      match rest with
      | [] => { start, stop := some at' } :: linesFrom (at' + 1) (at' + 1) []
      | next :: more =>
        if next = 0x0A then { start, stop := some at' } :: linesFrom (at' + 2) (at' + 2) more
        else { start, stop := some at' } :: linesFrom (at' + 1) (at' + 1) (next :: more)
    else if unit = 0x0A || unit = 0 then
      { start, stop := some at' } :: linesFrom (at' + 1) (at' + 1) rest
    else linesFrom start (at' + 1) rest

/-- A failure and where it was noticed. -/
structure Failure where
  reason : String
  /-- The text that is shown. -/
  shown : List Nat
  position : Nat
  line : Nat
  lineStart : Nat
  deriving DecidableEq, Repr

namespace Failure

/-- The greatest length of a line of the excerpt. -/
def maxLength : Nat :=
  79

/-- A cut of a line around a place, and the place in it. -/
structure Cut where
  text : String
  place : Nat

/-- The part of a line around a position, at most `size` long. -/
def cut (shown : List Nat) (line : Line) (position : Int) (size : Nat) : Cut :=
  let half : Int := (size / 2 : Nat) - 1
  let headCut := position - line.start > half
  let start : Int := if headCut then position - half + 5 else line.start
  let tailCut := match line.stop with
    | some stop => decide ((stop : Int) - position > half)
    | none => false
  let stop : Int := if tailCut then position + half - 4 else match line.stop with
    | some stop => (stop : Int)
    | none => (shown.length : Int)
  let units := (shown.take stop.toNat).drop start.toNat
  let text := Text.ofUnits (units.map fun unit => if unit = 9 then 0x2192 else unit)
  { text := (if headCut then " ... " else "") ++ text ++ (if tailCut then " ..." else "")
    place := (position - start + (if headCut then 5 else 0)).toNat }

/-- A text at the right end of a field. -/
def padLeft (text : String) (size : Nat) : String :=
  String.ofList (List.replicate (size - text.length) ' ') ++ text

/-- The excerpt around the place of a failure. -/
def excerpt (failure : Failure) : String :=
  let lines := linesFrom 0 0 failure.shown
  let ended := lines.length - 1
  let found := (lines.findIdx? fun line => line.stop.any (failure.position ≤ ·)).getD ended
  let digits := (toString (min (failure.line + 2) ended)).length
  let size := maxLength - (digits + 4)
  let startOf (index : Nat) : Nat := (lines.getD index default).start
  let show' (index number : Nat) : Cut × String :=
    let offset : Int := (startOf found : Int) - startOf index
    let piece := cut failure.shown (lines.getD index default) (failure.position - offset) size
    (piece, " " ++ padLeft (toString number) digits ++ " | " ++ piece.text)
  let before := ((List.range (min 3 found)).map fun i =>
    (show' (found - (i + 1)) (failure.line + 1 - (i + 1))).2).reverse
  let (piece, here) := show' found (failure.line + 1)
  let mark := String.ofList (List.replicate (digits + 4 + piece.place) '-') ++ "^"
  let after := ((List.range 2).filter fun i => found + i + 1 < ended).map fun i =>
    (show' (found + i + 1) (failure.line + i + 2)).2
  "\n".intercalate (before ++ [here, mark] ++ after)

/-- The message of a failure. -/
def message (failure : Failure) : String :=
  let column : Int := failure.position - failure.lineStart + 1
  failure.reason ++ " (" ++ toString (failure.line + 1) ++ ":" ++ toString column ++ ")\n\n"
    ++ failure.excerpt

end Failure

end Codemod.Yaml
