import Codemod.Syntax.Lexer

/-!
# Comments of a text

A comment belongs to what it stands next to. The comments that trail a position
are those up to the end of its line; the comments that lead it start on later
lines, or anywhere when the position is the start of the text.
-/
namespace Codemod.Syntax

/-- A comment of a text. -/
structure Comment where
  start : Nat
  stop : Nat
  /-- The comment lies between brackets of its own instead of ending with its line. -/
  block : Bool
  /-- A line break follows. -/
  newline : Bool
  deriving Repr, Inhabited

/-- Marks the last comment found as followed by a line break. -/
def markNewline : List Comment → List Comment
  | [] => []
  | comment :: rest => { comment with newline := true } :: rest

/-- The comments from a position on, last first. With `trailing` the search ends with the line;
without it comments count only once `collecting` has begun. -/
def collectComments (source : Source) (trailing : Bool) :
    Nat → Nat → Bool → List Comment → List Comment
  | 0, _, _, found => found
  | fuel + 1, pos, collecting, found =>
    if pos ≥ source.size then found
    else
      let c := source.get pos
      if c == '\r' || c == '\n' then
        let next := if c == '\r' && source.get (pos + 1) == '\n' then pos + 2 else pos + 1
        if trailing then found
        else collectComments source trailing fuel next true (markNewline found)
      else if c == '\t' || c == '\x0b' || c == '\x0c' || c == ' ' then
        collectComments source trailing fuel (pos + 1) collecting found
      else if c == '/' && source.get (pos + 1) == '/' then
        let stop := source.skipWhile (fun c => !isLineBreak c) (pos + 2)
        let comment : Comment := { start := pos, stop, block := false, newline := stop < source.size }
        collectComments source trailing fuel stop collecting
          (if collecting then comment :: found else found)
      else if c == '/' && source.get (pos + 1) == '*' then
        let (stop, _, _) := source.commentEnd (source.size + 1) (pos + 2) false
        let comment : Comment := { start := pos, stop, block := true, newline := false }
        collectComments source trailing fuel stop collecting
          (if collecting then comment :: found else found)
      else if c.toNat > 127 && isBlankOrBreak c then
        collectComments source trailing fuel (pos + 1) collecting
          (if isLineBreak c then markNewline found else found)
      else found

/-- The comments that lead a position. -/
def leadingComments (source : Source) (pos : Nat) : List Comment :=
  let start := if pos == 0 then source.interpreterLine else pos
  (collectComments source false (source.size + 1) start (pos == 0) []).reverse

/-- The comments that trail a position. -/
def trailingComments (source : Source) (pos : Nat) : List Comment :=
  let start := if pos == 0 then source.interpreterLine else pos
  (collectComments source true (source.size + 1) start true []).reverse

end Codemod.Syntax
