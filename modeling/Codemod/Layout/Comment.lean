import Codemod.Syntax.Comment

/-!
# Comments on a page

How far a comment is indented in its text, and which comments stand apart from
what follows them.
-/
namespace Codemod.Layout

open Syntax

/-- The width of the blanks from a position on, before a limit; a tab fills up to a multiple of
four. -/
def indentWidth (source : Source) (limit : Nat) : Nat → Nat → Nat → Nat
  | 0, _, width => width
  | fuel + 1, pos, width =>
    if pos < limit && pos < source.size && isLineBlank (source.get pos) then
      indentWidth source limit fuel (pos + 1)
        (if source.get pos == '\t' then width + (4 - width % 4) else width + 1)
    else width

/-- The comments at the start of a range that stand apart from what follows: no blank line between
them, and one after the last. -/
def detachedComments (source : Source) (lines : Array Nat) (pos : Nat) : List Comment :=
  let group := takeGroup none (leadingComments source pos)
  match group.getLast? with
  | none => []
  | some last =>
    if lineOf lines (source.skipTrivia pos) ≥ lineOf lines last.stop + 2 then group else []
where
  /-- The comments up to the first blank line between two of them. -/
  takeGroup (before : Option Comment) : List Comment → List Comment
    | [] => []
    | comment :: rest =>
      match before with
      | some last =>
        if lineOf lines comment.start ≥ lineOf lines last.stop + 2 then []
        else comment :: takeGroup (some comment) rest
      | none => comment :: takeGroup (some comment) rest

end Codemod.Layout
