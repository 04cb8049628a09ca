import Codemod.Layout.Statements

/-!
# Printing trees

The canonical form of a tree: four blanks of indentation, one statement on a
line, no blank lines. Names and literals keep their spelling and comments stay
with their nodes. Each node is printed by a printer for its parts; the depth of
the tree bounds how far they call each other.
-/
namespace Codemod.Layout

open Syntax

/-- Prints what stands between the comments around a node. -/
def printInner (emit : Emit) (manner : Manner) (node : Node) : W Unit := do
  match manner with
  | .mappedParameter => do
    child emit node .name
    write " in "
    child emit node .constraint
  | .importedType => do
    write ("\x7b " ++ (if node.info.word == .assertKeyword then "assert" else "with") ++ ": ")
    series emit node .elements .properties
    write " \x7d"
  | .plain => do
    if ← printExpression emit node then return
    if ← printStatement emit node then return
    if ← printType emit node then return
    write node.kind.spelling

/-- Prints a node whose depth is at most `fuel`, with the comments around it. -/
def printNode : Nat → Emit
  | 0, _, _ => pure ()
  | fuel + 1, manner, node => withComments node (printInner (printNode fuel) manner node)

/-- Prints a whole text: the line that names an interpreter, directives, then statements. -/
def printRoot (root : Node) : W Unit := do
  let emit := printNode root.depth
  let source := (← get).source
  let line := source.interpreterLine
  if line > 0 then
    writeComment (source.slice 0 line)
    newline
  let statements := root.items .statements
  let list := root.list? .statements
  let skipped ← directives emit statements
  newline
  let body : W Unit := printListFrom root list { multiLine := true } (emit .plain) skipped
  if statements.head?.any (fun first => isDirective first && first.info.span.isSome) then body
  else withDetached (list.bind (·.info.span)) body

/-- The canonical text of a tree that was read from, or grew out of, a source text. -/
def render (source : Source) (root : Node) : String :=
  let page : Page := { source, lines := source.lineStarts }
  ((printRoot root).run page).2.output

end Codemod.Layout
