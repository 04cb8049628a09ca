import Codemod.Layout.Comment
import Codemod.Syntax.Node
import Codemod.Text.Blank

/-!
# The page

A page is the text printed so far, with the indentation of its next line. A line
break at the start of a line adds nothing, so blank lines never arise. The page
also knows the text that the tree was read from, for its comments, and which
comments the construct being printed takes care of.
-/
namespace Codemod.Layout

open Syntax

/-- Printing in progress. -/
structure Page where
  source : Source
  lines : Array Nat
  output : String := ""
  /-- The last character of the output. -/
  last : Char := '\x00'
  indent : Nat := 0
  lineStart : Bool := true
  /-- The last thing printed is a comment. -/
  endsInComment : Bool := false
  /-- Where the enclosing construct starts; its leading comments are printed. -/
  containerStart : Option Nat := none
  /-- Where the enclosing construct ends; it prints its trailing comments itself. -/
  containerStop : Option Nat := none
  /-- Where the enclosing list of declarations ends. -/
  declarationsStop : Option Nat := none
  /-- Positions whose first comments are printed already, with the end of those comments. -/
  detached : List (Nat × Nat) := []
  wroteComment : Bool := false
  /-- The start of the list member being printed. -/
  memberStart : Option Nat := none

/-- A printing step. -/
abbrev W := StateM Page

/-- The blanks of an indentation. -/
def blanks (count : Nat) : String :=
  String.ofList (List.replicate count ' ')

/-- Whether a text ends a line. -/
def endsLine (text : String) : Bool :=
  match text.toList.getLast? with
  | some c => isLineBreak c
  | none => false

/-- Adds a text as it is. -/
def raw (text : String) : W Unit := modify fun page =>
  { page with
    output := page.output ++ text
    last := (text.toList.getLast?).getD page.last
    lineStart := endsLine text
    endsInComment := false }

/-- Adds a text, indented at the start of a line. -/
def writeText (text : String) : W Unit := modify fun page =>
  if text.isEmpty then page
  else
    { page with
      output := if page.lineStart then page.output ++ blanks (4 * page.indent) ++ text else page.output ++ text
      last := (text.toList.getLast?).getD page.last
      lineStart := endsLine text }

/-- Prints a text that is no comment. -/
def write (text : String) : W Unit := do
  writeText text
  if !text.isEmpty then modify fun page => { page with endsInComment := false }

/-- Prints a comment's text. -/
def writeComment (text : String) : W Unit := do
  writeText text
  if !text.isEmpty then modify fun page => { page with endsInComment := true }

/-- Prints a space. -/
def space : W Unit :=
  write " "

/-- Ends the line unless it is empty. -/
def newline : W Unit := modify fun page =>
  if page.lineStart then page
  else { page with output := page.output.push '\n', last := '\n', lineStart := true, endsInComment := false }

/-- Indents the lines from here on by one more step. -/
def deeper : W Unit := modify fun page => { page with indent := page.indent + 1 }

/-- Takes one step of indentation back. -/
def shallower : W Unit := modify fun page => { page with indent := page.indent - 1 }

/-- The line of a position. -/
def lineAt (pos : Nat) : W Nat := do
  return lineOf (← get).lines pos

/-- Whether two positions are on one line. -/
def sameLine (first second : Nat) : W Bool := do
  return first == second || (← lineAt first) == (← lineAt second)

/-- The position of the first token from a position on. -/
def tokenAfter (pos : Nat) : W Nat := do
  return (← get).source.skipTrivia pos

/-- Prints the lines of a block comment with their indentation relative to the first. -/
def writeCommentLines (comment : Comment) (firstIndent : Nat) : Nat → Nat → Nat → W Unit
  | 0, _, _ => pure ()
  | fuel + 1, pos, line => do
    if pos < comment.stop then
      let page ← get
      let next := if line + 1 == page.lines.size then page.source.size + 1 else page.lines.getD (line + 1) 0
      if pos != comment.start then
        let width := 4 * page.indent + indentWidth page.source next (page.source.size + 1) pos 0
        raw (blanks (width - firstIndent))
      let stop := min comment.stop (next - 1)
      let text := Text.trim (page.source.slice pos stop)
      if text.isEmpty then raw "\n"
      else
        writeComment text
        if stop != comment.stop then newline
      writeCommentLines comment firstIndent fuel next (line + 1)

/-- Prints a comment. -/
def printComment (comment : Comment) : W Unit := do
  let page ← get
  if comment.block then
    let line := lineOf page.lines comment.start
    let firstIndent :=
      indentWidth page.source comment.start (page.source.size + 1) (page.lines.getD line 0) 0
    writeCommentLines comment firstIndent (page.lines.size + 1) comment.start line
  else writeComment (page.source.slice comment.start comment.stop)

/-- Ends the line when a comment starts on another line than a position. -/
def newlineBefore (pos : Nat) (comment : Comment) : W Unit := do
  if pos != comment.start && !(← sameLine pos comment.start) then newline

/-- Prints a comment that leads a position. -/
def printLeading (pos : Nat) (comment : Comment) : W Unit := do
  if !(← get).wroteComment then
    newlineBefore pos comment
    modify fun page => { page with wroteComment := true }
  printComment comment
  if comment.newline then newline
  else if comment.block then space

/-- Prints the comments that lead a position, unless the enclosing construct has done so. -/
def leading (pos : Nat) : W Unit := do
  modify fun page => { page with wroteComment := false }
  let page ← get
  if page.containerStart != some pos then
    match page.detached with
    | (start, stop) :: rest =>
      if start == pos then
        set { page with detached := rest }
        (leadingComments page.source stop).forM (printLeading stop)
      else (leadingComments page.source pos).forM (printLeading pos)
    | [] => (leadingComments page.source pos).forM (printLeading pos)

/-- How the comments after a position are set apart. -/
inductive Spacing where
  /-- A space before each. -/
  | before
  /-- A space or line break after each. -/
  | after
  /-- Nothing, but a line break after a comment that ends with its line. -/
  | tight
  deriving DecidableEq

/-- Prints a comment that trails a position. -/
def printTrailing (spacing : Spacing) (comment : Comment) : W Unit := do
  match spacing with
  | .before => do
    if !(← get).lineStart then space
    printComment comment
    if comment.newline then newline
  | .after => do
    printComment comment
    if comment.newline then newline else space
  | .tight => do
    printComment comment
    if !comment.block then newline

/-- Prints the comments that trail a position, unless the enclosing construct does so. -/
def trailing (pos : Nat) (spacing : Spacing) : W Unit := do
  let page ← get
  if page.containerStop.isNone
      || (page.containerStop != some pos && page.declarationsStop != some pos) then
    (trailingComments page.source pos).forM (printTrailing spacing)

/-- Prints the comments that lead a position of the text, if it is one. -/
def leadingAt (pos : Option Nat) : W Unit :=
  match pos with
  | some pos => leading pos
  | none => pure ()

/-- Prints the comments that trail a position of the text, if it is one. -/
def trailingAt (pos : Option Nat) (spacing : Spacing) : W Unit :=
  match pos with
  | some pos => trailing pos spacing
  | none => pure ()

/-- Prints comments one after another, each on its line if it ended one. -/
def printGroup : List Comment → W Unit
  | [] => pure ()
  | comment :: rest => do
    printComment comment
    if comment.newline then newline else space
    printGroup rest

/-- Prints the comments at the start of a range that stand apart from what follows. -/
def printDetached (span : Span) : W Unit := do
  let page ← get
  let group := detachedComments page.source page.lines span.start
  match group.head?, group.getLast? with
  | some first, some last =>
    newlineBefore span.start first
    printGroup group
    modify fun page => { page with detached := (span.start, last.stop) :: page.detached }
  | _, _ => pure ()

/-- Prints a body with the comments that stand apart at its start and those at its end. -/
def withDetached (span : Option Span) (body : W Unit) : W Unit := do
  match span with
  | none => body
  | some span =>
    printDetached span
    body
    leading span.stop
    if (← get).wroteComment && !(← get).lineStart then newline

/-- Prints a node's text with the comments around it. -/
def withComments (node : Node) (body : W Unit) : W Unit := do
  match node.info.span with
  | none => body
  | some span =>
    if node.kind == .jsxText || span.start == span.stop then body
    else
      let savedStart := (← get).containerStart
      let savedStop := (← get).containerStop
      let savedDeclarations := (← get).declarationsStop
      leading span.start
      modify fun page =>
        { page with
          containerStart := some span.start, containerStop := some span.stop
          declarationsStop :=
            if node.kind == .variableDeclarationList then some span.stop else page.declarationsStop }
      body
      modify fun page =>
        { page with
          containerStart := savedStart, containerStop := savedStop
          declarationsStop := savedDeclarations }
      trailing span.stop .before

end Codemod.Layout
