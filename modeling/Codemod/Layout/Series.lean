import Codemod.Layout.Page

/-!
# Lists of nodes

How the members of a list are set: on one line, each on a line of its own, or
as in the text they were read from; with which delimiter and brackets, and what
surrounds them.
-/
namespace Codemod.Layout

open Syntax

/-- What stands between the members of a list. -/
inductive Delimiter where
  | none
  | bar
  | ampersand
  | comma
  deriving DecidableEq

/-- The setting of a list. -/
structure Format where
  /-- Each member has a line of its own. -/
  multiLine : Bool := false
  /-- Lines are broken where the text broke them. -/
  keepLines : Bool := false
  delimiter : Delimiter := .none
  /-- A comma after the last member is kept. -/
  trailingComma : Bool := false
  indented : Bool := false
  spaceInside : Bool := false
  spaceBetween : Bool := false
  /-- The opening and closing brackets. -/
  brackets : Option (String × String) := none
  /-- Nothing is printed when the list is absent. -/
  optional : Bool := false
  /-- Nothing is printed when the list is empty. -/
  optionalIfEmpty : Bool := false
  preferNewline : Bool := false
  noTrailingNewline : Bool := false
  /-- Comments between members are left to the members. -/
  noComments : Bool := false
  noSpaceIfEmpty : Bool := false
  spaceAfter : Bool := false

namespace Format

/-- Words before a declaration. -/
def modifiers : Format :=
  { spaceBetween := true, noComments := true, spaceAfter := true }

/-- Decorators. -/
def decorators : Format :=
  { multiLine := true, optional := true, optionalIfEmpty := true, spaceAfter := true }

/-- Members separated by commas on one line. -/
def commas : Format :=
  { delimiter := .comma, spaceBetween := true }

/-- Arguments and parameters. -/
def inParentheses : Format :=
  { commas with brackets := some ("(", ")") }

/-- Type arguments and type parameters. -/
def inAngles : Format :=
  { commas with brackets := some ("<", ">"), optional := true, optionalIfEmpty := true }

/-- Members of a class, an interface, an enumeration or a choice, and statements of a block. -/
def members : Format :=
  { multiLine := true, indented := true }

/-- The properties of an object literal. -/
def properties : Format :=
  { keepLines := true, delimiter := .comma, spaceBetween := true, spaceInside := true
    indented := true, brackets := some ("\x7b", "\x7d"), noSpaceIfEmpty := true }

/-- The elements of an array literal. -/
def elements : Format :=
  { keepLines := true, delimiter := .comma, spaceBetween := true, trailingComma := true
    indented := true, brackets := some ("[", "]") }

/-- Statements on one line within braces. -/
def inlineStatements : Format :=
  { spaceInside := true, spaceBetween := true }

/-- Imported or exported names. -/
def specifiers : Format :=
  { commas with trailingComma := true, spaceInside := true, noSpaceIfEmpty := true }

/-- The statements of a case. -/
def clause : Format :=
  { indented := true, multiLine := true, noTrailingNewline := true, optionalIfEmpty := true }

end Format

/-- Where a node starts, its blanks and comments included. -/
def startOf (node : Node) : Option Nat :=
  node.info.span.map (·.start)

/-- Where a node ends. -/
def stopOf (node : Node) : Option Nat :=
  node.info.span.map (·.stop)

/-- The place of the parent that a node was read with; a rebuilt node has lost its parent. -/
def parentPlace (node : Node) : Option (List Nat) :=
  if node.info.rebuilt then none else node.info.origin.bind List.tail?

/-- Whether a node has a parent that it was read with. -/
def hasParent (node : Node) : Bool :=
  !node.info.rebuilt && node.info.origin.isSome

/-- Whether two nodes were read with the same parent. -/
def siblings (first second : Node) : Bool :=
  match first.info.origin, second.info.origin with
  | some (_ :: left), some (_ :: right) => left == right
  | _, _ => false

/-- Whether the line of `first`'s end is the line where `second` starts. -/
def endsWhereStarts (first second : Span) : W Bool := do
  sameLine first.stop (← tokenAfter second.start)

/-- Whether a stretch of text lies on one line. -/
def onOneLine (span : Span) : W Bool := do
  sameLine (← tokenAfter span.start) span.stop

/-- Whether a line break belongs before the first member of a list. -/
def breakBeforeFirst (parent : Node) (first : Option Node) (format : Format) : W Bool := do
  if format.keepLines then
    if format.preferNewline then return true
    match first with
    | none =>
      match parent.info.span with
      | some span => return !(← onOneLine span)
      | none => return false
    | some child =>
      if child.info.span.isSome && startOf child == (← get).memberStart then return false
      if child.kind == .jsxText then return false
      match parent.info.span, child.info.span with
      | some outer, some inner =>
        if !hasParent child || parentPlace child == parent.info.origin then
          return !(← sameLine (← tokenAfter outer.start) (← tokenAfter inner.start))
      | _, _ => pure ()
  return format.multiLine

/-- Whether a line break belongs between two members of a list. -/
def breakBetween (before after : Node) (format : Format) : W Bool := do
  if format.keepLines then
    if after.kind == .jsxText then return false
    match before.info.span, after.info.span with
    | some first, some second =>
      if siblings before after then return !(← endsWhereStarts first second)
      return format.preferNewline
    | _, _ => if format.preferNewline then return true
  return format.multiLine

/-- Whether a line break belongs after the last member of a list. -/
def breakAfterLast (parent : Node) (last : Option Node) (format : Format) : W Bool := do
  if format.keepLines then
    if format.preferNewline then return true
    match last with
    | none =>
      match parent.info.span with
      | some span => return !(← onOneLine span)
      | none => return false
    | some child =>
      match parent.info.span, child.info.span with
      | some outer, some inner =>
        if !hasParent child || (!parent.info.rebuilt && parentPlace child == parent.info.origin) then
          return !(← sameLine outer.stop inner.stop)
      | _, _ => pure ()
  return format.multiLine && !format.noTrailingNewline

/-- Prints a token that stands at a position, with the comments around it; gives the position
after it. Comments are looked for only when the construct was read from a text. -/
def printToken (text : String) (pos : Option Nat) (context : Node) (indentLeading : Bool) :
    W (Option Nat) := do
  match context.info.origin, pos with
  | some _, some start =>
    let found ← tokenAfter start
    if startOf context != some start then
      let indent ← if indentLeading then (do return !(← sameLine start found)) else pure false
      if indent then deeper
      leading start
      if indent then shallower
    write text
    let after := found + text.length
    if stopOf context != some after then
      trailing after (if context.kind == .jsxExpression then .tight else .before)
    return some after
  | _, _ =>
    write text
    return pos.map (· + text.length)

/-- Prints a token that stands at a position, with the comments around it. -/
def mark (text : String) (pos : Option Nat) (context : Node) : W Unit := do
  let _ ← printToken text pos context false

/-- Prints the delimiter of a list. -/
def writeDelimiter (format : Format) : W Unit :=
  match format.delimiter with
  | .none => pure ()
  | .comma => write ","
  | .bar => write " |"
  | .ampersand => write " &"

/-- Prints the members of a list after the first; `quiet` says that the comments before the next
one are printed already. -/
def printMembers (parent : Node) (format : Format) (item : Node → W Unit) (before : Option Node)
    (quiet : Bool) : List Node → W Unit
  | [] => pure ()
  | child :: rest => do
    let (quiet, indented) ← match before with
      | none => pure (quiet, false)
      | some sibling => do
        if format.delimiter != .none && stopOf sibling != stopOf parent then
          leadingAt (stopOf sibling)
        writeDelimiter format
        if ← breakBetween sibling child format then
          let indented := !format.multiLine && !format.keepLines && !format.indented
          if indented then deeper
          if !quiet && format.delimiter != .none then
            trailingAt (startOf child) (if format.spaceBetween then .before else .tight)
          newline
          pure (true, indented)
        else
          if format.spaceBetween then space
          pure (quiet, false)
    if !quiet then trailingAt (startOf child) .after
    modify fun page => { page with memberStart := startOf child }
    item child
    if indented then shallower
    printMembers parent format item (some child) format.noComments rest

/-- Prints a list that is not empty, without its brackets. -/
def printItems (parent : Node) (format : Format) (item : Node → W Unit) (nodes : List Node)
    (info : ListInfo) : W Unit := do
  let broken ← breakBeforeFirst parent nodes.head? format
  if broken then newline
  else if format.spaceInside then space
  if format.indented then deeper
  printMembers parent format item none (format.noComments || broken) nodes
  let comma := info.trailingComma && format.trailingComma && format.delimiter == .comma
  match nodes.getLast? with
  | some last =>
    if comma then
      let _ ← printToken "," (stopOf last) last false
    if stopOf last != stopOf parent && format.delimiter != .none then
      leadingAt (if comma then (info.span.map (·.stop)).or (stopOf last) else stopOf last)
  | none => if comma then write ","
  if format.indented then shallower
  if ← breakAfterLast parent nodes.getLast? format then newline
  else if format.spaceAfter || format.spaceInside then space

/-- Prints a list with its brackets; the first `skip` members are left out. -/
def printListFrom (parent : Node) (list : Option NodeList) (format : Format) (item : Node → W Unit)
    (skip : Nat) : W Unit := do
  match list with
  | none =>
    if !format.optional then
      match format.brackets with
      | some (opening, closing) => write opening; write closing
      | none => pure ()
  | some list =>
    let nodes := list.nodes.drop skip
    if nodes.isEmpty then
      if !format.optionalIfEmpty then
        match format.brackets with
        | some (opening, _) => do
          write opening
          trailingAt (list.info.span.map (·.start)) .before
        | none => pure ()
        if format.multiLine then newline
        else if format.spaceInside && !format.noSpaceIfEmpty then space
        match format.brackets with
        | some (_, closing) => do
          leadingAt (list.info.span.map (·.stop))
          write closing
        | none => pure ()
    else
      match format.brackets with
      | some (opening, _) => write opening
      | none => pure ()
      printItems parent format item nodes list.info
      match format.brackets with
      | some (_, closing) => write closing
      | none => pure ()

/-- Prints a list with its brackets. -/
def printList (parent : Node) (list : Option NodeList) (format : Format) (item : Node → W Unit) :
    W Unit :=
  printListFrom parent list format item 0

end Codemod.Layout
