import Codemod.Grammar.SourceFile
import Codemod.Layout.Print
import Codemod.Syntax.Transform

/-!
# Drafts

A draft is one file under repair: its text, its current tree and the warnings
raised against it. A transformation replaces parts of the tree and prints the result;
refreshing reads that text back, so that every node has a place again. A node
has a position only while the tree it was read with is the current one.
-/
namespace Codemod

open Syntax

/-- A remark of a fix about a place in the text; the place is zero when it has none. -/
structure Warning where
  fix : String
  line : Nat
  column : Nat
  message : String
  deriving DecidableEq, Repr

/-- A file under repair. -/
structure Draft where
  path : String
  openedText : String
  /-- The text that the tree was last read from. -/
  text : String
  /-- The tree as it was last read. -/
  parsed : Grammar.Parsed
  /-- The current tree. -/
  root : Node
  /-- The printed form of a transformed tree, until the next refresh. -/
  printed : Option String := none
  warnings : List Warning := []
  activeFix : String := ""
  /-- Counts the trees that took another's place. -/
  revision : Nat := 0
  /-- Counts the trees that were read. -/
  generation : Nat := 0
  /-- What the next refresh fails with, if it cannot take place. -/
  fault : Option Thrown := none

/-- A computation on a draft that may fail; what it did before failing stays done. -/
abbrev Edit := ExceptT Thrown (StateM Draft)

/-- The failure of a text that cannot be read. -/
def parseError (path : String) : Grammar.Failure → Error
  | .complaint position detail => .file (.parse path position.line position.column detail)
  | .emptyDirective => .emptyDirective
  | .decoratedAwait => .plain "Debug Failure. False expression." none

/-- Reads the text of a file. -/
def parseFile (path text : String) : Except Error Grammar.Parsed :=
  (Grammar.parse (Grammar.Dialect.ofPath path) text).mapError (parseError path)

/-- Where a node that was read starts, after what separates it from what stands before it. Before text
between tags and before the notation of documentation that is never a comment. -/
def Syntax.Node.start? (source : Source) (node : Node) : Option Nat :=
  node.info.span.map fun span =>
    if span.start == span.stop then span.start
    else if node.kind == .jsxText || node.kind.isDocType then
      source.skipBlanks (source.size + 1) span.start
    else source.skipTrivia span.start

namespace Draft

/-- A draft of a file that was read. -/
def ofParsed (path text : String) (parsed : Grammar.Parsed) : Draft :=
  { path, openedText := text, text, parsed, root := parsed.root }

/-- A draft of a file, when its text can be read. -/
def parse (path text : String) : Except Error Draft :=
  (parseFile path text).map (ofParsed path text)

/-- The canonical text of the current tree. -/
def render (draft : Draft) : String :=
  draft.printed.getD (Layout.render draft.parsed.source draft.root)

/-- The position of a node that was read with the tree of a generation, if that is the current
tree. -/
def positionOf (draft : Draft) (generation : Nat) (node : Node) : Option Position :=
  if draft.printed.isSome || generation != draft.generation || node.info.origin.isNone then none
  else (node.start? draft.parsed.source).map draft.parsed.source.positionAt

/-- The draft with one more warning, about a node that was read with the tree of a generation. -/
def warned (draft : Draft) (generation : Nat) (node : Node) (message : String) : Draft :=
  let place := (draft.positionOf generation node).getD { line := 0, column := 0 }
  { draft with
    warnings := draft.warnings ++
      [{ fix := draft.activeFix, line := place.line, column := place.column, message }] }

/-- The draft with a transformed tree. -/
def replaceRoot (draft : Draft) (root : Node) : Draft :=
  { draft with
    root, printed := some (Layout.render draft.parsed.source root), revision := draft.revision + 1 }

/-- The draft with a tree read from a new text. -/
def reread (draft : Draft) (text : String) (parsed : Grammar.Parsed) : Draft :=
  { draft with
    text, parsed, root := parsed.root, printed := none
    revision := draft.revision + 1, generation := draft.generation + 1 }

end Draft

namespace Edit

/-- Records a warning about a node for the fix that is running. -/
def warn (node : Node) (message : String) : Edit Unit :=
  modify fun draft => draft.warned draft.generation node message

/-- Drops the warnings raised so far. -/
def clearWarnings : Edit Unit :=
  modify fun draft => { draft with warnings := [] }

/-- Sets the fix that warnings are raised for. -/
def setActiveFix (name : String) : Edit Unit :=
  modify fun draft => { draft with activeFix := name }

/-- Transforms the current tree; whether a node was replaced. -/
def transform (visit : Visitor Edit) : Edit Bool := do
  let result ← (← get).root.transform visit
  if result.replaced = 0 then return false
  modify (·.replaceRoot result.node)
  return true

/-- Prints the current tree and reads it back. -/
def refresh : Edit Unit := do
  let draft ← get
  match draft.fault with
  | some thrown =>
    set { draft with fault := none }
    throw thrown
  | none =>
    let text := draft.render
    match parseFile draft.path text with
    | .ok parsed => set (draft.reread text parsed)
    | .error cause => throw (.error cause)

end Edit

end Codemod
