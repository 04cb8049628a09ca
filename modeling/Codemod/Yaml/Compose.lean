import Codemod.Yaml.Entries
import Codemod.Yaml.Property
import Codemod.Yaml.Scalar

/-!
# Nodes of a document

A node is a text, a list or a mapping, between brackets or laid out by
indentation, or an alias. Which layouts may be used depends on where the node
stands and on whether it starts a line deeper than its parent.
-/
namespace Codemod.Yaml

/-- Where a node stands. -/
inductive Context where
  | flowIn
  | flowOut
  | blockIn
  | blockOut
  deriving DecidableEq

/-- Whether layout by indentation is possible. -/
def Context.isBlock (context : Context) : Bool :=
  context == .blockIn || context == .blockOut

/-- A node that was read, or that there is none. -/
structure Node where
  found : Bool := false
  tag : Option String := none
  kind : Option Kind := none
  value : Value := .null

/-- The properties of a node, and what reading them says about its place. -/
structure Properties where
  tag : Option String := none
  anchor : Option String := none
  /-- The reader before the first of them. -/
  start : Option State := none
  /-- The node starts a line. -/
  atNewLine : Bool
  /-- Collections laid out by indentation may start here. -/
  collections : Bool
  /-- How far the node is indented compared with its parent. -/
  depth : Ordering

/-- How far the current line is indented compared with a parent. -/
def depthBelow (parent : Int) : Reader Ordering := do
  return compare ((← get).lineIndent : Int) parent

/-- Reads the tag and the name of a node. A second tag or name on a line of its own belongs to a node
inside. -/
def properties (parent : Int) (blocks : Bool) : Nat → Properties → Reader Properties
  | 0, found => return found
  | fuel + 1, found => do
    let state ← get
    let unit := state.unitAt 0
    if found.atNewLine && ((unit == '!'.toNat && found.tag.isSome)
        || (unit == '&'.toNat && found.anchor.isSome)) then
      return found
    let tag ← readTag found.tag.isSome
    let anchor ← if tag.isSome then pure none else readAnchor found.anchor.isSome
    if tag.isNone && anchor.isNone then return found
    let found := { found with
      tag := found.tag.or tag, anchor := found.anchor.or anchor, start := found.start.or (some state) }
    if (← skipSpace true) > 0 then
      properties parent blocks fuel
        { found with atNewLine := true, collections := blocks, depth := ← depthBelow parent }
    else properties parent blocks fuel { found with collections := false }

/-- What was read of a node's contents: nothing, a bare text, or contents of a kind. -/
inductive Contents where
  | absent
  | bare (text : String)
  | known (kind : Option Kind) (value : Value)
  /-- A mapping whose first key has the properties that were read. -/
  | keyed (value : Value)

/-- The contents of a quoted text or a block of lines. -/
def Contents.ofUnits (units : List Nat) : Contents :=
  .known (some .scalar) (.string (Text.ofUnits units))

/-- Reads a text or an alias. -/
def scalarContents (indent : Int) (context : Context) (tagged : Bool) : Reader Contents := do
  if context.isBlock then
    if let some units ← block indent then return .ofUnits units
  if let some units ← singleQuoted then return .ofUnits units
  if let some units ← doubleQuoted then return .ofUnits units
  if let some value ← readAlias then
    if tagged then fail "alias node should not have any properties"
    return .known none value
  match ← plain indent (context == .flowIn) with
  | some units => return .bare (Text.ofUnits units)
  | none => return .absent

/-- A node with a tag: its type must be known and fit. -/
def tagged (tag : String) (kind : Option Kind) (value : Value) : Reader Value := do
  match NodeType.ofTag? tag kind with
  | none => fail ("unknown tag !<" ++ tag ++ ">")
  | some type =>
    match construct type value with
    | some value => return value
    | none => fail ("cannot resolve a node with !<" ++ tag ++ "> explicit tag")

/-- The node that properties and contents make. -/
def finish (given : Properties) (contents : Contents) : Reader Node := do
  let found := match contents with
    | .keyed _ => { given with tag := none, anchor := none }
    | _ => given
  let node ← match contents, found.tag with
    | .bare text, none | .bare text, some "?" =>
      let (type, value) := resolve text
      pure { found := true, tag := some ((type.map NodeType.tag).getD "?"), kind := some .scalar
             value : Node }
    | contents, tag => do
      let (present, kind, value) := match contents with
        | .absent => (false, none, Value.null)
        | .bare text => (true, some Kind.scalar, Value.string text)
        | .known kind value => (true, kind, value)
        | .keyed value => (true, some Kind.mapping, value)
      let value ← match tag with
        | none | some "!" => pure value
        | some "?" =>
          if kind.isSome && kind != some .scalar then
            fail ("unacceptable node kind for !<?> tag; it should be \"scalar\", not \""
              ++ (kind.map Kind.name).getD "null" ++ "\"")
          else
            match value with
            | .string text => pure (resolve text).2
            | other => pure other
        | some tag => tagged tag kind value
      pure { found := present || tag.isSome || found.anchor.isSome, tag, kind, value }
  register found.anchor node.value
  return node

/-- A mapping laid out by indentation while it is read. -/
structure MappingState where
  entries : Entries := {}
  tag : Option String := none
  key : Value := .null
  place : KeyPlace := {}
  /-- A key after a question mark waits for its value. -/
  explicit : Bool := false
  /-- Some entry has been seen. -/
  detected : Bool := false

namespace MappingState

/-- Where the reader stands, as the place of a key. -/
def here : Reader KeyPlace := do
  let state ← get
  return { line := state.line, lineStart := state.lineStart, position := state.position }

/-- The mapping with the pair of the waiting key and a value. -/
def pair (mapping : MappingState) (value : Value) : Reader MappingState := do
  let entries ← mapping.entries.store mapping.tag mapping.key value mapping.place
  return { mapping with entries, tag := none, key := .null }

/-- The mapping with the waiting key, if there is one, paired with nothing. -/
def settle (mapping : MappingState) : Reader MappingState :=
  if mapping.explicit then mapping.pair .null else return mapping

end MappingState

/-- What came of reading a mapping laid out by indentation. -/
inductive MappingResult where
  | absent
  | mapping (value : Value)
  /-- The key that was read is followed by no colon: it is the node. -/
  | onlyKey (node : Node)

/-- The mapping that was read, if it has any entry. -/
def MappingState.result (mapping : MappingState) : Reader MappingResult := do
  let mapping ← mapping.settle
  return if mapping.detected then .mapping (.record mapping.entries.pairs) else .absent

/-- Refuses a tab in the indentation of the line. -/
def refuseTab : Reader Unit := do
  if let some tab := (← get).firstTab then
    modify fun state => { state with position := tab }
    fail "tab characters must not be used in indentation"

/-- Whether what follows an entry cannot stand there: it is on the same line or indented more. -/
def strays (line : Nat) (indent : Int) : Reader Bool := do
  let state ← get
  return (state.line == line || (state.lineIndent : Int) > indent) && state.unitAt 0 != 0

/-- The number of nodes that may be within one another. -/
def maxDepth : Nat :=
  100

/-- Begins to read a node. -/
def enterNode : Reader Unit := do
  if (← get).depth ≥ maxDepth then fail ("nesting exceeded maxDepth (" ++ toString maxDepth ++ ")")
  modify fun state => { state with depth := state.depth + 1 }

/-- Ends reading a node. -/
def leaveNode : Reader Unit :=
  modify fun state => { state with depth := state.depth - 1 }

mutual

/-- Reads a node below a parent with the given indentation. `seek` skips to the node first;
`compact` lets a collection start on the line of its parent. -/
def compose : Nat → Int → Context → Bool → Bool → Reader Node
  | 0, _, _, _, _ => fail "the document is nested too deeply"
  | fuel + 1, parent, context, seek, compact => do
    enterNode
    let breaks ← if seek then skipSpace true else pure 0
    let depth ← if breaks > 0 then depthBelow parent else pure .gt
    let start : Properties := { atNewLine := breaks > 0, collections := context.isBlock, depth }
    let found ← if depth == .gt then
        properties parent context.isBlock ((← get).input.size + 1) start
      else pure start
    let collections := found.collections && (found.atNewLine || compact)
    let state ← get
    let blockIndent : Int := (state.position : Int) - state.lineStart
    let flowIndent := if context.isBlock then parent + 1 else parent
    let contents ← match found.depth with
      | .gt => contentsOf fuel found collections blockIndent flowIndent context
      | .eq =>
        if context == .blockOut && collections then do
          match ← blockSequence fuel found.anchor blockIndent with
          | some value => pure (.known (some .sequence) value)
          | none => pure .absent
        else pure .absent
      | .lt => pure .absent
    let node ← finish found contents
    leaveNode
    return node

/-- Reads the contents of a node that is indented more than its parent. -/
def contentsOf : Nat → Properties → Bool → Int → Int → Context → Reader Contents
  | 0, _, _, _, _, _ => fail "the document is nested too deeply"
  | fuel + 1, found, collections, blockIndent, flowIndent, context => do
    if collections then
      if let some value ← blockSequence fuel found.anchor blockIndent then
        return .known (some .sequence) value
      match ← blockMapping fuel found.anchor blockIndent flowIndent with
      | .mapping value => return .known (some .mapping) value
      | .onlyKey node => return .known node.kind node.value
      | .absent => pure ()
    match ← flowCollection fuel found.anchor flowIndent with
    | some contents => return contents
    | none =>
      match ← if context.isBlock && !collections then keyedMapping fuel found flowIndent else pure none with
      | some value => return .keyed value
      | none => scalarContents flowIndent context (found.tag.isSome || found.anchor.isSome)

/-- Reads a mapping laid out by indentation whose first key has the properties that were read; when
there is none, the reader stays where it was. -/
def keyedMapping : Nat → Properties → Int → Reader (Option Value)
  | 0, _, _ => fail "the document is nested too deeply"
  | fuel + 1, found, flowIndent => do
    let state ← get
    let unit := state.unitAt 0
    match found.start with
    | none => return none
    | some start =>
      if unit == '|'.toNat || unit == '>'.toNat then return none
      set { start with depth := state.depth }
      match ← blockMapping fuel none ((start.position : Int) - start.lineStart) flowIndent with
      | .mapping value => return some value
      | _ =>
        set state
        return none

/-- Reads a list laid out by indentation. -/
def blockSequence : Nat → Option String → Int → Reader (Option Value)
  | 0, _, _ => fail "the document is nested too deeply"
  | fuel + 1, anchor, indent => do
    if (← get).firstTab.isSome then return none
    register anchor (.list [])
    match ← sequenceItems fuel indent [] with
    | [] => return none
    | items => return some (.list items)

/-- Reads the members of a list laid out by indentation, after those already read. -/
def sequenceItems : Nat → Int → List Value → Reader (List Value)
  | 0, _, _ => fail "the document is nested too deeply"
  | fuel + 1, indent, items => do
    if (← peek) == 0 then return items
    refuseTab
    if (← peek) != '-'.toNat || !isSpace (← peekNext) then return items
    advance 1
    let breaks ← skipSpace true
    if breaks > 0 && ((← get).lineIndent : Int) ≤ indent then
      sequenceItems fuel indent (items ++ [.null])
    else
      let line ← currentLine
      let node ← compose fuel indent .blockIn false true
      let items := items ++ [node.value]
      let _ ← skipSpace true
      if ← strays line indent then fail "bad indentation of a sequence entry"
      else if ((← get).lineIndent : Int) < indent then return items
      else sequenceItems fuel indent items

/-- Reads a mapping laid out by indentation. -/
def blockMapping : Nat → Option String → Int → Int → Reader MappingResult
  | 0, _, _, _ => fail "the document is nested too deeply"
  | fuel + 1, anchor, indent, flowIndent => do
    if (← get).firstTab.isSome then return .absent
    register anchor (.record [])
    mappingItems fuel indent flowIndent {}

/-- Reads the entries of a mapping laid out by indentation, after those already read. -/
def mappingItems : Nat → Int → Int → MappingState → Reader MappingResult
  | 0, _, _, _ => fail "the document is nested too deeply"
  | fuel + 1, indent, flowIndent, mapping => do
    let unit ← peek
    if unit == 0 then mapping.result
    else
      if !mapping.explicit then refuseTab
      let unit ← peek
      let line ← currentLine
      if (unit == '?'.toNat || unit == ':'.toNat) && isSpace (← peekNext) then
        if unit == '?'.toNat then
          let mapping ← mapping.settle
          advance 1
          mappingValue fuel indent flowIndent line true
            { mapping with detected := true, explicit := true }
        else if mapping.explicit then
          advance 1
          mappingValue fuel indent flowIndent line true { mapping with explicit := false }
        else
          fail ("incomplete explicit mapping pair; a key node is missed; "
            ++ "or followed by a non-tabulated empty line")
      else
        let mapping := { mapping with place := ← MappingState.here }
        let node ← compose fuel flowIndent .flowOut false true
        if !node.found then mapping.result
        else if (← currentLine) == line then
          skipWhile isBlank
          if (← peek) == ':'.toNat then
            advance 1
            if !isSpace (← peek) then
              fail ("a whitespace character is expected after the key-value separator "
                ++ "within a block mapping")
            let mapping ← mapping.settle
            mappingValue fuel indent flowIndent line false
              { mapping with tag := node.tag, key := node.value, explicit := false, detected := true }
          else if mapping.detected then
            fail "can not read an implicit mapping pair; a colon is missed"
          else return .onlyKey node
        else if mapping.detected then
          fail ("can not read a block mapping entry; a multiline key may not be an implicit key")
        else return .onlyKey node

/-- Reads the value of an entry, or the key after a question mark, and the entries after it. -/
def mappingValue : Nat → Int → Int → Nat → Bool → MappingState → Reader MappingResult
  | 0, _, _, _, _, _ => fail "the document is nested too deeply"
  | fuel + 1, indent, flowIndent, line, compact, mapping => do
    let place ← if mapping.explicit then MappingState.here else pure mapping.place
    let node ← compose fuel indent .blockOut true compact
    let mapping ← if mapping.explicit then
        pure { mapping with place, key := if node.found then node.value else mapping.key }
      else mapping.pair (if node.found then node.value else .null)
    let _ ← skipSpace true
    if ← strays line indent then fail "bad indentation of a mapping entry"
    else if ((← get).lineIndent : Int) < indent then mapping.result
    else mappingItems fuel indent flowIndent mapping

/-- Reads a list or a mapping between brackets. -/
def flowCollection : Nat → Option String → Int → Reader (Option Contents)
  | 0, _, _ => fail "the document is nested too deeply"
  | fuel + 1, anchor, indent => do
    let unit ← peek
    if unit == '['.toNat then
      register anchor (.list [])
      advance 1
      return some (.known (some .sequence) (.list (← flowItems fuel indent true [])))
    else if unit == 0x7B then
      register anchor (.record [])
      advance 1
      return some (.known (some .mapping) (.record (← flowPairs fuel indent true {}).pairs))
    else return none

/-- Skips to the next member between brackets; gives whether the closing one was read. -/
def flowStart : Nat → Nat → Bool → Reader Bool
  | 0, _, _ => fail "the document is nested too deeply"
  | _ + 1, terminator, readNext => do
    if (← peek) == 0 then fail "unexpected end of the stream within a flow collection"
    let _ ← skipSpace true
    let unit ← peek
    if unit == terminator then
      advance 1
      return true
    else if !readNext then fail "missed comma between flow collection entries"
    else if unit == ','.toNat then fail "expected the node content, but found ','"
    else return false

/-- Reads a member between brackets: its key, its value when it is a pair, and where it starts. -/
def flowMember : Nat → Int → Reader (Node × Option Value × KeyPlace)
  | 0, _ => fail "the document is nested too deeply"
  | fuel + 1, indent => do
    let explicit := (← peek) == '?'.toNat && isSpace (← peekNext)
    if explicit then
      advance 1
      let _ ← skipSpace true
    let place ← MappingState.here
    let key ← compose fuel indent .flowIn false true
    let _ ← skipSpace true
    if (explicit || (← currentLine) == place.line) && (← peek) == ':'.toNat then
      advance 1
      let _ ← skipSpace true
      let node ← compose fuel indent .flowIn false true
      return (key, some node.value, place)
    else return (key, if explicit then some .null else none, place)

/-- Reads a comma between members; gives whether there was one. -/
def flowComma : Nat → Reader Bool
  | 0 => fail "the document is nested too deeply"
  | _ + 1 => do
    let _ ← skipSpace true
    if (← peek) == ','.toNat then
      advance 1
      return true
    else return false

/-- Reads the members of a list between brackets, after those already read. A pair is a mapping of
its own. -/
def flowItems : Nat → Int → Bool → List Value → Reader (List Value)
  | 0, _, _, _ => fail "the document is nested too deeply"
  | fuel + 1, indent, readNext, items => do
    if ← flowStart fuel ']'.toNat readNext then return items
    else
      let (key, value, place) ← flowMember fuel indent
      let item ← match value with
        | some value => do
          let entries ← Entries.store {} key.tag key.value value place
          pure (.record entries.pairs)
        | none => pure key.value
      let readNext ← flowComma fuel
      flowItems fuel indent readNext (items ++ [item])

/-- Reads the entries of a mapping between brackets, after those already read. -/
def flowPairs : Nat → Int → Bool → Entries → Reader Entries
  | 0, _, _, _ => fail "the document is nested too deeply"
  | fuel + 1, indent, readNext, entries => do
    if ← flowStart fuel 0x7D readNext then return entries
    else
      let (key, value, place) ← flowMember fuel indent
      let entries ← entries.store key.tag key.value (value.getD .null) place
      let readNext ← flowComma fuel
      flowPairs fuel indent readNext entries

end

end Codemod.Yaml
