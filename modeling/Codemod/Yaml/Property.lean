import Codemod.Yaml.Reader
import Codemod.Yaml.Schema

/-!
# Tags, names and aliases of nodes

Before its contents a node may have a tag, `!suffix`, `!!suffix`, `!handle!suffix`
or `!<whole>`, and a name, `&name`. A node `*name` stands for the node of that
name.
-/
namespace Codemod.Yaml

/-- Whether a unit is a letter of the first 128, in any case. -/
def isLetter (unit : Nat) : Bool :=
  (0x41 ≤ unit && unit ≤ 0x5A) || (0x61 ≤ unit && unit ≤ 0x7A)

/-- Whether a unit is a decimal digit. -/
def isDigit (unit : Nat) : Bool :=
  0x30 ≤ unit && unit ≤ 0x39

/-- Whether a unit is a hexadecimal digit. -/
def isHex (unit : Nat) : Bool :=
  isDigit unit || (0x41 ≤ unit && unit ≤ 0x46) || (0x61 ≤ unit && unit ≤ 0x66)

/-- Whether units form a tag handle: one mark, two, or letters and dashes between two. -/
def isHandle (units : List Nat) : Bool :=
  let mark := '!'.toNat
  units == [mark] || units == [mark, mark] ||
    (units.length > 2 && units.head? == some mark && units.getLast? == some mark &&
      ((units.drop 1).dropLast).all fun unit => isLetter unit || unit == '-'.toNat)

/-- Whether a unit may stand in a tag after its first. -/
def isTagUnit (unit : Nat) : Bool :=
  isLetter unit || isDigit unit || "-#;/?:@&=+$,_.!~*'()[]".toList.any (·.toNat == unit)

/-- Whether units may follow the first one of a tag; a percent sign takes two digits. -/
def areTagUnits : List Nat → Bool
  | [] => true
  | unit :: rest =>
    if unit == '%'.toNat then
      match rest with
      | high :: low :: after => isHex high && isHex low && areTagUnits after
      | _ => false
    else isTagUnit unit && areTagUnits rest

/-- Whether units form a tag or the start of one. -/
def isTagText : List Nat → Bool
  | [] => false
  | unit :: rest => !isFlowSign unit && areTagUnits rest

/-- The value of a hexadecimal digit. -/
def hexOf (unit : Nat) : Nat :=
  if isDigit unit then unit - 0x30 else if unit ≥ 0x61 then unit - 0x61 + 10 else unit - 0x41 + 10

/-- The bytes of a text in which percent signs with two digits stand for bytes. -/
def percentBytes? : List Nat → Option (List UInt8)
  | [] => some []
  | unit :: rest =>
    if unit == '%'.toNat then
      match rest with
      | high :: low :: after =>
        if isHex high && isHex low then
          (percentBytes? after).map ((hexOf high * 16 + hexOf low).toUInt8 :: ·)
        else none
      | _ => none
    else (percentBytes? rest).map ((Text.ofUnits [unit]).toUTF8.toList ++ ·)

/-- A tag with its percent signs resolved, unless their bytes are no text. -/
def decodedTag? (units : List Nat) : Option String :=
  if units.contains '%'.toNat then
    (percentBytes? units).bind fun bytes => String.fromUTF8? (ByteArray.mk bytes.toArray)
  else some (Text.ofUnits units)

/-- Checks and resolves the text of a tag. -/
def finishTag (units : List Nat) : Reader String := do
  if !units.isEmpty && !isTagText units then
    fail ("tag name cannot contain such characters: " ++ Text.ofUnits units)
  match decodedTag? units with
  | some text => return text
  | none => fail ("tag name is malformed: " ++ Text.ofUnits units)

/-- Reads the rest of a tag between angle brackets. -/
def verbatimTag : Reader String := do
  let start := (← get).position
  advance 1
  skipWhile fun unit => unit != 0 && unit != '>'.toNat
  let state ← get
  if state.position < state.input.size then
    advance 1
    finishTag (state.slice start state.position)
  else fail "unexpected end of the stream within a verbatim tag"

/-- Reads a tag up to a space: the handle it starts with, if it names one, and its suffix. -/
def tagParts : Nat → Nat → Option (List Nat) → Reader (Option (List Nat) × List Nat)
  | 0, _, handle => return (handle, [])
  | fuel + 1, start, handle => do
    let state ← get
    let unit := state.unitAt 0
    if unit == 0 || isSpace unit then return (handle, state.slice start state.position)
    else if unit == '!'.toNat then
      if handle.isSome then fail "tag suffix cannot contain exclamation marks"
      else
        let named := state.slice (start - 1) (state.position + 1)
        if !isHandle named then fail "named tag handle cannot contain such characters"
        advance 1
        tagParts fuel (state.position + 1) (some named)
    else
      advance 1
      tagParts fuel start handle

/-- The tag that a handle and a suffix make. -/
def joinTag (handle : String) (suffix : String) : Reader String := do
  match (← get).handles.lookup handle with
  | some start => return start ++ suffix
  | none =>
    if handle = "!" then return "!" ++ suffix
    else if handle = "!!" then return NodeType.tagPrefix ++ suffix
    else fail ("undeclared tag handle \"" ++ handle ++ "\"")

/-- Reads a tag, when the node has none yet. -/
def readTag (present : Bool) : Reader (Option String) := do
  if (← peek) != '!'.toNat then return none
  if present then fail "duplication of a tag property"
  advance 1
  let unit ← peek
  if unit == '<'.toNat then
    advance 1
    some <$> verbatimTag
  else
    let double := unit == '!'.toNat
    if double then advance 1
    let state ← get
    let named := if double then some ['!'.toNat, '!'.toNat] else none
    let (handle, suffix) ← tagParts (state.input.size + 1) state.position named
    if suffix.any isFlowSign then fail "tag suffix cannot contain flow indicator characters"
    let text ← finishTag suffix
    some <$> joinTag (Text.ofUnits (handle.getD ['!'.toNat])) text

/-- Reads a name after its sign. -/
def readName (empty : String) : Reader String := do
  advance 1
  let start := (← get).position
  skipWhile fun unit => unit != 0 && !isSpace unit && !isFlowSign unit
  let state ← get
  if state.position == start then fail empty
  return Text.ofUnits (state.slice start state.position)

/-- Reads the name of a node, when it has none yet. -/
def readAnchor (present : Bool) : Reader (Option String) := do
  if (← peek) != '&'.toNat then return none
  if present then fail "duplication of an anchor property"
  some <$> readName "name of an anchor node must contain at least one character"

/-- Names a node. -/
def register (anchor : Option String) (value : Value) : Reader Unit :=
  match anchor with
  | some name => modify fun state => { state with anchors := (name, value) :: state.anchors }
  | none => return ()

/-- Reads an alias and gives the node that it stands for. -/
def readAlias : Reader (Option Value) := do
  if (← peek) != '*'.toNat then return none
  let name ← readName "name of an alias node must contain at least one character"
  match (← get).anchors.lookup name with
  | some value =>
    let _ ← skipSpace true
    return some value
  | none => fail ("unidentified alias \"" ++ name ++ "\"")

end Codemod.Yaml
