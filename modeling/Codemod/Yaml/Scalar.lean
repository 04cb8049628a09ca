import Codemod.Yaml.Reader

/-!
# The texts of a document

A text stands bare, between single or double quotes, or as a block of lines.
Line breaks inside a text are folded, and blanks before them dropped: one break
becomes a space, several become one less; a literal block keeps them. Every part
of a text is checked for units that may not stand there.
-/
namespace Codemod.Yaml

/-- Whether a unit may not stand in a document outside quotes. -/
def isUnprintable (unit : Nat) : Bool :=
  unit ≤ 0x08 || unit == 0x0B || unit == 0x0C || (0x0E ≤ unit && unit ≤ 0x1F)
    || (0x7F ≤ unit && unit ≤ 0x84) || (0x86 ≤ unit && unit ≤ 0x9F) || unit == 0xFFFE || unit == 0xFFFF

/-- The units between two positions, none of which may be unprintable. -/
def capture (start stop : Nat) : Reader (List Nat) := do
  let units := (← get).slice start stop
  if units.any isUnprintable then fail "the stream contains non-printable characters"
  return units

/-- The units between two positions inside quotes, where control units may not stand. -/
def captureQuoted (start stop : Nat) : Reader (List Nat) := do
  let units := (← get).slice start stop
  if units.any fun unit => unit != 9 && unit < 0x20 then fail "expected valid JSON character"
  return units

/-- The units that line breaks fold into. -/
def folded (breaks : Nat) : List Nat :=
  match breaks with
  | 0 => []
  | 1 => [0x20]
  | more + 2 => List.replicate (more + 1) 0x0A

/-- A text being read: the units so far, and the part not yet taken over. -/
structure Pending where
  units : List Nat := []
  start : Nat
  stop : Nat

/-- Whether a unit cannot start a bare text. -/
def startsNoText (unit : Nat) : Bool :=
  isSpace unit || isFlowSign unit || "#&*!|>'\"%@`".toList.any (·.toNat == unit)

/-- Whether a bare text ends at a unit, given the units before and after it. -/
def endsText (inFlow : Bool) (before unit after : Nat) : Bool :=
  if unit == ':'.toNat then isSpace after || (inFlow && isFlowSign after)
  else if unit == '#'.toNat then isSpace before
  else inFlow && isFlowSign unit

/-- The rest of a bare text; `broken` holds the line on which the text stopped for line breaks. -/
def plainRest (indent : Int) (inFlow : Bool) : Nat → Pending → Option Nat → Reader (List Nat)
  | 0, pending, _ => return pending.units
  | fuel + 1, pending, broken => do
    let state ← get
    let unit := state.unitAt 0
    let before := if state.position = 0 then 0 else state.input.getD (state.position - 1) 0
    let plainUnit := unit != ':'.toNat && unit != '#'.toNat
    if unit == 0 || endsText inFlow before unit (state.unitAt 1)
        || (plainUnit && state.atLineSeparator) then
      return pending.units ++ (← capture pending.start pending.stop)
    else if isBreak unit then
      let _ ← skipSpace false
      if (← get).lineIndent ≥ indent then plainRest indent inFlow fuel pending (some state.line)
      else
        modify fun after => { after with position := pending.stop, line := state.line
                                         lineStart := state.lineStart, lineIndent := state.lineIndent }
        return pending.units ++ (← capture pending.start pending.stop)
    else
      let pending ← match broken with
        | none => pure pending
        | some line =>
          let units := pending.units ++ (← capture pending.start pending.stop)
          pure { units := units ++ folded (state.line - line), start := state.position
                 stop := state.position : Pending }
      advance 1
      let stop := if isBlank unit then pending.stop else state.position + 1
      plainRest indent inFlow fuel { pending with stop } none

/-- Reads a bare text. -/
def plain (indent : Int) (inFlow : Bool) : Reader (Option (List Nat)) := do
  let state ← get
  let unit := state.unitAt 0
  let after := state.unitAt 1
  if startsNoText unit then return none
  if (unit == '?'.toNat || unit == '-'.toNat) && (isSpace after || (inFlow && isFlowSign after)) then
    return none
  let here := state.position
  let units ← plainRest indent inFlow (2 * state.input.size + 2) { start := here, stop := here } none
  return if units.isEmpty then none else some units

/-- The rest of a text between single quotes. -/
def singleRest : Nat → Pending → Reader (List Nat)
  | 0, pending => return pending.units
  | fuel + 1, pending => do
    let state ← get
    let unit := state.unitAt 0
    let here := state.position
    if unit == 0 then fail "unexpected end of the stream within a single quoted scalar"
    else if unit == '\''.toNat then
      let units := pending.units ++ (← captureQuoted pending.start here)
      advance 1
      if (← peek) == '\''.toNat then
        advance 1
        singleRest fuel { units, start := here + 1, stop := here + 2 }
      else return units
    else if isBreak unit then
      let units := pending.units ++ (← captureQuoted pending.start pending.stop)
      let breaks ← skipSpace false
      let next := (← get).position
      singleRest fuel { units := units ++ folded breaks, start := next, stop := next }
    else if state.atLineSeparator then
      fail "unexpected end of the document within a single quoted scalar"
    else
      advance 1
      singleRest fuel { pending with stop := if isBlank unit then pending.stop else here + 1 }

/-- Reads a text between single quotes. -/
def singleQuoted : Reader (Option (List Nat)) := do
  if (← peek) != '\''.toNat then return none
  advance 1
  let state ← get
  some <$> singleRest (state.input.size + 1) { start := state.position, stop := state.position }

/-- What a letter after a backslash stands for. -/
def escapes : List (Char × Nat) :=
  [('0', 0), ('a', 7), ('b', 8), ('t', 9), ('\t', 9), ('n', 10), ('v', 11), ('f', 12), ('r', 13),
    ('e', 0x1B), (' ', 0x20), ('"', 0x22), ('/', 0x2F), ('\\', 0x5C), ('N', 0x85), ('_', 0xA0),
    ('L', 0x2028), ('P', 0x2029)]

/-- The number of hexadecimal digits after a letter. -/
def hexCount (unit : Nat) : Nat :=
  if unit == 'x'.toNat then 2 else if unit == 'u'.toNat then 4 else if unit == 'U'.toNat then 8 else 0

/-- The value of a hexadecimal digit. -/
def hexValue? (unit : Nat) : Option Nat :=
  if 0x30 ≤ unit && unit ≤ 0x39 then some (unit - 0x30)
  else if 0x61 ≤ unit && unit ≤ 0x66 then some (unit - 0x61 + 10)
  else if 0x41 ≤ unit && unit ≤ 0x46 then some (unit - 0x41 + 10)
  else none

/-- Reads hexadecimal digits, each after moving on by one. -/
def hexDigits : Nat → Nat → Reader Nat
  | 0, value => return value
  | count + 1, value => do
    advance 1
    match hexValue? (← peek) with
    | some digit => hexDigits count (value * 16 + digit)
    | none => fail "expected hexadecimal character"

/-- The units of a character by its number. -/
def unitsOfCode (code : Nat) : List Nat :=
  if code < 0x10000 then [code]
  else
    let rest := (code - 0x10000) % 0x100000
    [0xD800 + rest / 0x400, 0xDC00 + rest % 0x400]

/-- Reads what follows a backslash. -/
def escaped : Reader (List Nat) := do
  let unit ← peek
  if isBreak unit then
    let _ ← skipSpace false
    return []
  match escapes.find? fun (letter, _) => letter.toNat == unit with
  | some (_, code) =>
    advance 1
    return [code]
  | none =>
    if hexCount unit == 0 then fail "unknown escape sequence"
    else
      let code ← hexDigits (hexCount unit) 0
      advance 1
      return unitsOfCode code

/-- The rest of a text between double quotes. -/
def doubleRest : Nat → Pending → Reader (List Nat)
  | 0, pending => return pending.units
  | fuel + 1, pending => do
    let state ← get
    let unit := state.unitAt 0
    let here := state.position
    if unit == 0 then fail "unexpected end of the stream within a double quoted scalar"
    else if unit == '"'.toNat then
      let units := pending.units ++ (← captureQuoted pending.start here)
      advance 1
      return units
    else if unit == '\\'.toNat then
      let units := pending.units ++ (← captureQuoted pending.start here)
      advance 1
      let units := units ++ (← escaped)
      let next := (← get).position
      doubleRest fuel { units, start := next, stop := next }
    else if isBreak unit then
      let units := pending.units ++ (← captureQuoted pending.start pending.stop)
      let breaks ← skipSpace false
      let next := (← get).position
      doubleRest fuel { units := units ++ folded breaks, start := next, stop := next }
    else if state.atLineSeparator then
      fail "unexpected end of the document within a double quoted scalar"
    else
      advance 1
      doubleRest fuel { pending with stop := if isBlank unit then pending.stop else here + 1 }

/-- Reads a text between double quotes. -/
def doubleQuoted : Reader (Option (List Nat)) := do
  if (← peek) != '"'.toNat then return none
  advance 1
  let state ← get
  some <$> doubleRest (state.input.size + 1) { start := state.position, stop := state.position }

/-- What becomes of the line breaks at the end of a block. -/
inductive Chomp where
  | clip
  | strip
  | keep
  deriving DecidableEq

/-- The head of a block of lines. -/
structure BlockHead where
  chomp : Chomp := .clip
  /-- The indentation of the lines, when it is known. -/
  indent : Option Int := none

/-- Reads the signs after the start of a block. -/
def blockSigns (nodeIndent : Int) : Nat → BlockHead → Reader BlockHead
  | 0, head => return head
  | fuel + 1, head => do
    advance 1
    let unit ← peek
    if unit == '+'.toNat || unit == '-'.toNat then
      if head.chomp == .clip then
        blockSigns nodeIndent fuel
          { head with chomp := if unit == '+'.toNat then .keep else .strip }
      else fail "repeat of a chomping mode identifier"
    else if 0x30 ≤ unit && unit ≤ 0x39 then
      if unit == 0x30 then
        fail "bad explicit indentation width of a block scalar; it cannot be less than one"
      else if head.indent.isNone then
        blockSigns nodeIndent fuel { head with indent := some (nodeIndent + (unit - 0x30 : Nat) - 1) }
      else fail "repeat of an indentation width identifier"
    else return head

/-- The lines of a block read so far. -/
structure BlockLines where
  units : List Nat := []
  /-- Some line has been read. -/
  started : Bool := false
  /-- The last line was indented more than the others. -/
  moreIndented : Bool := false
  empty : Nat := 0

/-- Several line breaks. -/
def breaks (count : Nat) : List Nat :=
  List.replicate count 0x0A

/-- The units before the next line of a block, which starts with `unit`. -/
def BlockLines.joint (lines : BlockLines) (folding : Bool) (unit : Nat) : List Nat :=
  let all := breaks (if lines.started then lines.empty + 1 else lines.empty)
  if !folding || isBlank unit then all
  else if lines.moreIndented then breaks (lines.empty + 1)
  else if lines.empty == 0 then (if lines.started then [0x20] else [])
  else breaks lines.empty

/-- The units at the end of a block. -/
def BlockLines.tail (lines : BlockLines) (chomp : Chomp) : List Nat :=
  match chomp with
  | .keep => breaks (if lines.started then lines.empty + 1 else lines.empty)
  | .clip => if lines.started then breaks 1 else []
  | .strip => []

/-- The lines of a block. The indentation is the given one until the first line fixes it, and it is
not zero unless the head of the block says so. -/
def blockRest (folding : Bool) (chomp : Chomp) : Nat → Int → Bool → BlockLines → Reader (List Nat)
  | 0, _, _, lines => return lines.units
  | fuel + 1, indent, fixed, lines => do
    if (← peek) == 0 then return lines.units
    readBreak
    modify fun state =>
      let stop := scan state.input (· == 0x20)
        (if fixed then indent.toNat else state.input.size + 1) state.position
      { state with lineIndent := stop - state.position, position := stop }
    let state ← get
    let found : Int := state.lineIndent
    let indent := if !fixed && found > indent then found else indent
    let unit := state.unitAt 0
    if isBreak unit then
      blockRest folding chomp fuel indent fixed { lines with empty := lines.empty + 1 }
    else if !fixed && indent == 0 then fail "missing indentation for block scalar"
    else if found < indent then return lines.units ++ lines.tail chomp
    else
      let joint := lines.joint folding unit
      skipComment
      let units ← capture state.position (← get).position
      blockRest folding chomp fuel indent true
        { units := lines.units ++ joint ++ units, started := true
          moreIndented := folding && isBlank unit, empty := 0 }

/-- Reads a block of lines. -/
def block (nodeIndent : Int) : Reader (Option (List Nat)) := do
  let unit ← peek
  if unit != '|'.toNat && unit != '>'.toNat then return none
  let size := (← get).input.size + 1
  let head ← blockSigns nodeIndent size {}
  if isBlank (← peek) then
    skipWhile isBlank
    if (← peek) == '#'.toNat then skipComment
  some <$> blockRest (unit == '>'.toNat) head.chomp size (head.indent.getD nodeIndent)
    head.indent.isSome {}

end Codemod.Yaml
