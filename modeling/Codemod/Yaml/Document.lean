import Codemod.Yaml.Compose

/-!
# Documents

A text holds one document: directives, a mark, a node and a mark at its end, of
which all may be left out. A line break is added at the end where there is none,
and a byte order mark is dropped.
-/
namespace Codemod.Yaml

open Numeral (digitsIn?)

/-- Why a text is not one document. -/
inductive Fault where
  | unreadable (failure : Failure)
  | severalDocuments
  deriving DecidableEq, Repr

/-- The message of a fault. -/
def Fault.message : Fault → String
  | .unreadable failure => failure.message
  | .severalDocuments => "expected a single document in the stream, but found more"

/-- The words of a directive after its name. -/
def directiveWords : Nat → List String → Reader (List String)
  | 0, words => return words
  | fuel + 1, words => do
    skipWhile isBlank
    let unit ← peek
    if unit == '#'.toNat then
      skipComment
      return words
    else if unit == 0 || isBreak unit then return words
    else
      let start := (← get).position
      skipWhile fun unit => unit != 0 && !isSpace unit
      let state ← get
      directiveWords fuel (words ++ [Text.ofUnits (state.slice start state.position)])

/-- The major number of a version of two numbers. -/
def majorVersion? (version : String) : Option Nat := do
  match version.splitOn "." with
  | [major, minor] =>
    let major ← digitsIn? 10 major.toList
    let _ ← digitsIn? 10 minor.toList
    return major
  | _ => none

/-- Takes the version of a document. -/
def versionDirective (words : List String) : Reader Unit := do
  if (← get).versioned then fail "duplication of %YAML directive"
  match words with
  | [version] =>
    match majorVersion? version with
    | none => fail "ill-formed argument of the YAML directive"
    | some major =>
      if major ≠ 1 then fail "unacceptable YAML version of the document"
      modify fun state => { state with versioned := true }
  | _ => fail "YAML directive accepts exactly one argument"

/-- Declares the prefix of a tag handle. -/
def tagDirective (words : List String) : Reader Unit := do
  match words with
  | [handle, start] =>
    if !isHandle (Text.units handle) then
      fail "ill-formed tag handle (first argument) of the TAG directive"
    if ((← get).handles.lookup handle).isSome then
      fail ("there is a previously declared suffix for \"" ++ handle ++ "\" tag handle")
    if !isTagText (Text.units start) then
      fail "ill-formed tag prefix (second argument) of the TAG directive"
    match decodedTag? (Text.units start) with
    | some decoded => modify fun state => { state with handles := (handle, decoded) :: state.handles }
    | none => fail ("tag prefix is malformed: " ++ start)
  | _ => fail "TAG directive accepts exactly two arguments"

/-- Reads the directives before a document; gives whether there were any. -/
def directives : Nat → Bool → Reader Bool
  | 0, found => return found
  | fuel + 1, found => do
    let _ ← skipSpace true
    let state ← get
    if state.lineIndent > 0 || state.unitAt 0 != '%'.toNat then return found
    else
      advance 1
      let start := (← get).position
      skipWhile fun unit => unit != 0 && !isSpace unit
      let state ← get
      let name := Text.ofUnits (state.slice start state.position)
      if name.isEmpty then fail "directive name must not be less than one character in length"
      let words ← directiveWords (state.input.size + 1) []
      if (← peek) != 0 then readBreak
      if name = "YAML" then versionDirective words
      else if name = "TAG" then tagDirective words
      directives fuel true

/-- Reads one document. -/
def document : Reader Value := do
  modify fun state => { state with anchors := [], handles := [], versioned := false }
  let size := (← get).input.size
  let directed ← directives (size + 1) false
  let _ ← skipSpace true
  let state ← get
  let dash := '-'.toNat
  if state.lineIndent == 0 && state.unitAt 0 == dash && state.unitAt 1 == dash
      && state.unitAt 2 == dash then
    advance 3
    let _ ← skipSpace true
  else if directed then fail "directives end mark is expected"
  let node ← compose (8 * size + 16) (((← get).lineIndent : Int) - 1) .blockOut false true
  let _ ← skipSpace true
  let state ← get
  if state.atLineSeparator then
    if state.unitAt 0 == '.'.toNat then
      advance 3
      let _ ← skipSpace true
  else if state.position + 1 < size then
    fail "end of the stream or a document separator is expected"
  return node.value

/-- Reads documents up to the end of the text, after those already read. -/
def documents : Nat → List Value → Reader (List Value)
  | 0, done => return done
  | fuel + 1, done => do
    let state ← get
    if state.position + 1 < state.input.size then documents fuel (done ++ [← document])
    else return done

/-- The units of a text with a line break at the end and no byte order mark at the start. -/
def prepared (text : String) : List Nat :=
  let units := Text.units text
  match units.getLast? with
  | none => []
  | some last =>
    let ended := if isBreak last then units else units ++ [0x0A]
    if ended.head? = some 0xFEFF then ended.drop 1 else ended

/-- The node of the only document of a text; none when the text has no document. -/
def parse (text : String) : Except Fault (Option Value) := do
  let units := prepared text
  match units.findIdx? (· == 0) with
  | some position =>
    .error (.unreadable
      { reason := "null byte is not allowed in input", shown := units.dropLast, position, line := 0
        lineStart := 0 })
  | none =>
    let indent := (units.takeWhile (· == 0x20)).length
    let start : State := { input := units.toArray, position := indent, lineIndent := indent }
    match (documents (units.length + 1) []).run start with
    | .error failure => .error (.unreadable failure)
    | .ok ([], _) => .ok none
    | .ok ([value], _) => .ok (some value)
    | .ok _ => .error .severalDocuments

end Codemod.Yaml
