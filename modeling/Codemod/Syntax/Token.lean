import Codemod.Syntax.Kind
import Codemod.Syntax.Source

/-!
# Tokens

A token is a stretch of text with a kind and, for names and literals, a value.
Its full start lies before the blanks and comments in front of it. Reading a
token may raise complaints about the text; they are returned beside it.
-/
namespace Codemod.Syntax

/-- A complaint about a stretch of text. -/
structure Diagnostic where
  start : Nat
  length : Nat
  message : String
  deriving DecidableEq, Repr, Inhabited

/-- A stretch of text with its meaning. -/
structure Token where
  kind : Kind
  fullStart : Nat
  start : Nat
  stop : Nat
  value : String := ""
  /-- A line break stands between this token and the one before. -/
  newline : Bool := false
  /-- The name is spelled with an escape. -/
  escaped : Bool := false
  /-- The number has separators. -/
  separated : Bool := false
  /-- The template has an escape that no text can have. -/
  invalidEscape : Bool := false
  /-- The text between tags is blank and holds a line break. -/
  blankText : Bool := false
  deriving Repr, Inhabited

/-- The kind of a name: a word of the language or an identifier. -/
def kindOfName (name : String) : Kind :=
  ((Kind.words.find? (·.2 == name)).map (·.1)).getD .identifier

namespace Kind

/-- Whether a kind is an identifier, a private name or a word of the language. -/
def isName (kind : Kind) : Bool :=
  kind == .identifier || kind == .privateIdentifier || kind.isWord

end Kind

/-- Reading in progress: the position, the complaints so far and the marks of the token. -/
structure Reader where
  pos : Nat
  complaints : List Diagnostic := []
  escaped : Bool := false
  separated : Bool := false
  invalidEscape : Bool := false
  deriving Inhabited

/-- A complaint at a place of the text. -/
def Reader.complain (reader : Reader) (start length : Nat) (message : String) : Reader :=
  { reader with complaints := { start, length, message } :: reader.complaints }

/-- A complaint where the reader stands. -/
def Reader.complainHere (reader : Reader) (message : String) : Reader :=
  reader.complain reader.pos 0 message

/-- A complaint about a version-control conflict marker. -/
def Reader.complainMarker (reader : Reader) (pos : Nat) : Reader :=
  reader.complain pos 7 "Merge conflict marker encountered."

namespace Source

/-- Hexadecimal digits from a position on, at most `limit` of them: their value, number and end. -/
def hexDigits (source : Source) (pos : Nat) : Nat → Nat × Nat × Nat
  | 0 => (0, 0, pos)
  | limit + 1 =>
    match hexValue? (source.get pos) with
    | none => (0, 0, pos)
    | some _ =>
      let stop := scan (pos + 1) limit
      let value := (source.chars.extract pos stop).foldl
        (fun value c => value * 16 + (hexValue? c).getD 0) 0
      (value, stop - pos, stop)
where
  /-- The end of the run of digits. -/
  scan (pos : Nat) : Nat → Nat
    | 0 => pos
    | limit + 1 => if (hexValue? (source.get pos)).isSome then scan (pos + 1) limit else pos

/-- The code of an escape `\u{...}` at a position; whether the brace is closed does not matter. -/
def peekLongEscape (source : Source) (pos : Nat) : Option Nat :=
  if source.get (pos + 1) == 'u' && source.get (pos + 2) == '{' then
    let (value, count, _) := source.hexDigits (pos + 3) source.size
    if count > 0 then some value else none
  else none

/-- The code of an escape `\uXXXX` at a position, with its end. -/
def peekShortEscape (source : Source) (pos : Nat) : Option (Nat × Nat) :=
  if source.get (pos + 1) == 'u' then
    let (value, count, stop) := source.hexDigits (pos + 2) 4
    if count == 4 then some (value, stop) else none
  else none

/-- Reads `\u{...}` at the reader's position; what it stands for comes back as codes. -/
def longEscape (source : Source) (reader : Reader) (report : Bool) : Reader × List Nat :=
  let start := reader.pos
  let (value, count, stop) := source.hexDigits (start + 3) source.size
  let reader := { reader with pos := stop }
  let complain (reader : Reader) (start length : Nat) (message : String) : Reader :=
    if report then reader.complain start length message else reader
  let (reader, invalid) :=
    if count == 0 then (complain reader stop 0 "Hexadecimal digit expected.", true)
    else if value > 0x10FFFF then
      (complain reader (start + 3) count
        "An extended Unicode escape value must be between 0x0 and 0x10FFFF inclusive.", true)
    else (reader, false)
  let (reader, invalid) :=
    if stop ≥ source.size then (complain reader stop 0 "Unexpected end of text.", true)
    else if source.get stop == '}' then ({ reader with pos := stop + 1 }, invalid)
    else (complain reader stop 0 "Unterminated Unicode escape sequence.", true)
  if invalid then
    ({ reader with invalidEscape := true }, (source.slice start reader.pos).toList.map Char.toNat)
  else ({ reader with escaped := true }, [value])

/-- An escape of an identifier character at the reader's position, when the test accepts the character.
The flag says that it is spelled with braces. -/
def nameEscape (source : Source) (test : Char → Bool) (reader : Reader) : Option (Reader × List Char × Bool) :=
  let accepted (code : Nat) : Bool := code ≤ 0x10FFFF && test (Char.ofNat code)
  match (source.peekLongEscape reader.pos).filter accepted with
  | some _ =>
    let (reader, codes) := source.longEscape reader true
    some (reader, codes.map Char.ofNat, true)
  | none =>
    match (source.peekShortEscape reader.pos).filter (fun escape => accepted escape.1) with
    | some (code, stop) => some ({ reader with pos := stop, escaped := true }, [Char.ofNat code], false)
    | none => none

/-- The rest of an identifier from the reader's position on, its characters in reverse. An escape in
braces drops the characters read since the last escape. -/
def nameRest (source : Source) : Nat → Reader → List Char → List Char → Reader × List Char
  | 0, reader, kept, plain => (reader, plain ++ kept)
  | fuel + 1, reader, kept, plain =>
    if reader.pos < source.size then
      let c := source.get reader.pos
      if Text.isIdentifierPart c then
        nameRest source fuel { reader with pos := reader.pos + 1 } kept (c :: plain)
      else if c == '\\' then
        match source.nameEscape Text.isIdentifierPart reader with
        | some (reader, chars, braced) =>
          let kept := if braced then kept else plain ++ kept
          nameRest source fuel reader (chars.reverse ++ kept) []
        | none => (reader, plain ++ kept)
      else (reader, plain ++ kept)
    else (reader, plain ++ kept)

/-- The characters that continue an identifier at the reader's position. -/
def nameTail (source : Source) (reader : Reader) : Reader × String :=
  let (reader, chars) := source.nameRest (source.size + 1) reader [] []
  (reader, String.ofList chars.reverse)

/-- Whether a version-control conflict marker starts at a position: seven equal signs at the start
of a line, followed by a blank unless they are equals signs. -/
def conflictMarker (source : Source) (pos : Nat) : Bool :=
  (pos == 0 || isLineBreak (source.get (pos - 1)))
    && pos + 7 < source.size
    && (List.range 7).all (fun i => source.get (pos + i) == source.get pos)
    && (source.get pos == '=' || source.get (pos + 7) == ' ')

/-- The end of a conflict marker and of the text that it makes unreadable. -/
def skipConflict (source : Source) (pos : Nat) : Nat :=
  let mark := source.get pos
  if mark == '<' || mark == '>' then source.skipWhile (fun c => !isLineBreak c) pos
  else scan mark pos (source.size - pos)
where
  /-- The next marker that ends the unreadable text. -/
  scan (mark : Char) (pos : Nat) : Nat → Nat
    | 0 => pos
    | fuel + 1 =>
      let c := source.get pos
      if (c == '=' || c == '>') && c != mark && source.conflictMarker pos then pos
      else scan mark (pos + 1) fuel

/-- The length of the first line when it names an interpreter. -/
def interpreterLine (source : Source) : Nat :=
  if source.get 0 == '#' && source.get 1 == '!' then
    source.skipWhile (fun c => !isLineBreak c) 2
  else 0

end Source

end Codemod.Syntax
