import Codemod.Text.Units
import Codemod.Text.Letters

/-!
# Source texts

A source text is read as an array of characters. Four characters end a line,
and a carriage return with the line feed after it ends one line together.
Positions are indices into the array; a reported position is a line and a
column in code units, both counted from one.
-/
namespace Codemod.Syntax

/-- A text to be read. -/
structure Source where
  chars : Array Char
  deriving Inhabited

namespace Source

/-- The source of a text. -/
def ofString (text : String) : Source :=
  { chars := text.toList.toArray }

/-- The number of characters. -/
def size (source : Source) : Nat :=
  source.chars.size

/-- The character at a position, the null character past the end. -/
def get (source : Source) (pos : Nat) : Char :=
  source.chars.getD pos '\x00'

/-- The text between two positions. -/
def slice (source : Source) (start stop : Nat) : String :=
  String.ofList (source.chars.extract start stop).toList

/-- The first of the `left` positions from `pos` on whose character fails the test, else the one
after them. -/
def skipAtMost (source : Source) (test : Char → Bool) : Nat → Nat → Nat
  | 0, pos => pos
  | left + 1, pos => if test (source.get pos) then skipAtMost source test left (pos + 1) else pos

/-- The first position from `pos` on whose character fails the test. -/
def skipWhile (source : Source) (test : Char → Bool) (pos : Nat) : Nat :=
  skipAtMost source test (source.size - pos) pos

end Source

/-- Whether a character ends a line. -/
def isLineBreak (c : Char) : Bool :=
  c == '\n' || c == '\r' || c == '\u2028' || c == '\u2029'

/-- Whether a character is a blank within a line. -/
def isLineBlank (c : Char) : Bool :=
  c == ' ' || c == '\t' || c == '\x0b' || c == '\x0c' || c == '\u00a0' || c == '\u0085'
    || c == '\u1680' || (c.toNat ≥ 0x2000 && c.toNat ≤ 0x200B) || c == '\u202f' || c == '\u205f'
    || c == '\u3000' || c == '\ufeff'

/-- Whether a character is a blank or ends a line. -/
def isBlankOrBreak (c : Char) : Bool :=
  isLineBlank c || isLineBreak c

/-- A decimal digit. -/
def isDigit (c : Char) : Bool :=
  '0' ≤ c && c ≤ '9'

/-- An octal digit. -/
def isOctalDigit (c : Char) : Bool :=
  '0' ≤ c && c ≤ '7'

/-- The value of a hexadecimal digit. -/
def hexValue? (c : Char) : Option Nat :=
  if isDigit c then some (c.toNat - '0'.toNat)
  else if 'a' ≤ c && c ≤ 'f' then some (c.toNat - 'a'.toNat + 10)
  else if 'A' ≤ c && c ≤ 'F' then some (c.toNat - 'A'.toNat + 10)
  else none

/-- The positions where lines start, from `pos` on. -/
def lineStartsFrom (chars : List Char) (pos : Nat) : List Nat :=
  match chars with
  | [] => []
  | '\r' :: '\n' :: rest => (pos + 2) :: lineStartsFrom rest (pos + 2)
  | c :: rest =>
    if isLineBreak c then (pos + 1) :: lineStartsFrom rest (pos + 1) else lineStartsFrom rest (pos + 1)

namespace Source

/-- The positions where lines start, the first being zero. -/
def lineStarts (source : Source) : Array Nat :=
  (0 :: lineStartsFrom source.chars.toList 0).toArray

end Source

/-- The number of the line of a position, from zero, found by halving. -/
def lineIndex (starts : Array Nat) (pos : Nat) : Nat → Nat → Nat → Nat
  | 0, low, _ => low
  | fuel + 1, low, high =>
    if high ≤ low + 1 then low
    else
      let middle := (low + high) / 2
      if starts.getD middle 0 ≤ pos then lineIndex starts pos fuel middle high
      else lineIndex starts pos fuel low middle

/-- The number of the line of a position, from zero. -/
def lineOf (starts : Array Nat) (pos : Nat) : Nat :=
  lineIndex starts pos (starts.size + 1) 0 starts.size

/-- A line and a column, both counted from one. -/
structure Position where
  line : Nat
  column : Nat
  deriving DecidableEq, Repr, Inhabited

/-- The line and column of a position; the column counts code units. -/
def Source.positionAt (source : Source) (pos : Nat) : Position :=
  let starts := source.lineStarts
  let line := lineOf starts pos
  let start := starts.getD line 0
  let before := String.ofList (source.chars.extract start pos).toList
  { line := line + 1, column := Text.width before + 1 }

end Codemod.Syntax
