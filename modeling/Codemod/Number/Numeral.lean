import Codemod.Number.Binary64
import Codemod.Text.Blank

/-!
# Numerals

A numeral is a run of digits in a base, or a decimal with a sign, a point and an exponent. A text as a
whole stands for the number of its numeral, with any blanks around it. A text of blanks alone stands for
zero, and any other text for no number.
-/
namespace Codemod

namespace Numeral

/-- The value of digits in a base, if all of them are such digits. -/
def digitsIn? (base : Nat) (chars : List Char) : Option Nat :=
  if chars.isEmpty then none
  else chars.foldlM (fun value c => (digit? c).map (base * value + ·)) 0
where
  /-- The value of one digit. -/
  digit? (c : Char) : Option Nat :=
    let value :=
      if c.isDigit then c.toNat - '0'.toNat
      else if 'a' ≤ c && c ≤ 'f' then c.toNat - 'a'.toNat + 10
      else if 'A' ≤ c && c ≤ 'F' then c.toNat - 'A'.toNat + 10
      else base
    if value < base then some value else none

/-- A text without its sign, and whether the sign is a minus. -/
def unsigned : List Char → Bool × List Char
  | '-' :: rest => (true, rest)
  | '+' :: rest => (false, rest)
  | chars => (false, chars)

/-- The exponent at the end of a number. -/
def exponent? : List Char → Option Int
  | [] => some 0
  | mark :: rest =>
    if mark = 'e' || mark = 'E' then
      let (negative, digits) := unsigned rest
      (digitsIn? 10 digits).map fun n => if negative then -(n : Int) else n
    else none

/-- The number that digits with a point and an exponent stand for. -/
def decimal? (negative : Bool) (chars : List Char) : Option Binary64 := do
  let whole := chars.takeWhile Char.isDigit
  let rest := chars.drop whole.length
  let (fraction, rest) := match rest with
    | '.' :: after => (after.takeWhile Char.isDigit, after.dropWhile Char.isDigit)
    | _ => ([], rest)
  if whole.isEmpty && fraction.isEmpty then none
  let exponent ← exponent? rest
  let digits := ((whole ++ fraction).foldl fun n c => 10 * n + (c.toNat - '0'.toNat)) 0
  return Binary64.ofDecimal negative digits (exponent - fraction.length)

/-- The number that a decimal or the word for infinity stands for, with its sign. -/
def signed? (chars : List Char) : Option Binary64 :=
  let (negative, rest) := unsigned chars
  if rest = "Infinity".toList then some (.infinite negative) else decimal? negative rest

/-- The base that a letter after a zero marks. -/
def base? : Char → Option Nat
  | 'b' | 'B' => some 2
  | 'o' | 'O' => some 8
  | 'x' | 'X' => some 16
  | _ => none

/-- The number that digits after a mark for their base stand for. -/
def marked? : List Char → Option Binary64
  | '0' :: mark :: digits => do
    let n ← digitsIn? (← base? mark) digits
    return Binary64.ofRatio false n 1
  | _ => none

end Numeral

/-- The number that a text stands for. -/
def Binary64.ofText (text : String) : Binary64 :=
  match Text.trimList text.toList with
  | [] => .finite false 0 (-1074)
  | chars => ((Numeral.marked? chars).or (Numeral.signed? chars)).getD .nan

end Codemod
