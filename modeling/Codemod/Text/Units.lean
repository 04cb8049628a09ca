/-!
# Texts measured in sixteen-bit units

Columns, edit distances, padding and the order of names are counted in
sixteen-bit code units: a character of the basic plane is one unit, any other
character is a high and a low surrogate. Texts stay strings; a unit is only a
way of measuring and comparing them.
-/
namespace Codemod.Text

/-- The code units of one character, one or two of them. -/
def unitsOfChar (c : Char) : List Nat :=
  let code := c.toNat
  if code < 0x10000 then [code]
  else [0xD800 + (code - 0x10000) / 0x400, 0xDC00 + (code - 0x10000) % 0x400]

/-- The number of code units of one character. -/
def widthOfChar (c : Char) : Nat :=
  if c.toNat < 0x10000 then 1 else 2

/-- The code units of a text, in order. -/
def units (text : String) : List Nat :=
  text.toList.flatMap unitsOfChar

/-- The number of code units of a text. -/
def width (text : String) : Nat :=
  (units text).length

/-- Code units as whole codes: two surrogates make one, half a pair stays what it is. -/
def joinPairs : List Nat → List Nat
  | high :: low :: rest =>
    if 0xD800 ≤ high && high < 0xDC00 && 0xDC00 ≤ low && low < 0xE000 then
      (0x10000 + (high - 0xD800) * 0x400 + (low - 0xDC00)) :: joinPairs rest
    else high :: joinPairs (low :: rest)
  | units => units

/-- The characters of code units, two surrogates making one character. -/
def charsOfUnits : List Nat → List Char
  | high :: low :: rest =>
    if 0xD800 ≤ high && high < 0xDC00 && 0xDC00 ≤ low && low < 0xE000 then
      Char.ofNat (0x10000 + (high - 0xD800) * 0x400 + (low - 0xDC00)) :: charsOfUnits rest
    else charOfUnit high :: charsOfUnits (low :: rest)
  | [unit] => [charOfUnit unit]
  | [] => []
where
  /-- The character of a lone unit; half a pair has none and is replaced. -/
  charOfUnit (unit : Nat) : Char :=
    if 0xD800 ≤ unit && unit < 0xE000 then '\ufffd' else Char.ofNat unit

/-- The text of code units. -/
def ofUnits (units : List Nat) : String :=
  String.ofList (charsOfUnits units)

/-- Dictionary order on lists of units. -/
def compareUnitLists : List Nat → List Nat → Ordering
  | [], [] => .eq
  | [], _ :: _ => .lt
  | _ :: _, [] => .gt
  | x :: xs, y :: ys =>
    if x < y then .lt else if y < x then .gt else compareUnitLists xs ys

/-- Texts in dictionary order of their code units. -/
def compareUnits (left right : String) : Ordering :=
  compareUnitLists (units left) (units right)

/-- Whether `left` stands before or at `right` in unit order. -/
def unitsLe (left right : String) : Bool :=
  compareUnits left right != .gt

/-- `text` followed by blanks up to `size` units. -/
def padRight (text : String) (size : Nat) : String :=
  text ++ String.ofList (List.replicate (size - width text) ' ')

/-- A character has as many units as its width says. -/
theorem length_units_of_char (c : Char) : (unitsOfChar c).length = widthOfChar c := by
  by_cases small : c.toNat < 0x10000 <;> simp [unitsOfChar, widthOfChar, small]

end Codemod.Text
