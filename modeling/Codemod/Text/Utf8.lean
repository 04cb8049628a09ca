/-!
# Bytes as text

Bytes are read as text in the eight-bit encoding of the standard. A byte that
cannot start or continue a character stands for one replacement character,
together with the bytes before it that began the character in vain; it is then
read again as a possible start. A byte order mark is a character like others.
-/
namespace Codemod.Text.Utf8

/-- Where a reader of bytes stands. -/
inductive State where
  /-- Between characters. -/
  | idle
  /-- Inside a character: `needed + 1` more bytes, the next one from `low` to `high`, after the
  leading bits `code`. -/
  | inside (needed low high code : Nat)
  deriving DecidableEq, Repr

/-- The replacement of bytes that are no character. -/
def replacement : Char :=
  Char.ofNat 0xFFFD

/-- What a byte between characters gives, and where it leads. -/
def start (byte : UInt8) : List Char × State :=
  let b := byte.toNat
  if b < 0x80 then ([Char.ofNat b], .idle)
  else if 0xC2 ≤ b && b ≤ 0xDF then ([], .inside 0 0x80 0xBF (b % 0x20))
  else if 0xE0 ≤ b && b ≤ 0xEF then
    ([], .inside 1 (if b = 0xE0 then 0xA0 else 0x80) (if b = 0xED then 0x9F else 0xBF) (b % 0x10))
  else if 0xF0 ≤ b && b ≤ 0xF4 then
    ([], .inside 2 (if b = 0xF0 then 0x90 else 0x80) (if b = 0xF4 then 0x8F else 0xBF) (b % 0x08))
  else ([replacement], .idle)

/-- What a byte gives, and where it leads. -/
def step (state : State) (byte : UInt8) : List Char × State :=
  match state with
  | .idle => start byte
  | .inside needed low high code =>
    let b := byte.toNat
    if low ≤ b && b ≤ high then
      let next := code * 0x40 + b % 0x40
      match needed with
      | 0 => ([Char.ofNat next], .idle)
      | more + 1 => ([], .inside more 0x80 0xBF next)
    else
      let (chars, after) := start byte
      (replacement :: chars, after)

/-- The characters of the bytes that are left. -/
def decodeFrom : State → List UInt8 → List Char
  | .idle, [] => []
  | .inside .., [] => [replacement]
  | state, byte :: rest =>
    let (chars, after) := step state byte
    chars ++ decodeFrom after rest

/-- The text that bytes stand for. -/
def decode (bytes : ByteArray) : String :=
  String.ofList (decodeFrom .idle bytes.toList)

end Codemod.Text.Utf8
