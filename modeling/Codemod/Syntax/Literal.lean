import Codemod.Syntax.Token
import Codemod.Number.Binary64

/-!
# Literals

Reading of strings, templates, numbers and regular expressions. A string or
template has the value that its escapes stand for; a number has as its value
the shortest text of the double it denotes, or the digits of an unbounded
integer.
-/
namespace Codemod.Syntax

/-- The shortest hexadecimal spelling of a code, at least two digits. -/
def hexText (code : Nat) : String :=
  let digits := Nat.toDigits 16 code
  String.ofList (if digits.length < 2 then '0' :: digits else digits)

/-- Reads an escape at the reader's position; what it stands for comes back as codes. -/
def Source.escape (source : Source) (reader : Reader) (report : Bool) : Reader × List Nat :=
  let start := reader.pos
  let pos := start + 1
  if pos ≥ source.size then
    (({ reader with pos } : Reader).complainHere "Unexpected end of text.", [])
  else
    let c := source.get pos
    let next := pos + 1
    let plain (codes : List Nat) : Reader × List Nat := ({ reader with pos := next }, codes)
    let raw (stop : Nat) : List Nat := (source.slice start stop).toList.map Char.toNat
    if c == '0' && !(next < source.size && isDigit (source.get next)) then plain [0]
    else if isOctalDigit c then
      let second := if c ≤ '3' && next < source.size && isOctalDigit (source.get next) then next + 1 else next
      let stop := if second < source.size && isOctalDigit (source.get second) then second + 1 else second
      let reader := { reader with pos := stop, invalidEscape := true }
      if report then
        let code := (source.slice (start + 1) stop).toList.foldl (fun v d => v * 8 + (d.toNat - '0'.toNat)) 0
        (reader.complain start (stop - start)
          ("Octal escape sequences are not allowed. Use the syntax '\\x" ++ hexText code ++ "'."), [code])
      else (reader, raw stop)
    else if c == '8' || c == '9' then
      let reader := { reader with pos := next, invalidEscape := true }
      if report then
        (reader.complain start 2
          ("Escape sequence '" ++ source.slice start next ++ "' is not allowed."), [c.toNat])
      else (reader, raw next)
    else if c == 'b' then plain [8]
    else if c == 't' then plain [9]
    else if c == 'n' then plain [10]
    else if c == 'v' then plain [11]
    else if c == 'f' then plain [12]
    else if c == 'r' then plain [13]
    else if c == 'u' && source.get next == '{' then source.longEscape reader report
    else if c == 'u' || c == 'x' then
      let wanted := if c == 'u' then 4 else 2
      let (value, count, stop) := source.hexDigits next wanted
      if count == wanted then ({ reader with pos := stop, escaped := reader.escaped || c == 'u' }, [value])
      else
        let reader := { reader with pos := stop, invalidEscape := true }
        ((if report then reader.complainHere "Hexadecimal digit expected." else reader), raw stop)
    else if c == '\r' then
      ({ reader with pos := if source.get next == '\n' then next + 1 else next }, [])
    else if isLineBreak c then plain []
    else plain [c.toNat]

/-- Characters of a string up to its closing quote, as codes with the last first. -/
def Source.stringRest (source : Source) (quote : Char) (inTag : Bool) :
    Nat → Reader → List Nat → Reader × List Nat
  | 0, reader, codes => (reader, codes)
  | fuel + 1, reader, codes =>
    let unterminated := reader.complainHere "Unterminated string literal."
    if reader.pos ≥ source.size then (unterminated, codes)
    else
      let c := source.get reader.pos
      if c == quote then ({ reader with pos := reader.pos + 1 }, codes)
      else if c == '\\' && !inTag then
        let (reader, more) := source.escape reader true
        stringRest source quote inTag fuel reader (more.reverse ++ codes)
      else if (c == '\n' || c == '\r') && !inTag then (unterminated, codes)
      else stringRest source quote inTag fuel { reader with pos := reader.pos + 1 } (c.toNat :: codes)

/-- Reads a string whose opening quote is at the reader's position. -/
def Source.string (source : Source) (reader : Reader) (inTag : Bool) : Reader × String :=
  let quote := source.get reader.pos
  let (reader, codes) :=
    source.stringRest quote inTag (source.size + 1) { reader with pos := reader.pos + 1 } []
  (reader, Text.ofUnits codes.reverse)

/-- Characters of a template up to its end or its next hole, as codes with the last first. -/
def Source.templateRest (source : Source) (begun report : Bool) :
    Nat → Reader → List Nat → Reader × List Nat × Kind
  | 0, reader, codes => (reader, codes, .unknown)
  | fuel + 1, reader, codes =>
    let closed := if begun then Kind.noSubstitutionTemplateLiteral else Kind.templateTail
    if reader.pos ≥ source.size then
      (reader.complainHere "Unterminated template literal.", codes, closed)
    else
      let c := source.get reader.pos
      if c == '\x60' then ({ reader with pos := reader.pos + 1 }, codes, closed)
      else if c == '$' && source.get (reader.pos + 1) == '{' then
        ({ reader with pos := reader.pos + 2 }, codes,
          if begun then .templateHead else .templateMiddle)
      else if c == '\\' then
        let (reader, more) := source.escape reader report
        templateRest source begun report fuel reader (more.reverse ++ codes)
      else if c == '\r' then
        let next := reader.pos + 1
        let pos := if source.get next == '\n' then next + 1 else next
        templateRest source begun report fuel { reader with pos } (10 :: codes)
      else templateRest source begun report fuel { reader with pos := reader.pos + 1 } (c.toNat :: codes)

/-- Reads a template, or the part of one after a hole, at the reader's position. -/
def Source.template (source : Source) (reader : Reader) (report : Bool) : Reader × String × Kind :=
  let begun := source.get reader.pos == '\x60'
  let (reader, codes, kind) :=
    source.templateRest begun report (source.size + 1) { reader with pos := reader.pos + 1 } []
  (reader, Text.ofUnits codes.reverse, kind)

/-- The value of a run of digits in a base. -/
def digitsValue (base : Nat) (digits : List Char) : Nat :=
  digits.foldl (fun value c => value * base + (hexValue? c).getD 0) 0

/-- The message about separators in the wrong place. -/
def separatorMessage (repeated : Bool) : String :=
  if repeated then "Multiple consecutive numeric separators are not permitted."
  else "Numeric separators are not allowed here."

/-- Digits that satisfy a test, with separators between them: the digits come back last first. -/
def Source.digitRun (source : Source) (test : Char → Bool) (lead : Bool) :
    Nat → Reader → Bool → Bool → List Char → Reader × List Char
  | 0, reader, _, _, digits => (reader, digits)
  | fuel + 1, reader, allowed, repeated, digits =>
    let c := source.get reader.pos
    if c == '_' then
      let reader := { reader with separated := true }
      if allowed then
        digitRun source test lead fuel { reader with pos := reader.pos + 1 } false true digits
      else
        let reader := reader.complain reader.pos 1 (separatorMessage repeated)
        digitRun source test lead fuel { reader with pos := reader.pos + 1 } false repeated digits
    else if reader.pos < source.size && test c then
      digitRun source test lead fuel { reader with pos := reader.pos + 1 } true false (c :: digits)
    else if source.get (reader.pos - 1) == '_' then
      (reader.complain (reader.pos - 1) 1 (separatorMessage false), digits)
    else (reader, digits)

/-- Decimal digits with separators from the reader's position on. -/
def Source.decimals (source : Source) (reader : Reader) : Reader × List Char :=
  let (reader, digits) := source.digitRun isDigit false (source.size + 1) reader false false []
  (reader, digits.reverse)

/-- The exponent that a signed run of digits stands for. -/
def exponentValue (negative : Bool) (digits : List Char) : Int :=
  let value := digitsValue 10 digits
  if negative then -(value : Int) else value

/-- The name that follows a number directly, which is an error. -/
def Source.nameAfterNumber (source : Source) (reader : Reader) (start : Nat) (scientific : Bool) : Reader :=
  if reader.pos < source.size && Text.isIdentifierStart (source.get reader.pos) then
    let (after, name) := source.nameTail reader
    if name.length == 1 && source.get reader.pos == 'n' then
      let message :=
        if scientific then "A bigint literal cannot use exponential notation."
        else "A bigint literal must be an integer."
      after.complain start (reader.pos - start + 1) message
    else
      { after.complain reader.pos name.length
          "An identifier or keyword cannot immediately follow a numeric literal." with pos := reader.pos }
  else reader

/-- A number or, before the suffix `n`, an unbounded integer, from its digits. -/
def Source.integer (source : Source) (reader : Reader) (base : Nat) (digits : List Char) :
    Reader × String × Kind :=
  if source.get reader.pos == 'n' then
    let spelled := match base with
      | 16 => "0x" ++ String.ofList (digits.map Char.toLower)
      | 10 => String.ofList digits
      | _ => toString (digitsValue base digits)
    ({ reader with pos := reader.pos + 1 }, spelled ++ "n", .bigIntLiteral)
  else
    (reader, (Binary64.ofDecimal false (digitsValue base digits) 0).text, .numericLiteral)

/-- Digits after a base mark such as `0x`. -/
def Source.based (source : Source) (reader : Reader) (base : Nat) (test : Char → Bool) (missing : String) :
    Reader × String × Kind :=
  let reader := { reader with pos := reader.pos + 2 }
  let (reader, digits) := source.digitRun test false (source.size + 1) reader false false []
  let (reader, digits) :=
    if digits.isEmpty then (reader.complainHere missing, ['0']) else (reader, digits.reverse)
  source.integer reader base digits

/-- The octal digits of a natural number held as a double; digits past its precision are zeros. -/
def octalText : Binary64 → String
  | .finite _ mantissa exponent =>
    let zeros := (exponent.toNat + 2) / 3
    let shift := 3 * zeros
    let kept :=
      if exponent ≥ 0 then mantissa * Nat.pow 2 exponent.toNat / Nat.pow 2 shift
      else mantissa / Nat.pow 2 (-exponent).toNat
    String.ofList (Nat.toDigits 8 kept ++ List.replicate zeros '0')
  | other => other.text

/-- A decimal number at the reader's position; `negated` says that a minus stands before it. -/
def Source.decimal (source : Source) (reader : Reader) (negated : Bool) : Reader × String × Kind :=
  let start := reader.pos
  let zeroFirst := source.get start == '0'
  let digitsStop := source.skipWhile isDigit (start + 1)
  let legacy := (source.slice (start + 1) digitsStop).toList
  if zeroFirst && source.get (start + 1) != '_' && !legacy.isEmpty && legacy.all isOctalDigit then
    let value := Binary64.ofDecimal false (digitsValue 8 legacy) 0
    let literal := (if negated then "-" else "") ++ "0o" ++ octalText value
    let start := if negated then start - 1 else start
    let reader := { reader with pos := digitsStop }
    (reader.complain start (digitsStop - start)
      ("Octal literals are not allowed. Use the syntax '" ++ literal ++ "'."), value.text, .numericLiteral)
  else
    let leadingZero := zeroFirst && source.get (start + 1) != '_' && !legacy.isEmpty
    let (reader, whole) :=
      if zeroFirst && source.get (start + 1) == '_' then
        source.decimals (reader.complain (start + 1) 1 (separatorMessage false))
      else if zeroFirst then ({ reader with pos := digitsStop }, '0' :: legacy)
      else source.decimals reader
    let (reader, fraction) :=
      if source.get reader.pos == '.' then
        let (reader, digits) := source.decimals { reader with pos := reader.pos + 1 }
        (reader, some digits)
      else (reader, none)
    let stop := reader.pos
    let mark := source.get reader.pos
    let scientific := mark == 'e' || mark == 'E'
    let (reader, exponent, stop) :=
      if scientific then
        let sign := source.get (reader.pos + 1)
        let signed := sign == '+' || sign == '-'
        let (reader, digits) := source.decimals { reader with pos := reader.pos + (if signed then 2 else 1) }
        if digits.isEmpty then (reader.complainHere "Digit expected.", 0, stop)
        else (reader, exponentValue (sign == '-') digits, reader.pos)
      else (reader, 0, stop)
    let fractionDigits := fraction.getD []
    let value := Binary64.ofDecimal false (digitsValue 10 (whole ++ fractionDigits))
      (exponent - (fractionDigits.length : Int))
    if leadingZero then
      (reader.complain start (stop - start) "Decimals with leading zeros are not allowed.",
        value.text, .numericLiteral)
    else if fraction.isSome || scientific then
      (source.nameAfterNumber reader start (fraction.isNone && scientific), value.text, .numericLiteral)
    else
      let (reader, text, kind) := source.integer reader 10 whole
      (source.nameAfterNumber reader start false, text, kind)

/-- The end of the body of a regular expression, and whether a slash stands there. -/
def Source.patternEnd (source : Source) : Nat → Nat → Bool → Bool → Nat × Bool
  | 0, pos, _, _ => (pos, false)
  | fuel + 1, pos, escaped, inClass =>
    if pos ≥ source.size then (pos, false)
    else
      let c := source.get pos
      if isLineBreak c then (pos, false)
      else if escaped then patternEnd source fuel (pos + 1) false inClass
      else if c == '/' && !inClass then (pos, true)
      else
        let inClass := if c == '[' then true else if c == ']' then false else inClass
        patternEnd source fuel (pos + 1) (c == '\\') inClass

/-- Where an unterminated regular expression most likely ends: before the first unbalanced bracket. -/
def Source.patternGuess (source : Source) (limit : Nat) :
    Nat → Nat → Bool → Nat → Bool → Nat → Nat
  | 0, pos, _, _, _, _ => pos
  | fuel + 1, pos, escaped, classes, inCount, groups =>
    if pos ≥ limit then pos
    else
      let c := source.get pos
      let go := patternGuess source limit fuel (pos + 1)
      if escaped then go false classes inCount groups
      else if c == '\\' then go true classes inCount groups
      else if c == '[' then go false (classes + 1) inCount groups
      else if c == ']' && classes > 0 then go false (classes - 1) inCount groups
      else if classes > 0 then go false classes inCount groups
      else if c == '{' then go false classes true groups
      else if c == '}' && inCount then go false classes false groups
      else if inCount then go false classes inCount groups
      else if c == '(' then go false classes inCount (groups + 1)
      else if c == ')' && groups > 0 then go false classes inCount (groups - 1)
      else if c == ')' || c == ']' || c == '}' then pos
      else go false classes inCount groups

/-- The position after dropping blanks and semicolons before it. -/
def Source.dropTrailing (source : Source) : Nat → Nat
  | 0 => 0
  | pos + 1 =>
    let c := source.get pos
    if isBlankOrBreak c || c == ';' then dropTrailing source pos else pos + 1

/-- Reads a regular expression whose opening slash is at `start`. -/
def Source.pattern (source : Source) (start : Nat) : Reader :=
  let (stop, closed) := source.patternEnd (source.size + 1) (start + 1) false false
  if closed then { pos := source.skipWhile Text.isIdentifierPart (stop + 1) }
  else
    let guess := source.patternGuess stop (source.size + 1) (start + 1) false 0 false 0
    let stop := source.dropTrailing guess
    ({ pos := stop } : Reader).complain start (stop - start) "Unterminated regular expression literal."

end Codemod.Syntax
