import Codemod.Number.Binary64
import Codemod.Text.Blank

/-!
# Braces in patterns

`a{b,c}d` stands for `abd` and `acd`, `{1..3}` for the numbers between, `{a..e}`
for the letters between. A brace that closes nothing, braces around one
alternative and braces after a dollar sign stand for themselves. A backslash
before a brace, a comma, a dot or a backslash takes its meaning away.
-/
namespace Codemod.Glob

/-- A character of a pattern, or one that has lost its meaning. -/
structure Mark where
  char : Char
  guarded : Bool := false
  deriving DecidableEq, Repr, Inhabited

namespace Mark

/-- Whether a mark is a character with its meaning. -/
def is (mark : Mark) (c : Char) : Bool :=
  mark.char == c && !mark.guarded

/-- The marks of a pattern: a backslash takes the meaning away from what follows. -/
def ofChars : List Char → List Mark
  | '\\' :: c :: rest =>
    if c == '\\' || c == '{' || c == '}' || c == ',' || c == '.' then
      { char := c, guarded := true } :: ofChars rest
    else { char := '\\' } :: ofChars (c :: rest)
  | c :: rest => { char := c } :: ofChars rest
  | [] => []

/-- The characters of marks. -/
def text (marks : List Mark) : String :=
  String.ofList (marks.map (·.char))

/-- A text as marks with their meaning. -/
def plain (text : String) : List Mark :=
  text.toList.map ({ char := · })

end Mark

/-- What stands before the brace that closes the one just opened, and what follows it. -/
def closing (depth : Nat) (body : List Mark) : List Mark → Option (List Mark × List Mark)
  | [] => none
  | mark :: rest =>
    if mark.is '{' then closing (depth + 1) (mark :: body) rest
    else if mark.is '}' then
      match depth with
      | 0 => some (body.reverse, rest)
      | outer + 1 => closing outer (mark :: body) rest
    else closing depth (mark :: body) rest

/-- A pattern around its first braces that close. -/
structure Braced where
  before : List Mark
  body : List Mark
  after : List Mark

/-- The first braces of a pattern that close. -/
def braced? (before : List Mark) : List Mark → Option Braced
  | [] => none
  | mark :: rest =>
    if mark.is '{' then
      match closing 0 [] rest with
      | some (body, after) => some { before := before.reverse, body, after }
      | none => braced? (mark :: before) rest
    else braced? (mark :: before) rest

/-- The alternatives of a body, divided by the commas that stand in no inner braces. -/
def alternatives (depth : Nat) (current : List Mark) : List Mark → List (List Mark)
  | [] => [current.reverse]
  | mark :: rest =>
    if mark.is ',' && depth == 0 then current.reverse :: alternatives 0 [] rest
    else
      let depth := if mark.is '{' then depth + 1 else if mark.is '}' then depth - 1 else depth
      alternatives depth (mark :: current) rest

/-- The most patterns that braces stand for. -/
def maxPatterns : Nat :=
  100000

/-- A whole number with an optional minus sign. -/
def integer? (text : String) : Option Int :=
  match text.toList with
  | '-' :: digits => (natural? digits).map fun n => -(n : Int)
  | digits => (natural? digits).map fun n => (n : Int)
where
  /-- The value of decimal digits. -/
  natural? (digits : List Char) : Option Nat :=
    if !digits.isEmpty && digits.all Char.isDigit then
      some (digits.foldl (fun value c => 10 * value + (c.toNat - '0'.toNat)) 0)
    else none

/-- Whether a number is written with zeros before it. -/
def isPadded (text : String) : Bool :=
  match text.toList with
  | '-' :: '0' :: c :: _ => c.isDigit
  | '0' :: c :: _ => c.isDigit
  | _ => false

/-- The numbers from one to another in steps, at most as many as given. Sums are rounded, so that
steps may lead nowhere. -/
def stepsFrom (last step : Binary64) (down : Bool) : Nat → Binary64 → List Binary64
  | 0, _ => []
  | count + 1, value =>
    if if down then last.atMost value else value.atMost last then
      value :: stepsFrom last step down count (value.add step)
    else []

/-- The numbers from one to another in steps. -/
def steps (first last step : Binary64) : List Binary64 :=
  if first.atMost last then stepsFrom last step false maxPatterns first
  else stepsFrom last step.neg true maxPatterns first

/-- The text of a number filled with zeros up to a size. -/
def padded (size : Nat) (text : String) : String :=
  let fill := String.ofList (List.replicate (size - text.length) '0')
  match text.toList with
  | '-' :: digits => "-" ++ fill ++ String.ofList digits
  | _ => fill ++ text

/-- The step of a sequence, at least one. -/
def stepOf? : List String → Option Binary64
  | [] => some (.ofInt 1)
  | [step] => (integer? step).map fun n => .ofInt (max n.natAbs 1 : Nat)
  | _ => none

/-- The members of a sequence of numbers or letters, if the body is one. -/
def sequence? (body : String) : Option (List String) := do
  match body.splitOn ".." with
  | first :: last :: more =>
    let step ← stepOf? more
    match first.toList, last.toList with
    | [a], [b] =>
      if a.isAlpha && b.isAlpha then
        return (steps (.ofInt a.toNat) (.ofInt b.toNat) step).map fun value =>
          match value.toInt? with
          | some code => if code = '\\'.toNat then "" else String.singleton (Char.ofNat code.toNat)
          | none => ""
    | _, _ => pure ()
    let low ← integer? first
    let high ← integer? last
    let size := if (first :: last :: more).any isPadded then max first.length last.length else 0
    return (steps (.ofInt low) (.ofInt high) step).map fun value => padded size value.text
  | _ => none

/-- The members of a sequence, if the marks are one and none of them has lost its meaning. -/
def sequenceOf? (body : List Mark) : Option (List String) :=
  if body.any (·.guarded) then none else sequence? (Mark.text body)

/-- Whether a character ends a line. -/
def endsLine (mark : Mark) : Bool :=
  mark.char == '\n' || mark.char == '\r' || mark.char == '\u2028' || mark.char == '\u2029'

/-- Whether a comma that no comma follows stands before a closing brace on its line. -/
def hasLateComma : List Mark → Bool
  | [] => false
  | mark :: rest =>
    (mark.is ',' && !(rest.head?.any (·.is ','))
        && (rest.takeWhile fun mark => !endsLine mark).any (·.is '}'))
      || hasLateComma rest

/-- Every combination of a first and a second part after a common start, up to the limit. -/
def combine (before : List Mark) (middles ends : List (List Mark)) : List (List Mark) :=
  (middles.flatMap fun middle => ends.map fun last => before ++ middle ++ last).take maxPatterns

/-- The patterns that a pattern with braces stands for. -/
def expand : Nat → List Mark → List (List Mark)
  | 0, marks => [marks]
  | fuel + 1, marks =>
    match braced? [] marks with
    | none => [marks]
    | some { before, body, after } =>
      let ends := expand fuel after
      let whole := { char := '{' } :: body ++ [{ char := '}' }]
      if before.getLast?.any (·.is '$') then combine before [whole] ends
      else
        match sequenceOf? body with
        | some members => combine before (members.map Mark.plain) ends
        | none =>
          if !body.any (·.is ',') then
            if hasLateComma after then
              expand fuel (before ++ { char := '{' } :: body ++ { char := '}', guarded := true } :: after)
            else [marks]
          else
            match alternatives 0 [] body with
            | [only] =>
              let inner := (expand fuel only).map fun marks =>
                { char := '{' } :: marks ++ [{ char := '}' }]
              combine before (if inner.length = 1 then inner else inner.flatMap (expand fuel)) ends
            | several => combine before (several.flatMap (expand fuel)) ends

/-- Whether braces without others in them close anywhere in a pattern, on one line. -/
def hasBraces : List Char → Bool
  | [] => false
  | c :: rest =>
    (c == '{' && ((rest.dropWhile fun c =>
        c != '{' && c != '}' && c != '\n' && c != '\r' && c != '\u2028' && c != '\u2029').head? == some '}'))
      || hasBraces rest

/-- A pattern's leading empty braces without their meaning. -/
def guardLeading : List Mark → List Mark
  | first :: second :: rest =>
    if first.is '{' && second.is '}' then
      { char := '{', guarded := true } :: { char := '}', guarded := true } :: rest
    else first :: second :: rest
  | marks => marks

/-- The patterns without braces that a pattern stands for, each once. -/
def expandBraces (pattern : String) : List String :=
  let chars := pattern.toList
  if hasBraces chars then
    let marks := guardLeading (Mark.ofChars chars)
    (((expand (2 * marks.length + 2) marks).map Mark.text).filter (· ≠ "")).eraseDups
  else [pattern]

end Codemod.Glob
