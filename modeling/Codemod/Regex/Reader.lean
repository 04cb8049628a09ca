import Codemod.Regex.Basic
import Codemod.Text.Units

/-!
# The notation of regular expressions

Alternatives are divided by bars and may stand in parentheses; `*`, `+` and `?`
repeat what they follow, and a question mark after them only says which match is
tried first. Brackets hold a set, `^` and `$` stand for the ends of the text,
`(?!...)` for a place where something does not match, and a dot for any code but
the end of a line. A backslash takes a sign's meaning away.

An expression is read unit by unit, or, when it is a Unicode expression,
character by character. Then only signs that have a meaning may stand after a
backslash, and `\p` names a category inside a set.
-/
namespace Codemod.Regex

/-- Why an expression cannot be read. -/
inductive Fault where
  | nothingToRepeat
  | invalidEscape
  | invalidGroup
  | unterminatedGroup
  | unmatchedParenthesis
  | unterminatedSet
  | invalidSet
  | outOfOrder
  deriving DecidableEq, Repr

/-- The wording of a fault. -/
def Fault.message : Fault → String
  | .nothingToRepeat => "Nothing to repeat"
  | .invalidEscape => "Invalid escape"
  | .invalidGroup => "Invalid group"
  | .unterminatedGroup => "Unterminated group"
  | .unmatchedParenthesis => "Unmatched ')'"
  | .unterminatedSet => "Unterminated character class"
  | .invalidSet => "Invalid character class"
  | .outOfOrder => "Range out of order in character class"

/-- Whether a code is the one of a character. -/
def isSign (code : Nat) (c : Char) : Bool :=
  code == c.toNat

/-- Whether a sign means something outside of sets. -/
def hasMeaning (code : Nat) : Bool :=
  "^$\\.*+?()[]\x7b\x7d|/".toList.any (isSign code)

/-- The value of a hexadecimal digit. -/
def hexDigit? (code : Nat) : Option Nat :=
  if 48 ≤ code && code ≤ 57 then some (code - 48)
  else if 97 ≤ code && code ≤ 102 then some (code - 87)
  else if 65 ≤ code && code ≤ 70 then some (code - 55)
  else none

/-- The category named in braces after `\p`, and what follows. -/
def readCategory? (codes : List Nat) : Option (Text.Category × List Nat) :=
  match codes with
  | brace :: rest =>
    let name := rest.takeWhile fun code => !isSign code '\x7d'
    if isSign brace '\x7b' then
      (Text.Category.ofSign? (Text.ofUnits name)).map fun category =>
        (category, rest.drop (name.length + 1))
    else none
  | [] => none

/-- The code of a control by its letter after a backslash. -/
def control? (code : Nat) : Option Nat :=
  if isSign code 't' then some 9
  else if isSign code 'n' then some 10
  else if isSign code 'v' then some 11
  else if isSign code 'f' then some 12
  else if isSign code 'r' then some 13
  else none

/-- A member of a set at the start of the codes, not yet a range, and what follows it. -/
def readMember (unicode : Bool) : List Nat → Except Fault (Member × List Nat)
  | [] => .error .unterminatedSet
  | code :: rest =>
    if !isSign code '\\' then .ok (.range code code, rest)
    else
      match rest with
      | [] => .error .invalidEscape
      | escaped :: after =>
        match control? escaped with
        | some value => .ok (.range value value, after)
        | none =>
          if unicode && isSign escaped 'p' then
            match readCategory? after with
            | some (category, after) => .ok (.category category, after)
            | none => .error .invalidEscape
          else
            match if isSign escaped 'x' then after else [] with
            | high :: low :: more =>
              match hexDigit? high, hexDigit? low with
              | some h, some l => .ok (.range (16 * h + l) (16 * h + l), more)
              | _, _ => .ok (.range escaped escaped, after)
            | _ =>
              if unicode && !hasMeaning escaped && !isSign escaped '-' then .error .invalidEscape
              else .ok (.range escaped escaped, after)

/-- The members of a set up to its closing bracket, and what follows it. -/
def readMembers (unicode : Bool) : Nat → List Nat → Except Fault (List Member × List Nat)
  | 0, _ => .error .unterminatedSet
  | fuel + 1, codes => do
    match codes with
    | [] => .error .unterminatedSet
    | code :: rest =>
      if isSign code ']' then return ([], rest)
      let (first, after) ← readMember unicode codes
      match after with
      | dash :: next :: _ =>
        if isSign dash '-' && !isSign next ']' then
          let (last, more) ← readMember unicode (after.drop 1)
          match first, last with
          | .range low _, .range high _ =>
            if low > high then .error .outOfOrder
            else
              let (members, rest) ← readMembers unicode fuel more
              return (.range low high :: members, rest)
          | _, _ => .error .invalidSet
        else
          let (members, rest) ← readMembers unicode fuel after
          return (first :: members, rest)
      | _ =>
        let (members, rest) ← readMembers unicode fuel after
        return (first :: members, rest)

/-- An expression with the repetition that the codes begin with, and what follows. -/
def readRepetition (body : Regex) (codes : List Nat) : Regex × List Nat :=
  let skipLazy (rest : List Nat) : List Nat :=
    if rest.head?.any (isSign · '?') then rest.drop 1 else rest
  match codes with
  | code :: rest =>
    if isSign code '*' then (.star body, skipLazy rest)
    else if isSign code '+' then (.plus body, skipLazy rest)
    else if isSign code '?' then (.optional body, skipLazy rest)
    else (body, codes)
  | [] => (body, codes)

mutual

/-- Alternatives up to a closing parenthesis or the end, and what follows them. -/
def readAlternatives (unicode : Bool) : Nat → List Nat → Except Fault (Regex × List Nat)
  | 0, _ => .error .unterminatedGroup
  | fuel + 1, codes => do
    let (first, rest) ← readSequence unicode fuel codes
    match rest with
    | code :: after =>
      if isSign code '|' then
        let (others, rest) ← readAlternatives unicode fuel after
        return (.either first others, rest)
      else return (first, rest)
    | [] => return (first, [])

/-- Parts one after the other up to a bar, a closing parenthesis or the end, and what follows. -/
def readSequence (unicode : Bool) : Nat → List Nat → Except Fault (Regex × List Nat)
  | 0, _ => .error .unterminatedGroup
  | fuel + 1, codes => do
    match codes with
    | [] => return (.empty, [])
    | code :: rest =>
      if isSign code '|' || isSign code ')' then return (.empty, codes)
      else
        let (part, after) ← readPart unicode fuel code rest
        let (others, rest) ← readSequence unicode fuel after
        return (.both part others, rest)

/-- One part that begins with the given code, with its repetition, and what follows it. -/
def readPart (unicode : Bool) : Nat → Nat → List Nat → Except Fault (Regex × List Nat)
  | 0, _, _ => .error .unterminatedGroup
  | fuel + 1, code, rest => do
    if isSign code '*' || isSign code '+' || isSign code '?' then .error .nothingToRepeat
    else if isSign code '^' then return (.atStart, rest)
    else if isSign code '$' then return (.atEnd, rest)
    else if isSign code '.' then return readRepetition .any rest
    else if isSign code '\\' then
      match rest with
      | [] => .error .invalidEscape
      | escaped :: after =>
        if unicode && !hasMeaning escaped then .error .invalidEscape
        else return readRepetition (.literal escaped) after
    else if isSign code '[' then
      let negated := rest.head?.any (isSign · '^')
      let (members, after) ← readMembers unicode fuel (if negated then rest.drop 1 else rest)
      return readRepetition (.oneOf negated members) after
    else if isSign code '(' then
      match rest with
      | query :: sign :: after =>
        if isSign query '?' then
          let (body, after) ← readAlternatives unicode fuel after
          match after with
          | [] => .error .unterminatedGroup
          | _ :: after =>
            if isSign sign ':' then return readRepetition body after
            else if isSign sign '!' then return readRepetition (.unless body) after
            else .error .invalidGroup
        else readGroup unicode fuel rest
      | _ => readGroup unicode fuel rest
    else return readRepetition (.literal code) rest

/-- A group after its opening parenthesis, with its repetition, and what follows it. -/
def readGroup (unicode : Bool) : Nat → List Nat → Except Fault (Regex × List Nat)
  | 0, _ => .error .unterminatedGroup
  | fuel + 1, codes => do
    let (body, after) ← readAlternatives unicode fuel codes
    match after with
    | [] => .error .unterminatedGroup
    | _ :: after => return readRepetition body after

end

/-- The codes of units: the units themselves, or the characters they make. -/
def codesOf (unicode : Bool) (units : List Nat) : List Nat :=
  if unicode then Text.joinPairs units else units

/-- The expression that units spell. -/
def parse (unicode : Bool) (units : List Nat) : Except Fault Regex := do
  let codes := codesOf unicode units
  let (expression, rest) ← readAlternatives unicode (4 * codes.length + 4) codes
  if rest.isEmpty then return expression else .error .unmatchedParenthesis

end Codemod.Regex
