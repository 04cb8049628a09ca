import Codemod.Regex.Reader
import Codemod.Text.Blank

/-!
# Brackets in the pattern of a name

Brackets stand for one unit out of a set: single units, ranges, and classes such
as `[:alpha:]`. They become a set of a regular expression. A range that runs
backwards holds nothing; brackets that hold nothing at all, and a range that ends
in a class, can match nothing. Brackets around a single unit only take its
meaning away.
-/
namespace Codemod.Glob

/-- The units of a text. -/
abbrev units (text : String) : List Nat :=
  Text.units text

/-- A class of characters. -/
structure NamedClass where
  name : String
  /-- Its members in the notation of regular expressions. -/
  members : String
  /-- The members are given by categories of characters. -/
  unicode : Bool
  /-- The class is what the members leave out. -/
  negated : Bool := false

/-- The classes that have a name. -/
def namedClasses : List NamedClass :=
  [{ name := "[:alnum:]", members := "\\p\x7bL\x7d\\p\x7bNl\x7d\\p\x7bNd\x7d", unicode := true },
   { name := "[:alpha:]", members := "\\p\x7bL\x7d\\p\x7bNl\x7d", unicode := true },
   { name := "[:ascii:]", members := "\\x00-\\x7f", unicode := false },
   { name := "[:blank:]", members := "\\p\x7bZs\x7d\\t", unicode := true },
   { name := "[:cntrl:]", members := "\\p\x7bCc\x7d", unicode := true },
   { name := "[:digit:]", members := "\\p\x7bNd\x7d", unicode := true },
   { name := "[:graph:]", members := "\\p\x7bZ\x7d\\p\x7bC\x7d", unicode := true, negated := true },
   { name := "[:lower:]", members := "\\p\x7bLl\x7d", unicode := true },
   { name := "[:print:]", members := "\\p\x7bC\x7d", unicode := true },
   { name := "[:punct:]", members := "\\p\x7bP\x7d", unicode := true },
   { name := "[:space:]", members := "\\p\x7bZ\x7d\\t\\r\\n\\v\\f", unicode := true },
   { name := "[:upper:]", members := "\\p\x7bLu\x7d", unicode := true },
   { name := "[:word:]", members := "\\p\x7bL\x7d\\p\x7bNl\x7d\\p\x7bNd\x7d\\p\x7bPc\x7d", unicode := true },
   { name := "[:xdigit:]", members := "A-Fa-f0-9", unicode := false }]

/-- The class that the units begin with the name of, and what follows the name. -/
def readClass? (text : List Nat) : Option (NamedClass × List Nat) :=
  namedClasses.findSome? fun named =>
    let spelled := units named.name
    if spelled.isPrefixOf text then some (named, text.drop spelled.length) else none

/-- Whether a unit is one of some characters. -/
def isOneOf (characters : String) (unit : Nat) : Bool :=
  characters.toList.any (·.toNat == unit)

/-- A unit inside the set of an expression. -/
def inSet (unit : Nat) : List Nat :=
  if isOneOf "[]\\-" unit then ['\\'.toNat, unit] else [unit]

/-- A unit in an expression, without any meaning it may have there. -/
def literally (unit : Nat) : List Nat :=
  if isOneOf "-[]\x7b\x7d()*+?.,\\^$|#" unit || Text.isBlank (Char.ofNat unit) then ['\\'.toNat, unit]
  else [unit]

/-- A piece of a regular expression with what it needs. -/
structure Source where
  units : List Nat := []
  /-- The piece matches more than one text, so that comparing texts is not enough. -/
  magic : Bool := false
  /-- The expression has to be read character by character. -/
  unicode : Bool := false
  deriving DecidableEq, Repr, Inhabited

namespace Source

/-- One piece after another. -/
def append (first second : Source) : Source :=
  { units := first.units ++ second.units, magic := first.magic || second.magic
    unicode := first.unicode || second.unicode }

instance : Append Source := ⟨append⟩

/-- A text that matches only itself. -/
def ofUnits (units : List Nat) : Source :=
  { units }

/-- What can match nothing. -/
def nothing : Source :=
  { units := Glob.units "$.", magic := true }

end Source

/-- What brackets hold, as far as it has been read. -/
structure SetReader where
  /-- The members, last first. -/
  members : List (List Nat) := []
  /-- The members of classes that are what these leave out, last first. -/
  excluded : List (List Nat) := []
  /-- The start of a range whose end is still to come. -/
  low : Option Nat := none
  started : Bool := false
  escaping : Bool := false
  unicode : Bool := false

/-- What is read between brackets. -/
inductive SetReading where
  /-- The brackets do not close. -/
  | unclosed
  /-- A range ends in a class. -/
  | spoilt
  | closed (reader : SetReader) (rest : List Nat)

/-- Reads what stands between brackets. -/
def readSet : Nat → SetReader → List Nat → SetReading
  | 0, _, _ => .unclosed
  | _, _, [] => .unclosed
  | fuel + 1, reader, unit :: rest =>
    if unit = ']'.toNat && reader.started && !reader.escaping then .closed reader rest
    else if unit = '\\'.toNat && !reader.escaping then
      readSet fuel { reader with started := true, escaping := true } rest
    else
      match if unit = '['.toNat && !reader.escaping then readClass? (unit :: rest) else none with
      | some (named, after) =>
        if reader.low.isSome then .spoilt
        else
          let reader := { reader with started := true, unicode := reader.unicode || named.unicode }
          let members := units named.members
          if named.negated then readSet fuel { reader with excluded := members :: reader.excluded } after
          else readSet fuel { reader with members := members :: reader.members } after
      | none =>
        let reader := { reader with started := true, escaping := false }
        let add (reader : SetReader) (member : List Nat) : SetReader :=
          { reader with members := member :: reader.members }
        match reader.low with
        | some low =>
          let closed := { reader with low := none }
          readSet fuel
            (if unit > low then add closed (inSet low ++ '-'.toNat :: inSet unit)
              else if unit = low then add closed (inSet unit) else closed) rest
        | none =>
          match rest with
          | dash :: after =>
            if dash = '-'.toNat then
              if after.head? = some ']'.toNat then
                readSet fuel (add reader (inSet unit ++ inSet dash)) after
              else readSet fuel { reader with low := some unit } after
            else readSet fuel (add reader (inSet unit)) rest
          | [] => .unclosed

/-- The unit that a member alone stands for; one that ends a line stays a member. -/
def singleUnit? : List Nat → Option Nat
  | [unit] => if Regex.endsLine unit then none else some unit
  | [first, unit] => if first = '\\'.toNat && !Regex.endsLine unit then some unit else none
  | _ => none

/-- The piece that brackets stand for, after the opening one, and what follows them; none when they
do not close. -/
def readBrackets (text : List Nat) : Option (Source × List Nat) :=
  let negated := text.head?.any (isOneOf "!^")
  match readSet (text.length + 1) {} (if negated then text.drop 1 else text) with
  | .unclosed => none
  | .spoilt => some (.nothing, [])
  | .closed reader rest =>
    let written (flip : Bool) (members : List (List Nat)) : List Nat :=
      units (if flip then "[^" else "[") ++ members.reverse.flatten ++ [']'.toNat]
    match reader.members, reader.excluded with
    | [], [] => some (.nothing, [])
    | members, [] =>
      match if negated then none else (match members with
        | [member] => singleUnit? member
        | _ => none) with
      | some unit => some (.ofUnits (literally unit), rest)
      | none => some ({ units := written negated members, magic := true, unicode := reader.unicode }, rest)
    | [], excluded =>
      some ({ units := written (!negated) excluded, magic := true, unicode := reader.unicode }, rest)
    | members, excluded =>
      some ({ units := '('.toNat :: written negated members ++ '|'.toNat :: written (!negated) excluded
                ++ [')'.toNat]
              magic := true, unicode := reader.unicode }, rest)

end Codemod.Glob
