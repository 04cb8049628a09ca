import Codemod.Text.Units

/-!
# Groups in the pattern of a name

Between two slashes of a pattern, `@(a|b)`, `?(a|b)`, `*(a|b)`, `+(a|b)` and
`!(a|b)` stand for one, at most one, any number, at least one, or none of some
alternatives. A pattern is read into texts and groups. A group that is the whole
of an alternative is then merged into the group around it where the two signs
allow it. Last, what follows a negation is copied behind each of its
alternatives, because a negation is about all of the name that is left.
-/
namespace Codemod.Glob

/-- How often the alternatives of a group may stand. -/
inductive Repeat where
  | once
  | atMostOnce
  | anyNumber
  | atLeastOnce
  | never
  deriving DecidableEq, Repr

namespace Repeat

/-- The sign of a group. -/
def sign : Repeat → Char
  | .once => '@'
  | .atMostOnce => '?'
  | .anyNumber => '*'
  | .atLeastOnce => '+'
  | .never => '!'

/-- The repetition that a unit is the sign of. -/
def ofUnit? (unit : Nat) : Option Repeat :=
  [once, atMostOnce, anyNumber, atLeastOnce, never].find? (·.sign.toNat == unit)

/-- Whether the alternatives of an inner group may stand in the outer one as they are. -/
def adopts : Repeat → Repeat → Bool
  | .never, inner | .once, inner => inner == .once
  | .atMostOnce, inner => inner == .atMostOnce || inner == .once
  | .atLeastOnce, inner => inner == .atLeastOnce || inner == .once
  | .anyNumber, inner => inner != .never

/-- Whether they may stand there together with an empty alternative. -/
def adoptsWithBlank : Repeat → Repeat → Bool
  | .never, inner | .once, inner => inner == .atMostOnce
  | .atLeastOnce, inner => inner == .atMostOnce || inner == .anyNumber
  | .atMostOnce, _ | .anyNumber, _ => false

/-- The repetition of both together, when the inner group is all that the outer one holds. -/
def replacedBy? : Repeat → Repeat → Option Repeat
  | .never, .never => some .once
  | .atMostOnce, .anyNumber | .atMostOnce, .atLeastOnce => some .anyNumber
  | .once, inner => some inner
  | .atLeastOnce, .atMostOnce | .atLeastOnce, .anyNumber => some .anyNumber
  | _, _ => none

end Repeat

/-- What is known of a group besides its alternatives. -/
structure Head where
  repetition : Repeat
  /-- The group was written as a negation, so what follows it is copied behind its alternatives as
  long as it is one. -/
  negates : Bool
  /-- Nothing is written before the closing parenthesis. -/
  hollow : Bool := false
  /-- How many negations that were merged into the group add what follows it to its alternatives. -/
  echoes : Nat := 0
  deriving DecidableEq, Repr

/-- What is known of an alternative besides its parts. -/
structure Lead where
  /-- The alternative starts where its group starts. -/
  first : Bool := true
  /-- How many negations add what follows to this alternative alone. -/
  echoes : Nat := 0
  deriving DecidableEq, Repr

mutual

/-- A part of the pattern of a name. -/
inductive Part where
  | text (units : List Nat)
  /-- The sign of a group that never closes, with all that follows it. -/
  | unclosed (units : List Nat)
  | group (head : Head) (alternatives : List Alternative)

/-- An alternative of a group. -/
inductive Alternative where
  | of (lead : Lead) (parts : List Part)

end

instance : Inhabited Part := ⟨.text []⟩

/-- Where reading stands between brackets. -/
structure Bracket where
  /-- The number of units read since the opening bracket. -/
  read : Nat := 0
  negated : Bool := false

namespace Bracket

/-- Takes a unit without meaning. -/
def skip (bracket : Bracket) : Bracket :=
  { bracket with read := bracket.read + 1 }

/-- Takes a unit with its meaning between brackets; none when the brackets close. -/
def step (bracket : Bracket) (unit : Nat) : Option Bracket :=
  if bracket.read = 0 then
    some { read := 1, negated := unit = '^'.toNat || unit = '!'.toNat }
  else if unit = ']'.toNat && !(bracket.read = 1 && bracket.negated) then none
  else some bracket.skip

end Bracket

/-- The parts with a text after them; `text` holds its units, last first. -/
def withText (text : List Nat) (parts : List Part) : List Part :=
  if text.isEmpty then parts else .text text.reverse :: parts

/-- How deep groups may stand in each other that cannot be merged. -/
def maxDepth : Nat :=
  2

/-- The alternatives of an opened group, whether nothing stands before its end, and what follows it;
none when it does not close. `text` and `parts` hold the alternative so far, `done` those before it,
all last first. -/
def readGroup : Nat → Nat → Repeat → Option Bracket → Bool → List Nat → List Part →
    List Alternative → List Nat → Option (List Alternative × Bool × List Nat)
  | 0, _, _, _, _, _, _, _, _ => none
  | _, _, _, _, _, _, _, _, [] => none
  | fuel + 1, depth, outer, bracket, escaping, text, parts, done, unit :: rest =>
    if escaping || unit = '\\'.toNat then
      readGroup fuel depth outer (bracket.map Bracket.skip) (!escaping) (unit :: text) parts done
        rest
    else
      match bracket with
      | some inside =>
        readGroup fuel depth outer (inside.step unit) false (unit :: text) parts done rest
      | none =>
        let alternative := Alternative.of {} (withText text parts).reverse
        let plain := fun _ : Unit =>
          readGroup fuel depth outer none false (unit :: text) parts done rest
        if unit = '['.toNat then
          readGroup fuel depth outer (some {}) false (unit :: text) parts done rest
        else if unit = '|'.toNat then
          readGroup fuel depth outer none false [] [] (alternative :: done) rest
        else if unit = ')'.toNat then some ((alternative :: done).reverse, text.isEmpty, rest)
        else
          match Repeat.ofUnit? unit, rest with
          | some repetition, next :: inner =>
            let merges := outer.adopts repetition || outer.adoptsWithBlank repetition
            if next = '('.toNat && (depth ≤ maxDepth || merges) then
              match readGroup fuel (if merges then depth else depth + 1) repetition none false [] [] []
                  inner with
              | some (alternatives, hollow, after) =>
                let head : Head := { repetition, negates := repetition == .never, hollow }
                readGroup fuel depth outer none false [] (.group head alternatives :: withText text parts)
                  done after
              | none => none
            else plain ()
          | _, _ => plain ()

/-- The parts of the pattern of a name; `text` and `parts` hold those so far, last first. -/
def readParts : Nat → Option Bracket → Bool → List Nat → List Part → List Nat → List Part
  | 0, _, _, text, parts, _ => (withText text parts).reverse
  | _, _, _, text, parts, [] => (withText text parts).reverse
  | fuel + 1, bracket, escaping, text, parts, unit :: rest =>
    if escaping || unit = '\\'.toNat then
      readParts fuel (bracket.map Bracket.skip) (!escaping) (unit :: text) parts rest
    else
      match bracket with
      | some inside => readParts fuel (inside.step unit) false (unit :: text) parts rest
      | none =>
        if unit = '['.toNat then readParts fuel (some {}) false (unit :: text) parts rest
        else
          match Repeat.ofUnit? unit, rest with
          | some repetition, next :: inner =>
            if next = '('.toNat then
              match readGroup (inner.length + 1) 1 repetition none false [] [] [] inner with
              | some (alternatives, hollow, after) =>
                let head : Head := { repetition, negates := repetition == .never, hollow }
                readParts fuel none false [] (.group head alternatives :: withText text parts) after
              | none => (.unclosed (unit :: rest) :: withText text parts).reverse
            else readParts fuel none false (unit :: text) parts rest
          | _, _ => readParts fuel none false (unit :: text) parts rest

namespace Alternative

/-- The group that is the whole of an alternative. -/
def only? : Alternative → Option (Head × List Alternative)
  | .of _ [.group head alternatives] => some (head, alternatives)
  | _ => none

/-- The alternative with further echoes. -/
def echoing (count : Nat) : Alternative → Alternative
  | .of lead parts => .of { lead with echoes := lead.echoes + count } parts

end Alternative

/-- A group while the groups in its alternatives are merged into it. -/
structure Merging where
  head : Head
  /-- The alternatives looked at, last first. -/
  done : List Alternative := []
  changed : Bool := false

/-- Looks at the alternatives of a group one after the other, each with its own groups merged. The
alternatives of a merged group take its place; the first of them is not looked at again. -/
def mergePass (inside : Alternative → Alternative) :
    Nat → Merging → List Alternative → Merging
  | 0, merging, rest => { merging with done := rest.reverse ++ merging.done }
  | _, merging, [] => merging
  | fuel + 1, merging, alternative :: rest =>
    let alternative := inside alternative
    let keep := { merging with done := alternative :: merging.done }
    match alternative.only? with
    | none => mergePass inside fuel keep rest
    | some (inner, alternatives) =>
      let outer := merging.head.repetition
      let take (head : Head) (taken : List Alternative) : Merging :=
        match taken with
        | [] => { merging with head, changed := true }
        | first :: more =>
          mergePass inside fuel { head, done := first :: merging.done, changed := true } (more ++ rest)
      if outer.adopts inner.repetition then
        take merging.head (alternatives.map (·.echoing inner.echoes))
      else if outer.adoptsWithBlank inner.repetition then
        let blank := Alternative.of { first := false } []
        take merging.head ((alternatives ++ [blank]).map (·.echoing inner.echoes))
      else if merging.done.isEmpty && rest.isEmpty then
        match outer.replacedBy? inner.repetition with
        | some repetition =>
          let own := if inner.negates && inner.repetition == .never then 1 else 0
          take { merging.head with repetition, hollow := false, echoes := inner.echoes + own } alternatives
        | none => mergePass inside fuel keep rest
      else mergePass inside fuel keep rest

/-- Repeats the merging of a group while it changes anything, up to a number of times. -/
def mergePasses (inside : Alternative → Alternative) (size : Nat) :
    Nat → Head → List Alternative → Part
  | 0, head, alternatives => .group head alternatives
  | passes + 1, head, alternatives =>
    let merging := mergePass inside size { head } alternatives
    if merging.changed then mergePasses inside size passes merging.head merging.done.reverse
    else .group merging.head merging.done.reverse

/-- How often a group is looked at for merging. -/
def maxPasses : Nat :=
  10

/-- A part with the groups in it merged. -/
def mergeGroups (size : Nat) : Nat → Part → Part
  | fuel + 1, .group head alternatives =>
    let inside : Alternative → Alternative
      | .of lead parts => .of lead (parts.map (mergeGroups size fuel))
    mergePasses inside size maxPasses head alternatives
  | _, part => part

mutual

/-- A copy of a part, in which the alternatives of a group start it only if they stand first. -/
def Part.copy : Part → Part
  | .text units => .text units
  | .unclosed units => .unclosed units
  | .group head alternatives =>
    .group { repetition := head.repetition, negates := false } (copyAlternatives true alternatives)

/-- Copies of alternatives; `first` says that they stand first. -/
def copyAlternatives (first : Bool) : List Alternative → List Alternative
  | [] => []
  | .of _ parts :: rest => .of { first } (copyParts parts) :: copyAlternatives false rest

/-- Copies of parts. -/
def copyParts : List Part → List Part
  | [] => []
  | part :: rest => part.copy :: copyParts rest

end

/-- Parts followed by a number of copies of others. -/
def followedBy (parts tail : List Part) : Nat → List Part
  | 0 => parts
  | count + 1 => followedBy (parts ++ copyParts tail) tail count

mutual

/-- A part in which what follows is copied behind the alternatives of negations. -/
def Part.extended (tail : List Part) : Part → Part
  | .text units => .text units
  | .unclosed units => .unclosed units
  | .group head alternatives =>
    let own := if head.negates && head.repetition == .never then 1 else 0
    .group head (extendAlternatives tail (head.echoes + own) alternatives)

/-- Alternatives with what follows copied behind them, and further into their negations. -/
def extendAlternatives (tail : List Part) (count : Nat) : List Alternative → List Alternative
  | [] => []
  | .of lead parts :: rest =>
    .of lead (followedBy (extendParts tail parts) tail (lead.echoes + count))
      :: extendAlternatives tail count rest

/-- Parts in which what follows each of them is copied behind the alternatives of negations. -/
def extendParts (tail : List Part) : List Part → List Part
  | [] => []
  | part :: rest =>
    let rest := extendParts tail rest
    part.extended (rest ++ tail) :: rest

end

/-- The parts of the pattern of a name. -/
def Part.ofUnits (units : List Nat) : List Part :=
  let size := 2 * units.length + 2
  extendParts [] ((readParts (units.length + 1) none false [] [] units).map (mergeGroups size size))

end Codemod.Glob
