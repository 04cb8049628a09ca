import Codemod.Text.Category

/-!
# Regular expressions

An expression matches a run of codes of a text. Whether the codes are sixteen-bit
units or whole characters is the caller's choice. Nothing here remembers what a
part of an expression has matched, so an expression is known by the places where
its matches end: `ends` gives them for a match that begins at a given place, and
an expression finds something in a text when there is such a place for some
beginning.
-/
namespace Codemod

/-- A member of a set of codes. -/
inductive Member where
  | range (low high : Nat)
  | category (category : Text.Category)
  deriving DecidableEq, Repr

/-- Whether a member contains a code. -/
def Member.contains (code : Nat) : Member → Bool
  | .range low high => low ≤ code && code ≤ high
  | .category group => group.contains code

/-- A regular expression. -/
inductive Regex where
  /-- The empty run. -/
  | empty
  | literal (value : Nat)
  /-- Any code that ends no line. -/
  | any
  /-- A code in a set, or one that is not. -/
  | oneOf (negated : Bool) (members : List Member)
  | atStart
  | atEnd
  | both (first second : Regex)
  | either (first second : Regex)
  | optional (body : Regex)
  | star (body : Regex)
  | plus (body : Regex)
  /-- Holds, without matching anything, where the body does not match. -/
  | unless (body : Regex)
  deriving Repr, Inhabited

namespace Regex

/-- Whether a code ends a line. -/
def endsLine (code : Nat) : Bool :=
  code == 10 || code == 13 || code == 0x2028 || code == 0x2029

/-- The members of the first list, then those of the second that are new, each once. -/
def union (found : List Nat) : List Nat → List Nat
  | [] => found
  | place :: rest =>
    if found.contains place then union found rest else union (found ++ [place]) rest

/-- The places that steps lead to from the frontier; `found` holds those known so far. -/
def closure (step : Nat → List Nat) : Nat → List Nat → List Nat → List Nat
  | 0, _, found => found
  | fuel + 1, frontier, found =>
    let next := (union [] (frontier.flatMap step)).filter fun place => !found.contains place
    if next.isEmpty then found else closure step fuel next (found ++ next)

/-- The place after one that holds a code with a property. -/
def step (text : Array Nat) (holds : Nat → Bool) (place : Nat) : List Nat :=
  match text[place]? with
  | some code => if holds code then [place + 1] else []
  | none => []

/-- The places where a match that begins at the given place can end. -/
def ends (text : Array Nat) : Regex → Nat → List Nat
  | .empty, place => [place]
  | .literal value, place => step text (· == value) place
  | .any, place => step text (fun code => !endsLine code) place
  | .oneOf negated members, place =>
    step text (fun code => members.any (·.contains code) != negated) place
  | .atStart, place => if place = 0 then [place] else []
  | .atEnd, place => if place = text.size then [place] else []
  | .both first second, place => union [] ((first.ends text place).flatMap (second.ends text))
  | .either first second, place => union (first.ends text place) (second.ends text place)
  | .optional body, place => union [place] (body.ends text place)
  | .star body, place => closure (body.ends text) (text.size + 1) [place] [place]
  | .plus body, place =>
    let once := body.ends text place
    closure (body.ends text) (text.size + 1) once once
  | .unless body, place => if (body.ends text place).isEmpty then [place] else []

/-- Whether the expression matches a run of a text. -/
def findsIn (expression : Regex) (text : Array Nat) : Bool :=
  (List.range (text.size + 1)).any fun place => !(expression.ends text place).isEmpty

end Regex

end Codemod
