import Codemod.Glob.Fault
import Codemod.Glob.Group
import Codemod.Glob.Set

/-!
# Patterns for one name

Between two slashes of a pattern, `*` stands for any run of units, `?` for one
unit, brackets for one unit out of a set, and groups for some of their
alternatives. A name that starts with a dot is matched by a wildcard at the start
only when dots are allowed, and `.` and `..` never are. A pattern without
wildcards stands for one name, and `**` for any number of names.

A pattern becomes a regular expression over the units of a name. The plainest
patterns are told apart first and compare names by their ends and sizes.
-/
namespace Codemod.Glob

/-- Any unit of a name. -/
def anyUnit : List Nat :=
  units "[^/]"

/-- Any run of units. -/
def anyRun : List Nat :=
  anyUnit ++ units "*?"

/-- Any run of at least one unit. -/
def someRun : List Nat :=
  anyUnit ++ units "+?"

/-- Holds unless the name starts with a dot. -/
def noDot : List Nat :=
  units "(?!\\.)"

/-- Holds unless the name is one dot or two. -/
def noTraversal : List Nat :=
  units "(?!(?:^|/)\\.\\.?(?:$|/))"

/-- The end of a name. -/
def nameEnd : List Nat :=
  units "(?:$|\\/)"

/-- The expression of a text. A run of stars is one, and it is not empty when it is all of a whole
name. -/
def writeText (whole : Bool) : Nat → Bool → List Nat → Source
  | 0, _, _ => {}
  | _, _, [] => {}
  | fuel + 1, inStar, unit :: rest =>
    let after := fun _ : Unit => writeText whole fuel false rest
    if unit = '\\'.toNat then
      match rest with
      | [] => .ofUnits [unit, unit]
      | escaped :: rest =>
        .ofUnits (if isOneOf "().*\x7b\x7d+?[]^$\\!" escaped then [unit, escaped] else [escaped])
          ++ writeText whole fuel false rest
    else if unit = '*'.toNat then
      if inStar then writeText whole fuel true rest
      else { units := if whole then someRun else anyRun, magic := true } ++ writeText whole fuel true rest
    else if unit = '?'.toNat then { units := anyUnit, magic := true } ++ after ()
    else
      match if unit = '['.toNat then readBrackets rest else none with
      | some (source, rest) => source ++ writeText whole fuel false rest
      | none => .ofUnits (literally unit) ++ after ()

/-- The expression of a text, in a name that it may be the whole of. -/
def textSource (whole : Bool) (text : List Nat) : Source :=
  writeText (whole && text.all (· == '*'.toNat)) (text.length + 1) false text

/-- What keeps an expression at the start of a name from matching a dot that it does not name. -/
def guardFor (dot : Bool) (source : List Nat) : List Nat :=
  let isOpen (rest : List Nat) : Bool := rest.head?.any (isOneOf "[.")
  let named := units "\\."
  if (dot && isOpen source)
      || (named.isPrefixOf source && isOpen (source.drop 2))
      || ((named ++ named).isPrefixOf source && isOpen (source.drop 4)) then noTraversal
  else if !dot && isOpen source then noDot
  else []

/-- The guard of parts that start a name, given their expression. -/
def partsGuard (dot : Bool) (parts : List Part) (source : List Nat) : List Nat :=
  match parts with
  | [.text text] => if text = units "." || text = units ".." then [] else guardFor dot source
  | .text _ :: _ => guardFor dot source
  | _ => []

/-- Whether a part is a negation. -/
def Part.isNegation : Part → Bool
  | .group head _ => head.repetition == .never
  | _ => false

/-- Where a part stands in a name. -/
structure Standing where
  /-- Dots at the start need not be named. -/
  dot : Bool
  /-- The part has been written before, with dots not allowed. -/
  again : Bool := false
  starts : Bool
  ends : Bool

/-- How a group looks in a pattern when nothing stands in its alternatives. -/
def emptyGroup (repetition : Repeat) (count : Nat) : List Nat :=
  repetition.sign.toNat :: '('.toNat :: List.replicate (count - 1) '|'.toNat ++ [')'.toNat]

/-- The expression of a group around the expressions of its alternatives. `later` is what may follow
when the group stands again, if that differs. -/
def enclose (standing : Standing) (head : Head) (body : List Nat) (later : Option (List Nat)) :
    List Nat :=
  let guard := if standing.starts && !standing.dot then noDot else []
  match head.repetition with
  | .never =>
    if head.hollow then guard ++ someRun
    else units "(?:(?!(?:" ++ body ++ units "))" ++ guard ++ anyRun ++ units ")"
  | repetition =>
    let sign := match repetition with
      | .once => ""
      | .atMostOnce => "?"
      | .anyNumber => if later.isSome then "?" else "*"
      | _ => if later.isSome then "" else "+"
    let body := match later with
      | some later => units "(?:" ++ body ++ units ")(?:" ++ later ++ units ")*?"
      | none => body
    units "(?:" ++ body ++ units (")" ++ sign)

/-- Alternatives with bars between them; in a group that is a whole name empty ones are left out. -/
def joinAlternatives (whole : Bool) (alternatives : List Source) : List Nat :=
  let kept := (alternatives.map (·.units)).filter fun source => !whole || !source.isEmpty
  ['|'.toNat].intercalate kept

mutual

/-- The expression of a part; `whole` says that the parts around it are a whole name. -/
def Part.source (standing : Standing) (whole : Bool) : Part → Source
  | .text text => textSource whole text
  | .unclosed text =>
    let source := textSource whole text
    if standing.starts then .ofUnits (guardFor standing.dot source.units) ++ source else source
  | .group head alternatives =>
    let all := standing.starts && standing.ends
    let written := alternativeSources standing head.repetition alternatives
    let body := joinAlternatives all written
    if all && body.isEmpty && head.repetition != .never then
      let spelled := emptyGroup head.repetition alternatives.length
      if standing.again then
        let source := textSource whole spelled
        .ofUnits (guardFor standing.dot source.units) ++ source
      else .ofUnits spelled
    else
      let repeated := head.repetition == .anyNumber || head.repetition == .atLeastOnce
      let again :=
        if repeated && !standing.dot then
          alternativeSources { standing with dot := true, again := true } head.repetition alternatives
        else []
      let later := joinAlternatives all again
      { units := enclose standing head body
          (if later.isEmpty || later == body then none else some later)
        magic := true
        unicode := (written ++ again).any (·.unicode) }

/-- The expressions of the alternatives of a group. -/
def alternativeSources (standing : Standing) (repetition : Repeat) : List Alternative → List Source
  | [] => []
  | .of lead parts :: rest =>
    let negation := repetition == .never
    let inner := { standing with
      starts := standing.starts && lead.first, ends := negation || standing.ends }
    let source := partSources inner true parts
    let guard := if inner.starts then partsGuard standing.dot parts source.units else []
    (.ofUnits guard ++ source ++ .ofUnits (if negation then nameEnd else []))
      :: alternativeSources standing repetition rest

/-- The expression of parts; `leading` says that only negations stand before them. -/
def partSources (standing : Standing) (leading : Bool) : List Part → Source
  | [] => {}
  | part :: rest =>
    let inner := { standing with
      starts := standing.starts && leading, ends := standing.ends && rest.isEmpty }
    part.source inner (standing.starts && standing.ends) ++
      partSources standing (leading && part.isNegation) rest

end

/-- The expression of the pattern of a name. -/
def nameSource (dot : Bool) (text : List Nat) : Source :=
  let parts := Part.ofUnits text
  let source := partSources { dot, starts := true, ends := true } true parts
  .ofUnits (partsGuard dot parts source.units) ++ source

/-- A text whose signs have no meaning, without the backslashes that take it away. -/
def withoutEscapes : List Nat → List Nat
  | unit :: next :: rest =>
    if unit = '\\'.toNat then next :: withoutEscapes rest else unit :: withoutEscapes (next :: rest)
  | text => text

/-- A pattern for one name, or for any number of names. -/
inductive Segment where
  | anyNames
  | name (text : List Nat)
  /-- Any name. -/
  | star
  /-- Any run of units and then these. -/
  | ending (tail : List Nat)
  /-- As many units, ending in these. -/
  | sized (size : Nat) (tail : List Nat)
  /-- A name with a dot in it. -/
  | dotted
  /-- A name that starts with a dot. -/
  | hidden
  | pattern (expression : Regex) (unicode : Bool)
  deriving Inhabited

/-- Whether a unit means something to groups and wildcards. -/
def isSpecial (unit : Nat) : Bool :=
  isOneOf "+@!?*[(" unit

/-- Whether units are one star or more. -/
def isStars (text : List Nat) : Bool :=
  !text.isEmpty && text.all (· == '*'.toNat)

namespace Segment

/-- The plainest patterns, which need no expression. -/
def simple? (text : List Nat) : Option Segment :=
  let isStar := (· == '*'.toNat)
  let isQuery := (· == '?'.toNat)
  let afterStars := text.dropWhile isStar
  let afterQueries := text.dropWhile isQuery
  if isStars text then some .star
  else if text.head?.any isStar && !afterStars.any isSpecial then some (.ending afterStars)
  else if text.head?.any isQuery && !afterQueries.any isSpecial then
    some (.sized text.length afterQueries)
  else if text.head?.any isStar && afterStars.head? = some '.'.toNat && isStars (afterStars.drop 1) then
    some .dotted
  else if text.head? = some '.'.toNat && isStars (text.drop 1) then some .hidden
  else none

/-- The greatest size of a pattern. -/
def maxSize : Nat :=
  65536

/-- The pattern that a part between slashes stands for. -/
def parse (dot : Bool) (part : String) : Except Fault Segment :=
  let text := units part
  if text.length > maxSize then .error .tooLong
  else if part = "**" then .ok .anyNames
  else
    match simple? text with
    | some segment => .ok segment
    | none =>
      let source := nameSource dot text
      if source.magic then
        let whole := '^'.toNat :: source.units ++ ['$'.toNat]
        match Regex.parse source.unicode whole with
        | .ok expression => .ok (.pattern expression source.unicode)
        | .error cause => .error (.expression (Text.ofUnits whole) source.unicode cause)
      else .ok (.name (withoutEscapes source.units))

/-- Whether a name matches. -/
def accepts (dot : Bool) (segment : Segment) (text : String) : Bool :=
  let name := units text
  let startsWithDot := name.head? = some '.'.toNat
  let onlyDots := text = "." || text = ".."
  match segment with
  | .anyNames => true
  | .name expected => expected == name
  | .star => !name.isEmpty && if dot then !onlyDots else !startsWithDot
  | .ending tail => tail.isSuffixOf name && (dot || !startsWithDot)
  | .sized size tail =>
    name.length == size && (if dot then !onlyDots else !startsWithDot) && tail.isSuffixOf name
  | .dotted => name.contains '.'.toNat && if dot then !onlyDots else !startsWithDot
  | .hidden => startsWithDot && !onlyDots
  | .pattern expression unicode => expression.findsIn (Regex.codesOf unicode name).toArray

end Segment

end Codemod.Glob
