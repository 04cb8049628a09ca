import Codemod.Text.Units

/-!
# Misspelled words

A word that stands where no word may is compared with the words of the
language. The distance counts a tenth of an edit for a letter in the wrong
case, one edit for a letter too many or too few and two for a wrong letter; the
nearest word wins, the first of several, if it is near enough for the length of
the misspelled one. Letters are counted in units. Failing that, a word of the language may have been run
together with what follows it.
-/
namespace Codemod.Grammar.Spelling

/-- The words offered, in the order in which they are tried. -/
def candidates : List String := [
  "abstract", "accessor", "any", "asserts", "assert", "bigint", "boolean", "break", "case", "catch",
  "class", "continue", "const", "constructor", "debugger", "declare", "default", "defer", "delete",
  "else", "enum", "export", "extends", "false", "finally", "for", "from", "function", "get",
  "implements", "import", "infer", "instanceof", "interface", "intrinsic", "keyof", "let", "module",
  "namespace", "never", "new", "null", "number", "object", "package", "private", "protected",
  "public", "override", "out", "readonly", "require", "global", "return", "satisfies", "set",
  "static", "string", "super", "switch", "symbol", "this", "throw", "true", "try", "type", "typeof",
  "undefined", "unique", "unknown", "using", "var", "void", "while", "with", "yield", "async",
  "await"]

/-- A letter in its other case, for those whose other case is one of the small letters; any other unit
as it is. -/
def small (unit : Nat) : Nat :=
  if 'A'.toNat ≤ unit && unit ≤ 'Z'.toNat then unit + 32
  else if unit = 0x212A then 'k'.toNat
  else unit

/-- The next row of the table of distances, in tenths, from the row before it. -/
def nextRow (c : Nat) (left : Nat) : List Nat → List Nat → List Nat
  | [], _ => []
  | d :: word, row =>
    let diagonal := row.headD 0
    let above := row.tail.headD 0
    let value :=
      if c = d then diagonal
      else
        let substituted := diagonal + (if small c = small d then 1 else 20)
        min (min (above + 10) (left + 10)) substituted
    value :: nextRow c value word row.tail

/-- The distance between two words, in tenths of an edit. -/
def distance (first second : List Nat) : Nat :=
  let start := (List.range (second.length + 1)).map (10 * ·)
  let step (state : Nat × List Nat) (c : Nat) : Nat × List Nat :=
    let index := state.1 + 1
    (index, (10 * index) :: nextRow c (10 * index) second state.2)
  ((first.foldl step (0, start)).2.getLast?).getD 0

/-- The nearest word of the language, if one is near enough. -/
def nearest? (word : String) : Option String :=
  let size := Text.width word
  let slack := max 2 (size * 34 / 100)
  let start := 10 * (size * 4 / 10 + 1)
  let step (best : Nat × Option String) (candidate : String) : Nat × Option String :=
    let gap := if candidate.length ≥ size then candidate.length - size else size - candidate.length
    if gap ≤ slack && candidate != word then
      let d := distance (Text.units word) (Text.units candidate)
      if d < best.1 then (d, some candidate) else best
    else best
  (candidates.foldl step (start, none)).2

/-- A word of the language with what was run together with it. -/
def spaced? (word : String) : Option String :=
  (candidates.find? fun candidate =>
    Text.width word > candidate.length + 2 && candidate.toList.isPrefixOf word.toList).map
    fun candidate => candidate ++ " " ++ String.ofList (word.toList.drop candidate.length)

/-- What may have been meant by a word. -/
def suggestion? (word : String) : Option String :=
  nearest? word <|> spaced? word

end Codemod.Grammar.Spelling
