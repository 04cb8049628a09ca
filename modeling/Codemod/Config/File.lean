import Codemod.Config.Basic
import Codemod.Yaml.Document

/-!
# The configuration in a file

A file gives a mapping with the keys `fixes`, `extensions`, `ignore` and
`maxPasses`, each of which may be left out, and no others. An empty file gives
nothing. Everything that is wrong with a file is told at once: for each key in
this order, then the keys that are not known.
-/
namespace Codemod.Config

/-- Something wrong with a value: where it stands in the mapping, and what it is. -/
structure Issue where
  place : List String
  message : String
  deriving DecidableEq, Repr

/-- The wording of an issue. -/
def Issue.text (issue : Issue) : String :=
  (if issue.place.isEmpty then "(root)" else ".".intercalate issue.place) ++ ": " ++ issue.message

/-- The word for the sort of a value. -/
def sortOf : Value → String
  | .null => "null"
  | .bool _ => "boolean"
  | .number .nan => "nan"
  | .number _ => "number"
  | .string _ => "string"
  | .list _ => "array"
  | .record _ => "object"
  | .date _ => "date"

/-- The issue of a value of the wrong sort. -/
def mismatch (place : List String) (expected : String) (value : Value) : Issue :=
  { place, message := "Expected " ++ expected ++ ", received " ++ sortOf value }

/-- Whether a text is a dot and then letters and digits. -/
def isEnding (text : String) : Bool :=
  match text.toList with
  | '.' :: rest => !rest.isEmpty && rest.all Char.isAlphanum
  | _ => false

/-- A value read, with what is wrong with it. -/
abbrev Checked (α : Type) := List Issue × α

/-- What texts of a list must be like. -/
inductive TextRule where
  | nonempty
  | ending

/-- What is wrong with a text under a rule. -/
def TextRule.complaint? (rule : TextRule) (text : String) : Option String :=
  match rule with
  | .nonempty => if text.isEmpty then some "String must contain at least 1 character(s)" else none
  | .ending => if isEnding text then none else some "extension must look like \".ts\""

/-- A list of texts. -/
def checkTexts (rule : TextRule) (key : String) (value : Value) : Checked (List String) :=
  match value with
  | .list items =>
    let checked := items.mapIdx fun index item =>
      let place := [key, toString index]
      match item with
      | .string text =>
        (((rule.complaint? text).map fun message => ({ place, message } : Issue)).toList, [text])
      | other => ([mismatch place "string" other], [])
    (checked.flatMap (·.1), checked.flatMap (·.2))
  | other => ([mismatch [key] "array" other], [])

/-- Whether a number is below a whole one. -/
def isBelow (value : Binary64) (bound : Nat) : Bool :=
  match value with
  | .nan => false
  | .infinite negative => negative
  | .finite negative m q =>
    if negative then m ≠ 0 || bound > 0
    else if q ≥ 0 then m * Nat.pow 2 q.toNat < bound
    else m < bound * Nat.pow 2 (-q).toNat

/-- Whether a number is above a whole one. -/
def isAbove (value : Binary64) (bound : Nat) : Bool :=
  match value with
  | .nan => false
  | .infinite negative => !negative
  | .finite negative m q =>
    if negative then false
    else if q ≥ 0 then m * Nat.pow 2 q.toNat > bound
    else m > bound * Nat.pow 2 (-q).toNat

/-- The greatest number of passes that a file may ask for. -/
def maxFilePasses : Nat :=
  100

/-- A number of passes. -/
def checkPasses (key : String) (value : Value) : Checked Nat :=
  match value with
  | .number .nan => ([mismatch [key] "number" value], 0)
  | .number number =>
    let issue (wrong : Bool) (message : String) : List Issue :=
      if wrong then [{ place := [key], message }] else []
    (issue number.toInt?.isNone "Expected integer, received float"
      ++ issue (isBelow number 1) "Number must be greater than or equal to 1"
      ++ issue (isAbove number maxFilePasses)
        ("Number must be less than or equal to " ++ toString maxFilePasses),
      (number.toInt?.getD 0).toNat)
  | other => ([mismatch [key] "number" other], 0)

/-- The keys that a file may give. -/
def fileKeys : List String :=
  ["fixes", "extensions", "ignore", "maxPasses"]

/-- The issue of keys that are not known. -/
def unknownKeys (entries : List (String × Value)) : List Issue :=
  match (Yaml.orderedKeys (entries.map (·.1))).filter (!fileKeys.contains ·) with
  | [] => []
  | keys =>
    [{ place := []
       message := "Unrecognized key(s) in object: "
        ++ ", ".intercalate (keys.map fun key => "'" ++ key ++ "'") }]

/-- The value of a key, checked when it is given. -/
def checkKey {α : Type} (entries : List (String × Value)) (key : String)
    (check : String → Value → Checked α) : Checked (Option α) :=
  match entries.lookup key with
  | some value => let (issues, result) := check key value; (issues, some result)
  | none => ([], none)

/-- The layer that a mapping gives. -/
def checkEntries (entries : List (String × Value)) : Checked Layer :=
  let (fixIssues, fixes) := checkKey entries "fixes" (checkTexts .nonempty)
  let (endingIssues, extensions) := checkKey entries "extensions" (checkTexts .ending)
  let (ignoreIssues, ignore) := checkKey entries "ignore" (checkTexts .nonempty)
  let (passIssues, maxPasses) := checkKey entries "maxPasses" checkPasses
  (fixIssues ++ endingIssues ++ ignoreIssues ++ passIssues ++ unknownKeys entries,
    { fixes, extensions, ignore, maxPasses })

/-- The layer that the value of a file gives. -/
def checkValue (value : Value) : Except (List Issue) Layer :=
  match value with
  | .null => .ok {}
  | .record entries =>
    match checkEntries entries with
    | ([], layer) => .ok layer
    | (issues, _) => .error issues
  | other => .error [mismatch [] "object" other]

/-- The layer that the text of a file gives, or what is wrong with it. -/
def parseFileText (text : String) : Except String Layer :=
  match Yaml.parse text with
  | .error fault => .error fault.message
  | .ok none => .ok {}
  | .ok (some value) =>
    (checkValue value).mapError fun issues => "; ".intercalate (issues.map Issue.text)

end Codemod.Config
