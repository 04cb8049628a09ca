import Codemod.Number.Binary64

/-!
# Plain data

The values of a data document: null, booleans, numbers, texts, lists, records
with their keys in order, and dates. `text` is the text a value turns into when
it is thrown: a list is its members with commas between them, null members
being empty, and a record has one fixed text.
-/
namespace Codemod

/-- A value of a data document. -/
inductive Value where
  | null
  | bool (flag : Bool)
  | number (value : Binary64)
  | string (text : String)
  | list (items : List Value)
  | record (entries : List (String × Value))
  /-- A point in time, known by its text. -/
  | date (text : String)
  deriving Inhabited

namespace Value

mutual

/-- The text a value turns into. -/
def text : Value → String
  | .null => "null"
  | .bool flag => if flag then "true" else "false"
  | .number value => value.text
  | .string text => text
  | .list items => ",".intercalate (itemTexts items)
  | .record _ => "[object Object]"
  | .date text => text

/-- The texts of the members of a list; null is empty there. -/
def itemTexts : List Value → List String
  | [] => []
  | item :: rest =>
    (match item with
      | .null => ""
      | other => text other) :: itemTexts rest

end

end Value

end Codemod
