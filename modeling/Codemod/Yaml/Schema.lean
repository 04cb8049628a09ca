import Codemod.Number.Numeral
import Codemod.Value
import Codemod.Yaml.Timestamp

/-!
# What texts and tags stand for

A bare text is null, a truth value, a number, a point in time or the merge sign
when it is written like one, and itself otherwise. A node may carry a tag that
says what it is; the tag must fit its kind and its contents.
-/
namespace Codemod.Yaml

open Numeral (digitsIn? unsigned decimal?)

/-- The kinds of nodes. -/
inductive Kind where
  | scalar
  | sequence
  | mapping
  deriving DecidableEq, Repr

/-- The word for a kind. -/
def Kind.name : Kind → String
  | .scalar => "scalar"
  | .sequence => "sequence"
  | .mapping => "mapping"

/-- The types of nodes. -/
inductive NodeType where
  | null | bool | int | float | timestamp | merge | str | binary | seq | omap | pairs | map | set
  deriving DecidableEq, Repr

namespace NodeType

/-- The last part of a type's tag. -/
def name : NodeType → String
  | .null => "null"
  | .bool => "bool"
  | .int => "int"
  | .float => "float"
  | .timestamp => "timestamp"
  | .merge => "merge"
  | .str => "str"
  | .binary => "binary"
  | .seq => "seq"
  | .omap => "omap"
  | .pairs => "pairs"
  | .map => "map"
  | .set => "set"

/-- Where the tags of all types start. -/
def tagPrefix : String :=
  "tag:yaml.org,2002:"

/-- The tag of a type. -/
def tag (type : NodeType) : String :=
  tagPrefix ++ type.name

/-- The kind of node that a type is for. -/
def kind : NodeType → Kind
  | .seq | .omap | .pairs => .sequence
  | .map | .set => .mapping
  | _ => .scalar

/-- All types. -/
def all : List NodeType :=
  [.null, .bool, .int, .float, .timestamp, .merge, .str, .binary, .seq, .omap, .pairs, .map, .set]

/-- The type with a tag, for nodes of a kind. A node without contents has no kind and may have any
type. -/
def ofTag? (tag : String) (kind : Option Kind) : Option NodeType :=
  all.find? fun type => type.tag == tag && (kind.isNone || kind == some type.kind)

/-- The types that a bare text may have, in the order in which they are tried. -/
def implicit : List NodeType :=
  [.null, .bool, .int, .float, .timestamp, .merge]

end NodeType

/-- The whole number that a text stands for, also with a mark for the bases 2, 8 and 16. -/
def integer? (text : String) : Option Binary64 :=
  let (negative, chars) := unsigned text.toList
  let value := match chars with
    | '0' :: 'b' :: rest => digitsIn? 2 rest
    | '0' :: 'x' :: rest => digitsIn? 16 rest
    | '0' :: 'o' :: rest => digitsIn? 8 rest
    | digits => digitsIn? 10 digits
  value.map fun n => Binary64.ofRatio negative n 1

/-- The number that a text stands for. A number that starts with its point has no sign. -/
def float? (text : String) : Option Binary64 :=
  let (negative, chars) := unsigned text.toList
  let signed := chars.length < text.length
  let bare := String.ofList chars
  if bare = ".inf" || bare = ".Inf" || bare = ".INF" then some (.infinite negative)
  else if text = ".nan" || text = ".NaN" || text = ".NAN" then some .nan
  else if signed && chars.head? = some '.' then none
  else decimal? negative chars

/-- The value of a text as a type of bare texts, if it is written like one. -/
def implicit? (type : NodeType) (text : String) : Option Value :=
  match type with
  | .null => if ["~", "null", "Null", "NULL"].contains text then some .null else none
  | .bool =>
    if ["true", "True", "TRUE"].contains text then some (.bool true)
    else if ["false", "False", "FALSE"].contains text then some (.bool false)
    else none
  | .int => (integer? text).map .number
  | .float => (float? text).map .number
  | .timestamp => (Timestamp.parse? text).map fun moment => .date moment.text
  | .merge => if text = "<<" then some (.string text) else none
  | _ => none

/-- The type and the value of a bare text; no type when it is only a text. -/
def resolve (text : String) : Option NodeType × Value :=
  match NodeType.implicit.findSome? fun type => (implicit? type text).map fun value => (type, value) with
  | some (type, value) => (some type, value)
  | none => (none, .string text)

/-- The signs of bytes written as text. -/
def isByteSign (c : Char) : Bool :=
  c.isAlphanum || c == '+' || c == '/' || c == '='

/-- Bytes written as text, as a record of their places. -/
def binary? (text : String) : Option Value :=
  let signs := text.toList.filter fun c => c ≠ '\n' && c ≠ '\r'
  if !signs.all isByteSign || signs.length * 6 % 8 ≠ 0 then none
  else
    let count := (signs.filter (· ≠ '=')).length
    let full := if count = 0 then 0 else (count - 1) / 4
    let last := if count % 4 = 0 then 3 else if count % 4 = 3 then 2 else if count % 4 = 2 then 1 else 0
    some (.record ((List.range (3 * full + last)).map fun i => (toString i, .null)))

/-- The single entry of a record. -/
def onlyEntry? : Value → Option (String × Value)
  | .record [entry] => some entry
  | _ => none

/-- Whether a list has no member twice. -/
def allDistinct : List String → Bool
  | [] => true
  | name :: rest => !rest.contains name && allDistinct rest

/-- The value of a node whose type is given, if its contents are of that type. -/
def construct (type : NodeType) (value : Value) : Option Value :=
  match type, value with
  | .str, .null => some (.string "")
  | .str, value => some value
  | .null, .null => some .null
  | .merge, .null => some .null
  | .seq, .null | .omap, .null | .pairs, .null => some (.list [])
  | .map, .null | .set, .null => some (.record [])
  | .binary, .string text => binary? text
  | .seq, value | .map, value => some value
  | .omap, .list items =>
    match items.mapM onlyEntry? with
    | some entries => if allDistinct (entries.map (·.1)) then some value else none
    | none => none
  | .pairs, .list items =>
    (items.mapM onlyEntry?).map fun entries =>
      .list (entries.map fun (key, value) => .list [.string key, value])
  | .set, .record entries =>
    if entries.all fun (_, value) => value matches .null then some value else none
  | type, .string text => implicit? type text
  | _, _ => none

end Codemod.Yaml
