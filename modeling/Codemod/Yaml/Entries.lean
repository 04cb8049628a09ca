import Codemod.Yaml.Reader
import Codemod.Yaml.Schema

/-!
# Entries of mappings

A mapping's keys are texts: a key that is no text turns into one. No key stands
twice, but a key that came in through a merge may be given again. The merge key
takes over the entries of other mappings whose keys are not there yet.
-/
namespace Codemod.Yaml

/-- Where a key started. -/
structure KeyPlace where
  line : Nat := 0
  lineStart : Nat := 0
  position : Nat := 0

/-- The entries of a mapping read so far. -/
structure Entries where
  pairs : List (String × Value) := []
  /-- The keys that came in through a merge and may be given again. -/
  merged : List String := []

/-- The number that a key is the plain text of, when it numbers a place of a list. -/
def placeNumber? (key : String) : Option Nat :=
  match key.toList with
  | ['0'] => some 0
  | first :: rest =>
    if first ≠ '0' && (first :: rest).all Char.isDigit then
      let value := (first :: rest).foldl (fun n c => 10 * n + (c.toNat - '0'.toNat)) 0
      if value < 4294967295 then some value else none
    else none
  | [] => none

/-- The keys of a record in the order in which they are gone through: numbers of places first, by
their value, then the others as they were given. -/
def orderedKeys (keys : List String) : List String :=
  let places := keys.filterMap fun key => (placeNumber? key).map fun n => (n, key)
  (places.mergeSort fun left right => left.1 ≤ right.1).map (·.2)
    ++ keys.filter fun key => (placeNumber? key).isNone

/-- The members of a value by their keys. -/
def members? : Value → Option (List (String × Value))
  | .record entries =>
    some ((orderedKeys (entries.map (·.1))).filterMap fun key =>
      (entries.lookup key).map fun value => (key, value))
  | .list items => some (items.mapIdx fun index item => (toString index, item))
  | .date _ => some []
  | _ => none

namespace Entries

/-- The entries with those of a value whose keys are not there yet. -/
def merge (entries : Entries) (source : Value) : Reader Entries :=
  match members? source with
  | none => fail "cannot merge mappings; the provided source object is unacceptable"
  | some members =>
    let new := members.filter fun (key, _) => (entries.pairs.lookup key).isNone
    return { pairs := entries.pairs ++ new, merged := entries.merged ++ new.map (·.1) }

/-- The value of a key replaced, or the key added. -/
def set (entries : Entries) (key : String) (value : Value) : Entries :=
  { pairs :=
      if (entries.pairs.lookup key).isSome then
        entries.pairs.map fun (other, old) => (other, if other = key then value else old)
      else entries.pairs ++ [(key, value)]
    merged := entries.merged.filter (· ≠ key) }

/-- The text that a key turns into. -/
def keyText (key : Value) : Reader String :=
  match key with
  | .list items =>
    if items.any fun item => item matches .list _ then
      fail "nested arrays are not supported inside keys"
    else return key.text
  | _ => return key.text

/-- The position of the reader moved back to a key. A zero counts as no position. -/
def goBack (place : KeyPlace) : Reader Unit :=
  modify fun state =>
    { state with line := if place.line = 0 then state.line else place.line
                 lineStart := if place.lineStart = 0 then state.lineStart else place.lineStart
                 position := if place.position = 0 then state.position else place.position }

/-- The entries with one more pair. -/
def store (entries : Entries) (tag : Option String) (key value : Value) (place : KeyPlace) :
    Reader Entries := do
  let name ← keyText key
  if tag = some NodeType.merge.tag then
    match value with
    | .list sources => sources.foldlM merge entries
    | source => entries.merge source
  else
    if !entries.merged.contains name && (entries.pairs.lookup name).isSome then
      goBack place
      fail "duplicated mapping key"
    return entries.set name value

end Entries

end Codemod.Yaml
