import Codemod.Proofs.Firing
import Codemod.Proofs.Migration

/-!
# Constructions given their fields by key

A construction matches when its name refers to an address class of the module, as the scopes of the
file have it, and it has one or two arguments, all given by position. The transformation of the fix for
constructions replaces the matching ones and nothing else, at whatever depth and within one another:
each is given one object literal, with what its arguments became as the values of the fields, less
a second argument with the zero value.

What stands around a match is rebuilt, and its parts are put in the parentheses that their places
demand then; so are the values of fields. The name of a match is put in none. Where a transformation
does not visit, constructions are left as they are, and a tree in which a part is missing is not
transformed at all.
-/
namespace Codemod.Fix

open Syntax Node Imports

/-- A construction of an address class of a module that a file binds, with one or two arguments, all
given by position. -/
structure Matches (file : Node) (bindings : Bindings) (node : Node) (fields : String × String) : Prop where
  construction : node.kind = .newExpression
  listed : (node.list? .arguments).isSome = true
  address : ∃ callee exported, node.child? .expression = some callee ∧
    resolve file bindings callee = some exported ∧ addressFields exported = some fields
  number : (node.items .arguments).length = 1 ∨ (node.items .arguments).length = 2
  positional : ∀ argument ∈ node.items .arguments,
    argument.kind ≠ .objectLiteralExpression ∧ argument.kind ≠ .spreadElement

/-- A match spelled out: its name refers to one of three classes of the module, and the fields are those
of the class. -/
theorem Matches.spelled {file node : Node} {bindings : Bindings} {fields : String × String}
    (matching : Matches file bindings node fields) : ∃ callee exported,
      node.child? .expression = some callee ∧ resolve file bindings callee = some exported ∧
        (exported = "IPAddr" ∧ fields = ("IP", "Zone") ∨
          (exported = "TCPAddr" ∨ exported = "UDPAddr") ∧ fields = ("IP", "Port")) := by
  obtain ⟨callee, exported, called, resolved, known⟩ := matching.address
  exact ⟨callee, exported, called, resolved, address_fields_iff.mp known⟩

/-- A matching construction stands at a place that a transformation visits, the node itself left out
if so asked. -/
def Contains (file : Node) (bindings : Bindings) (strictly : Bool) (node : Node) : Prop :=
  ∃ place target fields, node.Visits place target ∧ Matches file bindings target fields ∧
    (strictly = true → place ≠ [])

/-- The properties that stand for the arguments of a match, given what the arguments became: one for
each, less a second argument with the zero value. -/
inductive Keys (fields : String × String) : List Node → List Node → List Node → Prop where
  | one (first value : Node) : Keys fields [first] [value] [property fields.1 value]
  | two {second : Node} (first value another : Node) (given : second.isZero = false) :
    Keys fields [first, second] [value, another] [property fields.1 value, property fields.2 another]
  | zero {second : Node} (first value another : Node) (left : second.isZero = true) :
    Keys fields [first, second] [value, another] [property fields.1 value]

mutual

/-- What a tree becomes when every match that is visited in it is given its fields by key. Another node
is what it becomes below. A match keeps its name, without parentheses around it, and all else but its
arguments. -/
inductive Rekeyed (file : Node) (bindings : Bindings) : Node → Node → Prop where
  | other {node inner : Node} (unmatched : ∀ fields, ¬Matches file bindings node fields)
      (below : RekeyedBelow file bindings node inner) : Rekeyed file bindings node inner
  | keyed {node inner callee name : Node} {fields : String × String} {properties : List Node}
      (matching : Matches file bindings node fields) (below : RekeyedBelow file bindings node inner)
      (named : node.child? .expression = some callee) (again : Rekeyed file bindings callee name)
      (stays : inner.child? .expression = some name)
      (keys : Keys fields (node.items .arguments) (inner.items .arguments) properties) :
    Rekeyed file bindings node (inner.given [objectOf properties])

/-- What a node becomes below: it stays when there is no match, and is put together again around what
its parts become when there is one. -/
inductive RekeyedBelow (file : Node) (bindings : Bindings) : Node → Node → Prop where
  | kept {node : Node} (none : ¬Contains file bindings true node) : RekeyedBelow file bindings node node
  | around {node : Node} {results : List Node} (some : Contains file bindings true node)
      (parts : RekeyedParts file bindings node.kind node.parts results) :
    RekeyedBelow file bindings node (node.refit results)

/-- What the parts of a node of a kind become; those that are not visited stay. -/
inductive RekeyedParts (file : Node) (bindings : Bindings) : Kind → List (Role × Node) → List Node → Prop where
  | none (kind : Kind) : RekeyedParts file bindings kind [] []
  | visited {kind : Kind} {role : Role} {node result : Node} {parts : List (Role × Node)}
      {results : List Node} (entered : role.isVisited kind = true) (first : Rekeyed file bindings node result)
      (rest : RekeyedParts file bindings kind parts results) :
    RekeyedParts file bindings kind ((role, node) :: parts) (result :: results)
  | passed {kind : Kind} {role : Role} {node : Node} {parts : List (Role × Node)} {results : List Node}
      (skipped : role.isVisited kind = false) (rest : RekeyedParts file bindings kind parts results) :
    RekeyedParts file bindings kind ((role, node) :: parts) (node :: results)

end

section

variable {root node : Node} {bindings : Bindings} {shade : Shade}

end

section

variable {root node callee : Node} {bindings : Bindings} {shade : Shade}

end

/-- The transformation of the fix for constructions of a tree in which something of the module is
bound. -/
theorem run_keyed {draft : Draft} (bound : (collect draft.root netModule).isEmpty = false) :
    netAddrKeyed.transform.run draft =
      match draft.root.transform (m := Except Thrown) fun node =>
        .ok (keyedRule.answer draft.parsed.root (collect draft.root netModule) node) with
      | .error thrown => (.error thrown, draft)
      | .ok result =>
        if result.replaced = 0 then (.ok false, draft)
        else (.ok true, draft.replaceRoot result.node) := by
  obtain ⟨added, none, ran⟩ := Edit.run_transform (fun node => Edit.Notes.silent (keyed draft.parsed.root
    (collect draft.root netModule) node)) draft
  rw [List.eq_nil_iff_forall_not_mem.mpr none, Draft.noting_nil] at ran
  rw [run_net_addr_keyed, bound, if_neg Bool.false_ne_true]
  refine ran.trans ?_
  simp only [keyed_eq]
  rfl

/-- Whether a text is read as a draft that passes a test together with what the transformation of a fix
answers and leaves. -/
def attempted (fix : Fix) (text : String) (test : Draft → Except Thrown Bool → Draft → Bool) : Bool :=
  (Draft.parse "/a.ts" text).toOption.any fun draft =>
    test draft (fix.transform.run draft).1 (fix.transform.run draft).2

/-- Whether a rule has new arguments for a node of a draft, with what the file binds to the module. -/
def Rule.renews (rule : Rule) (draft : Draft) (node : Node) : Bool :=
  (rule.renewal (resolve draft.root (collect draft.root netModule)) node).isSome

section

variable {fix : Fix} {rule : Rule} {text : String} {place later : List Nat}
  {test : Draft → Except Thrown Bool → Draft → Bool}

end

/-- A file with a construction whose argument binds too loosely for the value of a field. -/
def loose : String :=
  "import n from\"net\";new n.IPAddr(f<number>)"

end Codemod.Fix
