import Codemod.Fix.Basic
import Codemod.Imports.Resolve

/-!
# Keyed construction of addresses

The address classes of the module `net` take their fields by key. A construction
with one or two positional arguments is given one object literal with those
fields; the second is left out when it is a zero literal, its default. A
construction that has an object literal or a spread among its arguments is left
alone.
-/
namespace Codemod.Fix

open Syntax

/-- The module whose interface changed. -/
def netModule : String :=
  "net"

/-- The fields of an address class in their positional order. -/
def addressFields : String → Option (String × String)
  | "IPAddr" => some ("IP", "Zone")
  | "TCPAddr" => some ("IP", "Port")
  | "UDPAddr" => some ("IP", "Port")
  | _ => none

/-- Whether an argument is given by its position. -/
def isPositional (argument : Node) : Bool :=
  argument.kind != .objectLiteralExpression && argument.kind != .spreadElement

/-- A property of an object literal. -/
def property (name : String) (value : Node) : Node :=
  Node.make { kind := .propertyAssignment } [.one .name (Node.identifier name), .one .initializer value.asMember]

/-- A list that no text holds. -/
def newList (nodes : List Node) : NodeList :=
  { nodes, info := { span := none, trailingComma := false } }

/-- The properties that stand for positional arguments. -/
def keyedProperties (fields : String × String) : List Node → List Node
  | [] => []
  | [first] => [property fields.1 first]
  | first :: second :: _ =>
    property fields.1 first :: (if second.isZero then [] else [property fields.2 second])

/-- The object literal that stands for positional arguments. -/
def keyedArguments (fields : String × String) (arguments : List Node) : Node :=
  Node.make { kind := .objectLiteralExpression }
    [.many .properties (newList (keyedProperties fields arguments))]

/-- The node with other arguments. A child without a role stays as it was. -/
def withArguments (node : Node) (arguments : List Node) : Node :=
  let kept := node.parts.filter (·.1 != .arguments)
  let info := node.info
  .mk
    { info with
      rebuilt := true
      layout := kept.map (·.1) ++ arguments.map fun _ => .arguments
      lists := info.lists.filter (·.1 != .arguments)
        ++ [(.arguments, { span := none, trailingComma := false })] }
    (kept.map (·.2) ++ arguments.map Node.asMember ++ node.children.drop info.layout.length)

/-- The keyed form of a construction of an address, if it is one with positional arguments. -/
def keyed (file : Node) (bindings : Imports.Bindings) (node : Node) : Option Node :=
  if node.kind != .newExpression || (node.list? .arguments).isNone then none
  else
    let arguments := node.items .arguments
    match ((node.child? .expression).bind (Imports.resolve file bindings)).bind addressFields with
    | some fields =>
      if arguments.isEmpty || arguments.length > 2 || !arguments.all isPositional then none
      else some (withArguments node [keyedArguments fields arguments])
    | none => none

/-- Whether the file of the draft loads the module. -/
def loadsNet : Edit Bool := do
  return Imports.importsModule (← get).root netModule

/-- Gives address constructions their fields by key. -/
def netAddrKeyed : Fix where
  name := "net-addr-keyed"
  date := "2012-11-26"
  description := "Use keyed arguments for IPAddr, TCPAddr and UDPAddr constructions from \"net\"."
  precondition := loadsNet
  transform := do
    let draft ← get
    let bindings := Imports.collect draft.root netModule
    if bindings.isEmpty then return false
    Edit.transform fun node => return keyed draft.parsed.root bindings node

end Codemod.Fix
