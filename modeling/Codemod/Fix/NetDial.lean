import Codemod.Fix.NetAddrKeyed

/-!
# Dialling without a local address

The function `dial` of the module `net` takes no local address. A call with
three arguments the second of which is the empty text loses that argument. A
call with another local address cannot be changed mechanically and is reported.
-/
namespace Codemod.Fix

open Syntax

/-- The message about a call that keeps its local address. -/
def dialMessage : String :=
  "call to net.dial with non-empty local address"

/-- Whether a node is a call of `dial` with three arguments. -/
def isDial (file : Node) (bindings : Imports.Bindings) (node : Node) : Bool :=
  node.kind == .callExpression && (node.items .arguments).length == 3
    && (node.child? .expression).bind (Imports.resolve file bindings) == some "dial"

/-- The call without its empty local address; a warning when the address is not empty. -/
def undialled (file : Node) (bindings : Imports.Bindings) (node : Node) : Edit (Option Node) := do
  if !isDial file bindings node then return none
  match node.items .arguments with
  | [network, localAddress, address] =>
    if localAddress.isEmptyText then return some (withArguments node [network, address])
    Edit.warn node dialMessage
    return none
  | _ => return none

/-- Drops empty local addresses from calls of `dial`. -/
def netDial : Fix where
  name := "net-dial"
  date := "2011-03-28"
  description := "Drop the empty local-address argument from three-argument net.dial calls."
  precondition := loadsNet
  transform := do
    let draft ← get
    let bindings := Imports.collect draft.root netModule
    Edit.transform (undialled draft.parsed.root bindings)

/-- The fixes that come with the program. -/
def builtin : List Fix :=
  [netAddrKeyed, netDial]

end Codemod.Fix
