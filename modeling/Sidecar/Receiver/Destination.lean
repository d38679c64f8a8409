import Sidecar.Receiver.Error

/-!
# Destinations

The URL that batches are pushed to has the host that was configured, which only the platform has to
be able to resolve, and the port on which the receiver listens.
-/

namespace Sidecar.Destination

/-- The part of an address in front of its last colon. -/
def host? (address : String) : Option String :=
  match address.toList.reverse.dropWhile (· ≠ ':') with
  | [] => none
  | _ :: before => some (String.ofList before.reverse)

/-- The URL for a configured address and the port of the receiver. -/
def url (address : String) (port : Nat) : Except ReceiverError String :=
  match (host? address).filter (!·.isEmpty) with
  | some host => .ok ("http://" ++ host ++ ":" ++ toString port)
  | none => .error (.invalidAddress address)

end Sidecar.Destination
