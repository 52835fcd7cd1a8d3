import CampusBooking.Network.Address
import CampusBooking.Wire.Datagram
import CampusBooking.Wire.Response

/-!
# The network a host sends through

A host reaches others through its network: it finds the address of a host's name, and it
sends a datagram to an address and waits, for a number of milliseconds, for the reply.
`Network m` gathers these two services, with the effects of `m`.

A call resolves its target, writes the message as a datagram, and exchanges it: a target
that does not resolve fails before anything is written, and a message too long for a
datagram is never sent.

`Network.offline` is a host with no network at all, not even loopback: a name resolves
only when it is a numeric address or the host's own name, and no datagram leaves.
-/

namespace CampusBooking

/-- What a host's network does: find the address of a host's name, and carry a datagram
to an address and its reply back within the given milliseconds. -/
structure Network (m : Type → Type) where
  lookupName : String → UInt16 → m (Except NetFault SocketAddress)
  exchange : SocketAddress → String → Nat → m (Except NetFault Response)

namespace Network

variable {m : Type → Type} [Monad m]

/-- The address a target `host:port` stands for. -/
def resolve (net : Network m) (target : String) : ExceptT NetFault m SocketAddress :=
  match Endpoint.parse target with
  | .error e => throw e
  | .ok (.address a) => pure a
  | .ok (.named host port) => ExceptT.mk (net.lookupName host port)

/-- Sends a message to an address and waits for the reply. -/
def send (net : Network m) (a : SocketAddress) (message : Json.Value) (wait : Nat) :
    ExceptT NetFault m Response := do
  let text ← ExceptT.mk (pure (Datagram.encode message))
  ExceptT.mk (net.exchange a text wait)

/-- Sends a message to a target `host:port` and waits for the reply. -/
def call (net : Network m) (target : String) (message : Json.Value) (wait : Nat) :
    ExceptT NetFault m Response := do
  net.send (← net.resolve target) message wait

/-- What a host says when it has no route to any network. -/
def noRoute : String := "Network is unreachable (os error 101)"

/-- What a host says when it has no address to send from. -/
def noSourceAddress : String := "Cannot assign requested address (os error 99)"

/-- What a host says when no name server can be reached. -/
def noNameServer : String :=
  "failed to lookup address information: Temporary failure in name resolution"

/-- What a host says of a name it knows cannot stand for an address. -/
def unknownName : String :=
  "failed to lookup address information: Name or service not known"

/-- The loopback address with a port. -/
def loopback (port : UInt16) : SocketAddress := .v4 [127, 0, 0, 1] port

/-- A host without any network: names other than numeric addresses and the host's own
name do not resolve, and every datagram fails to leave.  An IPv4 datagram, also one to
an IPv4 address written as IPv6, finds no route; any other IPv6 datagram finds no
address to be sent from. -/
def offline : Network Id where
  lookupName host port :=
    match HostName.read host port with
    | .numeric a => .ok a
    | .badScope => .error (.io unknownName)
    | .name =>
      if host.toLower = "localhost" then .ok (loopback port) else .error (.io noNameServer)
  exchange a _ _ :=
    match a with
    | .v4 .. => .error (.io noRoute)
    | .v6 g .. => .error (.io (if Address.isMappedV4 g then noRoute else noSourceAddress))

end Network

end CampusBooking
