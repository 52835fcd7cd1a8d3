import CampusBooking.Registry.Client

/-!
# Finding peers through the registry

A node that runs over a network finds the node of another campus through the registry:
it looks up the campus's inter-node entry and resolves the entry's address.  It keeps
what it found in a `PeerCache`, so later calls need no lookup.  Only successful
resolutions are kept, and an address is dropped when a call to it fails, so a node that
starts again on another port is found again.

`PeerCache.send` carries one request to a campus and gives the reply with the cache
after the call.
-/

namespace CampusBooking

/-- The addresses found for the nodes of other campuses. -/
structure PeerCache where
  found : List (Campus × SocketAddress) := []
  deriving DecidableEq

namespace PeerCache

/-- The address kept for a campus. -/
def get? (c : PeerCache) (campus : Campus) : Option SocketAddress :=
  (c.found.find? (·.1 = campus)).map (·.2)

/-- Keeps an address for a campus, in place of any other. -/
def insert (c : PeerCache) (campus : Campus) (a : SocketAddress) : PeerCache :=
  ⟨(campus, a) :: c.found.filter (·.1 ≠ campus)⟩

/-- Forgets the address of a campus. -/
def erase (c : PeerCache) (campus : Campus) : PeerCache :=
  ⟨c.found.filter (·.1 ≠ campus)⟩

variable {m : Type → Type} [Monad m] (net : Network m) (registry : RegistryClient)

/-- The address that a campus's inter-node entry in the registry names. -/
def locate (campus : Campus) : ExceptT NetFault m SocketAddress := do
  let some e ← registry.lookup net .interNode campus
    | throw (.unreachable (campus.code ++ " is not registered"))
  net.resolve e.address

/-- The address of a campus's node: the kept one, or the one the registry names, which is
then kept. -/
def resolve (campus : Campus) (c : PeerCache) : ExceptT NetFault m (SocketAddress × PeerCache) :=
  match c.get? campus with
  | some a => pure (a, c)
  | none => do
    let a ← locate net registry campus
    pure (a, c.insert campus a)

/-- Sends a request to a campus's node and waits `wait` milliseconds for the reply; a
failed call forgets the campus's address. -/
def send (campus : Campus) (req : Request) (wait : Nat) (c : PeerCache) :
    m (Except NetFault Response × PeerCache) := do
  match ← (resolve net registry campus c).run with
  | .error e => pure (.error e, c)
  | .ok (a, c) =>
    match ← (net.send a req.toJson wait).run with
    | .ok r => pure (.ok r, c)
    | .error e => pure (.error e, c.erase campus)

end PeerCache

end CampusBooking
