import CampusBooking.Network.Basic

/-!
# Asking the registry

A registry client sends requests to the registry at a target `host:port` and waits a
while for each reply.  Every failure to get a reply is a registry fault that names the
registry and the cause.

`ensureRegistered` finds the port an endpoint should listen on: the port of the entry
already published for its service kind and campus, or else a fresh port from the
registry, published under that key.  A node that starts again thus comes back on its
port.
-/

namespace CampusBooking

/-- A client of the registry at `target`, named `name` in messages, waiting `timeout`
milliseconds for each reply. -/
structure RegistryClient where
  target : String
  name : String := target
  timeout : Nat

namespace RegistryClient

variable {m : Type → Type} [Monad m] (net : Network m) (c : RegistryClient)

/-- Sends a request to the registry and waits for the reply. -/
def call (req : RegistryRequest) : ExceptT NetFault m Response :=
  ExceptT.adapt (fun e => .registry (c.name ++ " unreachable: " ++ e.message))
    (net.call c.target req.toJson c.timeout)

/-- Publishes an entry; says whether the registry took it. -/
def register (e : RegistryEntry) : ExceptT NetFault m Bool := do
  pure (← c.call net (.register e)).success

/-- The entry published for a service kind and campus, if there is one. -/
def lookup (kind : ServiceKind) (campus : Campus) : ExceptT NetFault m (Option RegistryEntry) := do
  let r ← c.call net (.lookup kind campus)
  match r.success, r.entry with
  | true, some e => pure (some e)
  | false, _ => if r.error = some .notFound then pure none else throw (.registry r.message)
  | true, none => throw (.registry r.message)

/-- A port no one has been given yet. -/
def availablePort : ExceptT NetFault m UInt16 := do
  let r ← c.call net .availablePort
  match r.port with
  | some p => pure p
  | none => throw (.registry ("No port in reply: " ++ r.message))

/-- The port an endpoint should listen on: the published one, or a fresh port that is
then published. -/
def ensureRegistered (kind : ServiceKind) (campus : Campus) (host path : String) :
    ExceptT NetFault m UInt16 := do
  if let some e ← c.lookup net kind campus then return e.port
  let port ← c.availablePort net
  let e : RegistryEntry := ⟨kind, campus, host, port, path⟩
  unless ← c.register net e do
    throw (.registry ("Unable to register " ++ campus.code ++ " " ++ kind.name ++ " at " ++
      e.address))
  pure port

end RegistryClient

end CampusBooking
