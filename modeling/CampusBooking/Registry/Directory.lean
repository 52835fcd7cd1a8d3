import CampusBooking.Wire.Datagram
import CampusBooking.Wire.Response

/-!
# The registry's directory

The directory publishes one entry per service kind and campus.  The first registration
of a key wins, and its entry is never replaced.  The directory also hands out ports from
a range, each at most once: a port is taken once it has been handed out or registered.
The registry draws ports from its range at random and hands out the first one that is
not taken and that the host can bind; `drawPort` takes the draws, each with the outcome
of its bind test, as given.

`Directory.respond` answers a request to the registry.  When no drawn port can be handed
out, a request for a port gets no answer: the registry keeps drawing, and never stops once
every port of the range is taken.
`Directory.reply` answers a datagram: one that does not read as a request gets a
malformed answer, and an answer too long for a datagram is not sent.
-/

namespace CampusBooking

/-- The published entries, oldest first, and the ports handed out from `[low, high)`. -/
structure Directory where
  entries : List RegistryEntry := []
  /-- Ports handed out or registered, never handed out again. -/
  taken : List UInt16 := []
  low : UInt16
  high : UInt16

namespace Directory

/-- A directory with nothing published, handing out ports from `[low, high)`. -/
def empty (low high : UInt16) : Directory := { low, high }

/-- The entry published for a service kind and campus. -/
def lookup (d : Directory) (kind : ServiceKind) (campus : Campus) : Option RegistryEntry :=
  d.entries.find? fun e => e.kind = kind ∧ e.campus = campus

/-- The number of entries. -/
def size (d : Directory) : Nat := d.entries.length

/-- Publishes an entry, and takes its port, unless its key is taken; says whether it
did. -/
def register (d : Directory) (e : RegistryEntry) : Directory × Bool :=
  if (d.lookup e.kind e.campus).isSome then (d, false)
  else ({ d with entries := d.entries ++ [e], taken := e.port :: d.taken }, true)

/-- The port handed out for the ports `draws` drawn from the range, each with whether the
host could bind it: the first drawn port that is not taken and could be bound, which is
then taken.  None while no such port has been drawn. -/
def drawPort (d : Directory) : List (UInt16 × Bool) → Option (UInt16 × Directory)
  | [] => none
  | (p, bindable) :: rest =>
    if p ∉ d.taken ∧ bindable = true then some (p, { d with taken := p :: d.taken })
    else d.drawPort rest

/-- The answer to a request, and the directory after it, when the registry draws `draws`
for a port; none when a port is asked for and none of the draws can be handed out. -/
def respond (d : Directory) (draws : List (UInt16 × Bool)) (req : RegistryRequest) :
    Option (Directory × Response) :=
  let a := req.action.toAction
  let params := req.parameters
  match req.action with
  | .register =>
    match req.entry? with
    | none =>
      some (d, Response.fail a .invalidArgument "Registration requires type, campus, host and port"
        params)
    | some e =>
      let what := e.campus.code ++ " " ++ e.kind.name ++ " at " ++ e.address
      match d.register e with
      | (d', true) => some (d', Response.ok a ("Registered " ++ what) params)
      | (d', false) => some (d', Response.fail a .alreadyExists ("Unable to register " ++ what) params)
  | .lookup =>
    match req.kind, req.campus with
    | some k, some c =>
      match d.lookup k c with
      | some e => some (d, { Response.ok a e.address params with entry := some e })
      | none =>
        some (d, Response.fail a .notFound ("No " ++ k.name ++ " endpoint for " ++ c.code) params)
    | _, _ => some (d, Response.fail a .invalidArgument "Lookup requires type and campus" params)
  | .getAvailablePort =>
    (d.drawPort draws).map fun (p, d') =>
      (d', { Response.ok a (Text.decimal p.toNat) params with port := some p })

/-- The answer to a datagram, or none. -/
def answer (d : Directory) (draws : List (UInt16 × Bool)) (payload : ByteArray) :
    Option (Directory × Response) :=
  match Datagram.decode Wire.readRegistryRequest payload with
  | .ok req => d.respond draws req
  | .error e => some (d, Response.fail .unrecognized .malformed e.message "None")

/-- The datagram that answers a datagram, sent at `sentAt`, and the directory after it;
no datagram when there is no answer or it does not fit. -/
def reply (d : Directory) (draws : List (UInt16 × Bool)) (sentAt : String) (payload : ByteArray) :
    Directory × Option String :=
  match d.answer draws payload with
  | none => (d, none)
  | some (d', r) => (d', (Datagram.encode (r.toWire sentAt)).toOption)

end Directory

end CampusBooking
