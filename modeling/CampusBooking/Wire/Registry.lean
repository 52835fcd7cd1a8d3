import CampusBooking.Wire.Request

/-!
# Messages to the registry

The registry publishes endpoints: an entry names a service kind, a campus, and the host,
port and path where that service of that campus listens.  A request to the registry
asks to register an entry, to look one up, or for a free port; a request with any other
action name is a registration.  Every field but the action may be left out, and each
action uses only the fields it needs.
-/

namespace CampusBooking

/-- A published endpoint. -/
structure RegistryEntry where
  kind : ServiceKind
  campus : Campus
  host : String
  port : UInt16
  path : String
  deriving DecidableEq

/-- `host:port`. -/
def RegistryEntry.address (e : RegistryEntry) : String :=
  e.host ++ ":" ++ Text.decimal e.port.toNat

open Json in
/-- The JSON form of an entry. -/
def RegistryEntry.toJson (e : RegistryEntry) : Value :=
  .obj [("service_kind", e.kind.toJson), ("campus", e.campus.toJson), ("host", .str e.host),
    ("port", .nat e.port.toNat), ("path", .str e.path)]

/-- What a request to the registry asks for. -/
inductive RegistryAction where
  | register
  | lookup
  | getAvailablePort
  deriving DecidableEq, Repr

/-- The action of a campus response that answers a registry action. -/
def RegistryAction.toAction : RegistryAction → Action
  | .register => .register
  | .lookup => .lookup
  | .getAvailablePort => .getAvailablePort

/-- A request to the registry. -/
structure RegistryRequest where
  action : RegistryAction
  kind : Option ServiceKind := none
  campus : Option Campus := none
  host : Option String := none
  port : Option UInt16 := none
  path : Option String := none
  deriving DecidableEq

namespace RegistryRequest

/-- The request that registers an entry. -/
def register (e : RegistryEntry) : RegistryRequest :=
  ⟨.register, some e.kind, some e.campus, some e.host, some e.port, some e.path⟩

/-- The request that looks up an endpoint. -/
def lookup (kind : ServiceKind) (campus : Campus) : RegistryRequest :=
  { action := .lookup, kind := some kind, campus := some campus }

/-- The request for a free port. -/
def availablePort : RegistryRequest := { action := .getAvailablePort }

/-- The entry a request describes, when the kind, campus, host and port are given; the
path defaults to empty. -/
def entry? (r : RegistryRequest) : Option RegistryEntry := do
  pure ⟨← r.kind, ← r.campus, ← r.host, ← r.port, r.path.getD ""⟩

/-- The one-line echo of a request, `-` standing for a field left out. -/
def parameters (r : RegistryRequest) : String :=
  let shown : Option String → String := fun v => v.getD "-"
  "Type: " ++ shown (r.kind.map (·.name)) ++ " | Campus: " ++ shown (r.campus.map (·.code)) ++
    " | Host: " ++ shown r.host ++ " | Port: " ++ shown (r.port.map (Text.decimal ·.toNat)) ++
    " | Path: " ++ shown r.path

open Json in
/-- The JSON form of a request: the action, then the fields that are given. -/
def toJson (r : RegistryRequest) : Value :=
  .obj (("action", .str r.action.toAction.name) ::
    ((r.kind.map fun k => ("service_kind", k.toJson)).toList ++
     (r.campus.map fun c => ("campus", c.toJson)).toList ++
     (r.host.map fun h => ("host", Value.str h)).toList ++
     (r.port.map fun p => ("port", Value.nat p.toNat)).toList ++
     (r.path.map fun p => ("path", Value.str p)).toList))

end RegistryRequest

namespace Wire

open Json

section Readers

variable {m : Type → Type} [ShapeReader m]

/-- The fields of an entry, in declaration order. -/
def entryShape : RecordShape :=
  ⟨"struct RegistryEntry", [("service_kind", false), ("campus", false), ("host", false),
    ("port", false), ("path", false)]⟩

def entryStep (i : Nat) (d : RegistryRequest) : m RegistryRequest :=
  match i with
  | 0 => do pure { d with kind := some (← readServiceKind) }
  | 1 => do pure { d with campus := some (← readCampus) }
  | 2 => do pure { d with host := some (← ShapeReader.string) }
  | 3 => do pure { d with port := some (← readRoom) }
  | _ => do pure { d with path := some (← ShapeReader.string) }

/-- Reads an entry; every field is required. -/
def readEntry : m RegistryEntry :=
  ShapeReader.record entryShape entryStep { action := .register }
    (fun d => do
      pure ⟨← need "service_kind" d.kind, ← need "campus" d.campus, ← need "host" d.host,
        ← need "port" d.port, ← need "path" d.path⟩)

/-- The action names of the registry; any other name is a registration. -/
def registryTags : Variants := ⟨[("Lookup", 1), ("GetAvailablePort", 2), ("Register", 0)], some 0⟩

def readRegistryAction : m RegistryAction := do
  match ← ShapeReader.variant registryTags with
  | 1 => pure .lookup
  | 2 => pure .getAvailablePort
  | _ => pure .register

/-- The fields of a registry request, in declaration order; all but the action may be
left out. -/
def registryShape : RecordShape :=
  ⟨"struct RegistryRequest", [("action", false), ("service_kind", true), ("campus", true),
    ("host", true), ("port", true), ("path", true)]⟩

/-- A registry request read so far: the action, if read, and the other fields. -/
def registryStep (i : Nat) (d : Option RegistryAction × RegistryRequest) :
    m (Option RegistryAction × RegistryRequest) :=
  match i with
  | 0 => do pure (some (← readRegistryAction), d.2)
  | 1 => do pure (d.1, { d.2 with kind := ← ShapeReader.optional readServiceKind })
  | 2 => do pure (d.1, { d.2 with campus := ← ShapeReader.optional readCampus })
  | 3 => do pure (d.1, { d.2 with host := ← ShapeReader.optional ShapeReader.string })
  | 4 => do pure (d.1, { d.2 with port := ← ShapeReader.optional readRoom })
  | _ => do pure (d.1, { d.2 with path := ← ShapeReader.optional ShapeReader.string })

def readRegistryRequest : m RegistryRequest :=
  ShapeReader.record registryShape registryStep (none, { action := .register })
    (fun d => do pure { d.2 with action := ← need "action" d.1 })

end Readers

end Wire

end CampusBooking
