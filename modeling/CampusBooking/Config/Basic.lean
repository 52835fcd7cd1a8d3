import CampusBooking.Config.Toml
import CampusBooking.Wire.Fields

/-!
# Settings of the registry and of a node

The settings are read from a TOML document with the tables `registry` and `node`.  Every
setting has a default, so any part may be left out; keys the settings do not know are
ignored.  A table may also be written as an array of its settings in their order.

After reading, the settings are checked: the registry's port range must not be empty,
and the peer timeout and the weekly quota must be positive.
-/

namespace CampusBooking

/-- Where the registry listens, and the ports it hands out (from `portRangeMin`, below
`portRangeMax`). -/
structure RegistrySettings where
  bindHost : String := "0.0.0.0"
  port : UInt16 := 1024
  portRangeMin : UInt16 := 1025
  portRangeMax : UInt16 := 65000
  deriving DecidableEq

/-- The campus a node serves, where it listens, where it finds the registry, how long it
waits for a peer, and the weekly quota. -/
structure NodeSettings where
  campus : Option Campus := none
  host : String := "127.0.0.1"
  clientPath : String := "/roomreservation"
  interNodePath : String := "server"
  registryHost : String := "127.0.0.1"
  registryPort : UInt16 := 1024
  peerTimeoutMs : UInt64 := 1000
  weeklyQuota : UInt32 := 3
  deriving DecidableEq

/-- The address of the registry, `host:port`. -/
def NodeSettings.registryAddress (n : NodeSettings) : String :=
  n.registryHost ++ ":" ++ Text.decimal n.registryPort.toNat

/-- All settings. -/
structure Config where
  registry : RegistrySettings := {}
  node : NodeSettings := {}
  deriving DecidableEq

/-! ## Reading settings from a document -/

namespace Toml

open Json

/-- How a value of a document is named when it is not what was expected. -/
def Value.found : Value → Found
  | .str s => .str s
  | .int i => if 0 ≤ i then .unsigned i.toNat else .signed i
  | .float _ => .float 0
  | .bool b => .bool b
  | .datetime _ => .map
  | .array _ => .seq
  | .table _ => .map

/-- A reader of pieces from a value of a document. -/
abbrev Reader := ReaderT Value (Except ShapeFault)

namespace Reader

def mismatch (expected : String) : Reader α := do
  throw (.invalidType (← read).found expected)

def focus (v : Value) (r : Reader α) : Reader α := withReader (fun _ => v) r

/-- The named members of a table, each read by its field, the others skipped. -/
def members (shape : RecordShape) (step : Nat → σ → Reader σ) :
    List (String × Value) → σ → Reader σ
  | [], s => pure s
  | (k, v) :: rest, s => do
    match shape.indexOf? k with
    | some i => members shape step rest (← focus v (step i s))
    | none => members shape step rest s

/-- The items of an array, read as the fields in their order. -/
def items (shape : RecordShape) (step : Nat → σ → Reader σ) :
    List Value → List (String × Bool) → Nat → σ → Reader σ
  | _, [], _, s => pure s
  | v :: vs, _ :: fields, i, s => do items shape step vs fields (i + 1) (← focus v (step i s))
  | [], (_, optional) :: fields, i, s =>
    if optional then items shape step [] fields (i + 1) s
    else throw (.invalidLength i shape.lengthText)

end Reader

instance : ShapeReader Reader where
  string := do
    match ← read with
    | .str s => pure s
    | _ => Reader.mismatch "a string"
  date := do
    match ← read with
    | .str s =>
      match Date.readWire s with
      | .ok d => pure d
      | .error f => throw (.custom f.message)
    | _ => Reader.mismatch "a formatted date string"
  word name max := do
    match ← read with
    | .int i =>
      if 0 ≤ i ∧ i.toNat ≤ max then pure i.toNat
      else throw (.invalidValue (Value.int i).found name)
    | _ => Reader.mismatch name
  variant vs := do
    match ← read with
    | .str s =>
      match vs.lookup s with
      | .ok i => pure i
      | .error f => throw f
    | _ => Reader.mismatch "string or map"
  optional r := some <$> r
  list r := do
    match ← read with
    | .array xs => xs.mapM fun x => Reader.focus x r
    | _ => Reader.mismatch "a sequence"
  record shape step init finish := do
    let s ← match ← read with
      | .table entries => Reader.members shape step entries init
      | .array xs => Reader.items shape step xs shape.fields 0 init
      | _ => Reader.mismatch shape.name
    match finish s with
    | .ok a => pure a
    | .error f => throw f
  refuse f := throw f

end Toml

namespace Config

open Json

variable {m : Type → Type} [ShapeReader m]

/-- A shape whose fields may all be left out. -/
def settingsShape (name : String) (fields : List String) : RecordShape :=
  ⟨name, fields.map (·, true)⟩

def readRegistry : m RegistrySettings :=
  ShapeReader.record
    (settingsShape "struct RegistryConfig" ["bind_host", "port", "port_range_min", "port_range_max"])
    (fun i (r : RegistrySettings) => match i with
      | 0 => do pure { r with bindHost := ← ShapeReader.string }
      | 1 => do pure { r with port := ← Wire.readRoom }
      | 2 => do pure { r with portRangeMin := ← Wire.readRoom }
      | _ => do pure { r with portRangeMax := ← Wire.readRoom })
    {} .ok

def readNode : m NodeSettings :=
  ShapeReader.record
    (settingsShape "struct NodeConfig" ["campus", "host", "client_path", "inter_node_path",
      "registry_host", "registry_port", "peer_timeout_ms", "weekly_quota"])
    (fun i (n : NodeSettings) => match i with
      | 0 => do pure { n with campus := ← ShapeReader.optional Wire.readCampus }
      | 1 => do pure { n with host := ← ShapeReader.string }
      | 2 => do pure { n with clientPath := ← ShapeReader.string }
      | 3 => do pure { n with interNodePath := ← ShapeReader.string }
      | 4 => do pure { n with registryHost := ← ShapeReader.string }
      | 5 => do pure { n with registryPort := ← Wire.readRoom }
      | 6 => do pure { n with peerTimeoutMs := (← ShapeReader.word "u64" (Nat.pow 2 64 - 1)).toUInt64 }
      | _ => do pure { n with weeklyQuota := (← ShapeReader.word "u32" (Nat.pow 2 32 - 1)).toUInt32 })
    {} .ok

def read : m Config :=
  ShapeReader.record (settingsShape "struct Config" ["registry", "node"])
    (fun i (c : Config) => match i with
      | 0 => do pure { c with registry := ← readRegistry }
      | _ => do pure { c with node := ← readNode })
    {} .ok

/-- Checks the settings that have to make sense together. -/
def validate (c : Config) : Except Fault Unit :=
  if c.registry.portRangeMin ≥ c.registry.portRangeMax then
    .error (.config ("Port range " ++ Text.decimal c.registry.portRangeMin.toNat ++ ".." ++
      Text.decimal c.registry.portRangeMax.toNat ++ " is empty"))
  else if c.node.peerTimeoutMs = 0 then .error (.config "peer_timeout_ms must be positive")
  else if c.node.weeklyQuota = 0 then .error (.config "weekly_quota must be positive")
  else .ok ()

/-- Reads and checks the settings of a TOML document. -/
def ofToml (text : String) : Except Fault Config := do
  let some root := Toml.parse text | throw .configSyntax
  match ReaderT.run (read : Toml.Reader Config) (.table root) with
  | .error _ => throw .configSyntax
  | .ok c =>
    c.validate
    pure c

/-- The JSON form of the settings. -/
def toJson (c : Config) : Value :=
  .obj [("registry", .obj [("bind_host", .str c.registry.bindHost),
      ("port", .nat c.registry.port.toNat), ("port_range_min", .nat c.registry.portRangeMin.toNat),
      ("port_range_max", .nat c.registry.portRangeMax.toNat)]),
    ("node", .obj [("campus", (c.node.campus.map Campus.toJson).getD .null),
      ("host", .str c.node.host), ("client_path", .str c.node.clientPath),
      ("inter_node_path", .str c.node.interNodePath), ("registry_host", .str c.node.registryHost),
      ("registry_port", .nat c.node.registryPort.toNat),
      ("peer_timeout_ms", .nat c.node.peerTimeoutMs.toNat),
      ("weekly_quota", .nat c.node.weeklyQuota.toNat)])]

end Config

end CampusBooking
