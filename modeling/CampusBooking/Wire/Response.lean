import CampusBooking.Wire.Registry
import CampusBooking.Wire.NetFault

/-!
# Responses

Every reply, of a campus or of the registry, is a `Response`: the action it answers,
whether it succeeded, a message for people, the echo of the request's parameters, and,
when it failed, the kind of failure.  A success may carry a booking id, a count, the slot
a cancellation released, an entry or a port.

A response travels with the time it was sent (`Response.toWire`), and is read back from text
with that time (`Wire.readResponse`); how a time is written and read is the caller's.
-/

namespace CampusBooking

/-- Why a request failed, as a response reports it. -/
inductive ErrorKind where
  | notFound
  | alreadyExists
  | alreadyBooked
  | ownerMismatch
  | quotaExceeded
  | peerUnreachable
  | unsupported
  | malformed
  | invalidArgument
  /-- A step of a multi-step request failed after an earlier step took effect. -/
  | partiallyFailed
  /-- A forwarded request got no reply in time; it may still have been carried out. -/
  | outcomeUnknown
  deriving DecidableEq, Repr

namespace ErrorKind

/-- Every kind, in the order of its variants. -/
def all : List ErrorKind :=
  [.notFound, .alreadyExists, .alreadyBooked, .ownerMismatch, .quotaExceeded, .peerUnreachable,
    .unsupported, .malformed, .invalidArgument, .partiallyFailed, .outcomeUnknown]

/-- The name of a kind on the wire. -/
def name : ErrorKind → String
  | .notFound => "NotFound"
  | .alreadyExists => "AlreadyExists"
  | .alreadyBooked => "AlreadyBooked"
  | .ownerMismatch => "OwnerMismatch"
  | .quotaExceeded => "QuotaExceeded"
  | .peerUnreachable => "PeerUnreachable"
  | .unsupported => "Unsupported"
  | .malformed => "Malformed"
  | .invalidArgument => "InvalidArgument"
  | .partiallyFailed => "PartiallyFailed"
  | .outcomeUnknown => "OutcomeUnknown"

/-- The kind of a refusal of a campus. -/
def ofFault : Fault → ErrorKind
  | .notFound _ => .notFound
  | .alreadyExists _ => .alreadyExists
  | .alreadyBooked _ => .alreadyBooked
  | .ownerMismatch _ => .ownerMismatch
  | .quotaExceeded _ => .quotaExceeded
  | .invalidArgument _ | .config _ | .configSyntax => .invalidArgument

/-- The kind of a failed exchange. -/
def ofNetFault : NetFault → ErrorKind
  | .core f => ofFault f
  | .malformed _ | .tooLarge _ => .malformed
  | .io _ | .timeout _ | .unreachable _ | .registry _ => .peerUnreachable

end ErrorKind

/-- A reply. -/
structure Response where
  action : Action
  success : Bool
  message : String
  /-- The echo of the request's parameters. -/
  parameters : String
  error : Option ErrorKind := none
  bookingId : Option BookingId := none
  count : Option UInt32 := none
  /-- The slot a cancellation released. -/
  released : Option SlotRef := none
  entry : Option RegistryEntry := none
  port : Option UInt16 := none
  deriving DecidableEq

namespace Response

/-- A success. -/
def ok (action : Action) (message parameters : String) : Response :=
  { action, success := true, message, parameters }

/-- A failure of a kind. -/
def fail (action : Action) (kind : ErrorKind) (message parameters : String) : Response :=
  { action, success := false, message, parameters, error := some kind }

open Json in
/-- The fields after the parameters that are given, in their order. -/
def details (r : Response) : List (String × Value) :=
  (r.error.map fun k => ("error", Value.str k.name)).toList ++
  (r.bookingId.map fun b => ("booking_id", Value.str b.toString)).toList ++
  (r.count.map fun n => ("count", Value.nat n.toNat)).toList ++
  (r.released.map fun s => ("released", s.toJson)).toList ++
  (r.entry.map fun e => ("entry", e.toJson)).toList ++
  (r.port.map fun p => ("port", Value.nat p.toNat)).toList

open Json in
/-- The JSON form of a response, without its time of sending. -/
def toJson (r : Response) : Value :=
  .obj ([("action", .str r.action.name), ("success", .bool r.success),
      ("message", .str r.message), ("parameters", .str r.parameters)] ++ r.details)

open Json in
/-- The JSON form a response travels in: the time of sending, as RFC 3339 text, stands
after the message. -/
def toWire (r : Response) (sentAt : String) : Value :=
  .obj ([("action", .str r.action.name), ("success", .bool r.success),
      ("message", .str r.message), ("timestamp", .str sentAt),
      ("parameters", .str r.parameters)] ++ r.details)

end Response

namespace Wire

/-- The names of an enumeration whose variants are listed in `all`, each with its place in
the list; no other name is accepted. -/
def namesOf (all : List α) (name : α → String) : Json.Variants :=
  ⟨(all.zip (List.range all.length)).map fun (a, i) => (name a, i), none⟩

/-- The names of the error kinds. -/
def errorKindNames : Json.Variants := namesOf ErrorKind.all ErrorKind.name

/-- Reads an error kind by its name. -/
def readErrorKind [Json.ShapeReader m] : m ErrorKind := do
  let i ← Json.ShapeReader.variant errorKindNames
  pure (ErrorKind.all.getD i .notFound)

/-- The names of the actions. -/
def actionNames : Json.Variants := namesOf Action.all Action.name

/-- Reads an action by its name. -/
def readAction [Json.ShapeReader m] : m Action := do
  let i ← Json.ShapeReader.variant actionNames
  pure (Action.all.getD i .unrecognized)

/-- Reads the count of a response, an unsigned 32-bit number. -/
def readCountField [Json.ShapeReader m] : m UInt32 := do
  pure (← Json.ShapeReader.word "u32" 4294967295).toUInt32

open Json

/-- Reads a time of sending: a string that `parseTime` reads, or its refusal in the words of
`parseTime`. -/
def readTime (parseTime : String → Except String τ) : Reader τ :=
  Reader.stringWith "a formatted date and time string or a unix timestamp" fun s =>
    match parseTime s with
    | .ok t => pure t
    | .error msg => Reader.refuse (.custom msg)

/-- The fields of a response, in declaration order; those after the parameters may be
left out. -/
def responseShape : RecordShape :=
  ⟨"struct Response", [("action", false), ("success", false), ("message", false),
    ("timestamp", false), ("parameters", false), ("error", true), ("booking_id", true),
    ("count", true), ("released", true), ("entry", true), ("port", true)]⟩

/-- A response read so far, with its time of sending. -/
structure ResponseDraft (τ : Type) where
  action : Option Action := none
  success : Option Bool := none
  message : Option String := none
  sentAt : Option τ := none
  parameters : Option String := none
  error : Option ErrorKind := none
  bookingId : Option BookingId := none
  count : Option UInt32 := none
  released : Option SlotRef := none
  entry : Option RegistryEntry := none
  port : Option UInt16 := none

def responseStep (parseTime : String → Except String τ) :
    Nat → ResponseDraft τ → Reader (ResponseDraft τ)
  | 0, d => do pure { d with action := some (← readAction) }
  | 1, d => do pure { d with success := some (← Reader.textBool) }
  | 2, d => do pure { d with message := some (← Reader.textString) }
  | 3, d => do pure { d with sentAt := some (← readTime parseTime) }
  | 4, d => do pure { d with parameters := some (← Reader.textString) }
  | 5, d => do pure { d with error := ← Reader.textOptional readErrorKind }
  | 6, d => do pure { d with bookingId := ← Reader.textOptional readBookingId }
  | 7, d => do pure { d with count := ← Reader.textOptional readCountField }
  | 8, d => do pure { d with released := ← Reader.textOptional readSlotRef }
  | 9, d => do pure { d with entry := ← Reader.textOptional readEntry }
  | _, d => do pure { d with port := ← Reader.textOptional readRoom }

/-- The response of a complete draft, with its time of sending; a missing required field
is refused, the first in declaration order. -/
def ResponseDraft.finish (d : ResponseDraft τ) : Except ShapeFault (Response × τ) := do
  let action ← need "action" d.action
  let success ← need "success" d.success
  let message ← need "message" d.message
  let sentAt ← need "timestamp" d.sentAt
  let parameters ← need "parameters" d.parameters
  pure (⟨action, success, message, parameters, d.error, d.bookingId, d.count, d.released,
    d.entry, d.port⟩, sentAt)

/-- Reads a response from text, with its time of sending read by `parseTime`. -/
def readResponse (parseTime : String → Except String τ) : Reader (Response × τ) :=
  Reader.textRecord responseShape (responseStep parseTime) {} ResponseDraft.finish

end Wire

end CampusBooking
