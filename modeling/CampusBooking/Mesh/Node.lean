import CampusBooking.Mesh.Cluster
import CampusBooking.Mesh.Tally

/-!
# How a campus node handles a request

A node serves its own campus.  A request about another campus is forwarded to that
campus's node, but only when a client asked: a node never forwards what another node
sent it.  A booking at the node's own campus first checks that the slot is free, then
asks the other campuses how many bookings the student holds in that week, and books
when all of them together stay under the quota.

A change of reservation cancels the old booking, then books the new slot.  When the new
booking fails, the old slot is booked again, unless the new booking's outcome is unknown
(no reply came in time); what could not be put back is reported as a partial failure.

Every response echoes the action and the parameters of the request it answers.

Calls nest at most three deep: a client's request, the booking forwarded to its campus,
and that campus's questions to the others.  `handle` counts the depth it may still go to;
`Node.depth` is enough for every request.
-/

namespace CampusBooking

/-- A call over the link: the target campus, the request, and how long to wait. -/
abbrev Link := Campus → Request → Nat → ClusterM (Except NetFault Response)

namespace Node

open Cluster

/-- A success without parameters; `handle` fills them in. -/
def ok (a : Action) (message : String) : Response := Response.ok a message ""

/-- A failure without parameters; `handle` fills them in. -/
def fail (a : Action) (k : ErrorKind) (message : String) : Response := Response.fail a k message ""

/-- The response to a refusal of the store. -/
def storeFailure (a : Action) (f : Fault) : Response :=
  let message := match f with
    | .notFound d => d
    | .alreadyBooked s => "Unable to book room, timeslot (" ++ s ++ ") has already been booked"
    | .quotaExceeded _ => "Unable to book room, maximum booking limit is reached"
    | f => f.message
  fail a (ErrorKind.ofFault f) message

/-- Clients may only act for students. -/
def rejectNonStudent (a : Action) (ch : Channel) (u : UserId) : Option Response :=
  if ch = .client ∧ u.isStudent = false then
    some (fail a .invalidArgument ("Identifier (" ++ u.toString ++ ") is not a student"))
  else none

/-- Asks one campus for a count and records its answer, or that it gave none. -/
def askOne (link : Link) (req : Request) (wait : Nat) (t : Tally) (c : Campus) : ClusterM Tally := do
  let count := match ← link c req wait with
    | .ok r => if r.success then r.count else none
    | .error _ => none
  pure (t.insert c count)

/-- Asks each other campus, in campus order, for a count. -/
def askPeers (link : Link) (own : Campus) (req : Request) : ClusterM Tally := do
  let wait := (← get).peerTimeout
  own.peers.foldlM (askOne link req wait) Tally.empty

/-- Hands a request on to the node of its campus, for clients only. -/
def forward (link : Link) (own : Campus) (ch : Channel) (target : Campus) (req : Request) :
    ClusterM Response := do
  if ch = .interNode then
    pure (fail req.action .unsupported (own.code ++ " does not serve campus " ++ target.code))
  else
    match ← link target req (← get).forwardTimeout with
    | .ok r => pure r
    | .error (.timeout t) =>
      pure (fail req.action .outcomeUnknown ("No reply from " ++ target.code ++ " server within " ++
        durationText t ++ ", the request may have been applied"))
    | .error e =>
      pure (fail req.action .peerUnreachable ("Unable to reach " ++ target.code ++ " server: " ++
        e.message))

def createRoom (own : Campus) (room : UInt16) (date : Date) (slots : List Timeslot) :
    ClusterM Response := do
  if slots.isEmpty then return fail .createRoom .invalidArgument "List of timeslots is empty"
  let (s, outcome) := (← storeOf own).createRoom room date slots
  setStore own s
  pure <| match outcome with
    | .created => ok .createRoom ("Created room (" ++ Text.decimal room.toNat ++ ")")
    | .extended _ => ok .createRoom ("Added timeslots to room (" ++ Text.decimal room.toNat ++ ")")
    | .unchanged => fail .createRoom .alreadyExists "Room already exists with the specified timeslots"

def deleteRoom (own : Campus) (room : UInt16) (date : Date) (slots : List Timeslot) :
    ClusterM Response := do
  let (s, removed) := (← storeOf own).deleteRoom room date slots
  setStore own s
  pure <| if removed = 0 then
      fail .deleteRoom .notFound ("No timeslots to delete on (" ++ date.toString ++ ")")
    else ok .deleteRoom ("Removed timeslots from room (" ++ Text.decimal room.toNat ++ ")")

/-- Books a slot of the node's own campus. -/
def bookHere (link : Link) (own : Campus) (u : UserId) (room : UInt16) (date : Date)
    (slot : Timeslot) : ClusterM Response := do
  match (← storeOf own).checkBookable room date slot with
  | .error f => pure (storeFailure .bookRoom f)
  | .ok () =>
    let peers ← askPeers link own (.bookingCount u date)
    let w ← get
    match ← orHalt ((w.stores own).commit u room date slot peers.total w.quota (w.ids w.drawn)) with
    | .error f => pure (storeFailure .bookRoom f)
    | .ok (s, b) =>
      setStore own s
      modify fun w => { w with drawn := w.drawn + 1 }
      pure { ok .bookRoom ("Timeslot (" ++ slot.toString ++ ") has been booked | Booking ID: " ++
        b.toString) with bookingId := some b }

/-- Books a slot, here or at its campus. -/
def bookRoom (link : Link) (own : Campus) (ch : Channel) (u : UserId) (t : SlotRef) :
    ClusterM Response :=
  if t.campus = own then bookHere link own u t.room t.date t.slot
  else forward link own ch t.campus (.bookRoom u t)

/-- Cancels a booking, here or at its campus. -/
def cancelBooking (link : Link) (own : Campus) (ch : Channel) (u : UserId) (b : BookingId) :
    ClusterM Response := do
  if b.campus ≠ own then forward link own ch b.campus (.cancelBooking u b)
  else
    match (← storeOf own).cancel u b with
    | .ok (s, released) =>
      setStore own s
      pure { ok .cancelBooking ("Cancelled booking (" ++ b.toString ++ ")") with
        released := some released }
    | .error f => pure (storeFailure .cancelBooking f)

/-- Moves a booking: cancel, book, and put the old slot back if the booking failed. -/
def changeReservation (link : Link) (own : Campus) (u : UserId) (old : BookingId) (t : SlotRef) :
    ClusterM Response := do
  let a := Action.changeReservation
  let cancelled ← cancelBooking link own .client u old
  if !cancelled.success then
    return fail a (cancelled.error.getD .peerUnreachable) cancelled.message
  let booked ← bookRoom link own .client u t
  if booked.success then
    if let some b := booked.bookingId then
      return { ok a ("Cancelled booking (" ++ old.toString ++ ") and booked timeslot (" ++
        t.slot.toString ++ ") | Booking ID: " ++ b.toString) with bookingId := some b }
  if booked.error = some .outcomeUnknown then
    return fail a .partiallyFailed ("Cancelled booking (" ++ old.toString ++
      ") but the new booking could not be confirmed: " ++ booked.message)
  match cancelled.released with
  | none =>
    pure (fail a .partiallyFailed ("Cancelled booking (" ++ old.toString ++
      ") but unable to book new timeslot: " ++ booked.message))
  | some former =>
    let restored ← bookRoom link own .client u former
    match restored.success, restored.bookingId with
    | true, some r =>
      pure { fail a (booked.error.getD .peerUnreachable) ("Unable to change reservation: " ++
        booked.message ++ " | Original timeslot restored | Booking ID: " ++ r.toString) with
        bookingId := some r }
    | _, _ =>
      pure (fail a .partiallyFailed ("Unable to change reservation: " ++ booked.message ++
        " | Booking (" ++ old.toString ++ ") was cancelled and could not be restored: " ++
        restored.message))

/-- The free slots of a date on every campus. -/
def availableEverywhere (link : Link) (own : Campus) (date : Date) : ClusterM Response := do
  let here := ((← storeOf own).availableCount date).toUInt32
  let t ← askPeers link own (.availableHere date)
  pure (ok .getAvailableTimeSlot (t.insert own (some here)).text)

/-- The free slots of a date here. -/
def availableHere (own : Campus) (date : Date) : ClusterM Response := do
  let n := ((← storeOf own).availableCount date).toUInt32
  pure { ok .getAvailableTimeslots (Text.decimal n.toNat) with count := some n }

/-- The bookings of a student here in the week that ends on a date. -/
def bookingCount (own : Campus) (u : UserId) (date : Date) : ClusterM Response := do
  let n ← orHalt ((← storeOf own).weeklyCount u date)
  pure { ok .getBookingCount (Text.decimal n.toNat) with count := some n }

/-- What a node answers, before the echo of the request is filled in. -/
def dispatch (link : Link) (own : Campus) (ch : Channel) (req : Request) : ClusterM Response :=
  match ch, req with
  | .client, .createRoom room date slots => createRoom own room date slots
  | .client, .deleteRoom room date slots => deleteRoom own room date slots
  | .interNode, .createRoom .. =>
    pure (fail .createRoom .unsupported "Create Room not supported through inter-node channel")
  | .interNode, .deleteRoom .. =>
    pure (fail .deleteRoom .unsupported "Delete Room not supported through inter-node channel")
  | ch, .bookRoom u t =>
    match rejectNonStudent .bookRoom ch u with
    | some r => pure r
    | none => bookRoom link own ch u t
  | ch, .cancelBooking u b =>
    match rejectNonStudent .cancelBooking ch u with
    | some r => pure r
    | none => cancelBooking link own ch u b
  | .client, .changeReservation u b t =>
    match rejectNonStudent .changeReservation .client u with
    | some r => pure r
    | none => changeReservation link own u b t
  | .client, .availableEverywhere date => availableEverywhere link own date
  | .interNode, .availableHere date => availableHere own date
  | .interNode, .bookingCount u date => bookingCount own u date
  | _, .unrecognized => pure (fail .unrecognized .unsupported "Unrecognized action")
  | ch, req => pure (fail req.action .unsupported
      (req.action.name ++ " not supported through " ++ ch.name ++ " channel"))

/-- A call over the link from `src`: the first rule that applies decides a failure;
otherwise a running target handles the request as sent by a node. -/
def deliver (h : Campus → Channel → Request → ClusterM Response) (src : Campus) : Link :=
  fun dst req wait => do
    let w ← get
    match LinkRule.failureOf w.rules src dst req.action with
    | some .unreachable => pure (.error (.unreachable dst.code))
    | some .timeout => pure (.error (.timeout wait))
    | some .decline =>
      pure (.ok (Response.fail req.action .unsupported (dst.code ++ " refused") req.parameters))
    | none =>
      if dst ∈ w.up then pure (.ok (← h dst .interNode req))
      else pure (.error (.unreachable dst.code))

/-- How deep calls may nest below a client's request. -/
def depth : Nat := 3

end Node

/-- Handles a request at the node of campus `own`, with calls nested at most `depth`
deep.  The response echoes the request's action and parameters. -/
def handle : Nat → Campus → Channel → Request → ClusterM Response
  | 0, _, _, req =>
    pure (Response.fail req.action .peerUnreachable "Calls nested too deeply" req.parameters)
  | depth + 1, own, ch, req => do
    let r ← Node.dispatch (Node.deliver (handle depth) own) own ch req
    pure { r with action := req.action, parameters := req.parameters }

end CampusBooking
