import CampusBooking.Wire.Fields

/-!
# Requests to a campus

A request names its action in the member `action` and carries the fields of that
action beside it.  A request is read in two passes: the first finds the action and keeps
every other member as it was written; the second reads the kept members as the fields
of that action.  An action name that no request has is the unrecognized request, whose
fields are ignored.  Because the second pass reads a kept copy, its refusals name no
place in the text.

A request may also be written as an array: the action first, then the fields in their
order.

`Request.parameters` is the one-line echo of a request that every response carries.
-/

namespace CampusBooking

/-- What a message asks for, echoed in its response. -/
inductive Action where
  | register
  | lookup
  | getAvailablePort
  | getAvailableTimeslots
  | bookRoom
  | cancelBooking
  | getBookingCount
  | createRoom
  | deleteRoom
  | getAvailableTimeSlot
  | changeReservation
  | unrecognized
  deriving DecidableEq, Repr, Inhabited

namespace Action

/-- The name of an action on the wire. -/
def name : Action → String
  | .register => "Register"
  | .lookup => "Lookup"
  | .getAvailablePort => "GetAvailablePort"
  | .getAvailableTimeslots => "GetAvailableTimeslots"
  | .bookRoom => "BookRoom"
  | .cancelBooking => "CancelBooking"
  | .getBookingCount => "GetBookingCount"
  | .createRoom => "CreateRoom"
  | .deleteRoom => "DeleteRoom"
  | .getAvailableTimeSlot => "GetAvailableTimeSlot"
  | .changeReservation => "ChangeReservation"
  | .unrecognized => "Unrecognized"

/-- Every action, in the order of its variants. -/
def all : List Action :=
  [.register, .lookup, .getAvailablePort, .getAvailableTimeslots, .bookRoom, .cancelBooking,
    .getBookingCount, .createRoom, .deleteRoom, .getAvailableTimeSlot, .changeReservation,
    .unrecognized]

/-- The action of a wire name. -/
def ofName? (s : String) : Option Action := all.find? (·.name == s)

end Action

/-- A request to a campus. -/
inductive Request where
  /-- Opens the given timeslots of a room on a date. -/
  | createRoom (room : UInt16) (date : Date) (slots : List Timeslot)
  /-- Removes the given timeslots of a room on a date. -/
  | deleteRoom (room : UInt16) (date : Date) (slots : List Timeslot)
  /-- Books a slot for a student. -/
  | bookRoom (student : UserId) (target : SlotRef)
  /-- The free slots of a date on every campus (asked by a client). -/
  | availableEverywhere (date : Date)
  /-- The free slots of a date on one campus (asked by a peer). -/
  | availableHere (date : Date)
  /-- Cancels a booking of a student. -/
  | cancelBooking (student : UserId) (booking : BookingId)
  /-- Moves a booking of a student to another slot. -/
  | changeReservation (student : UserId) (booking : BookingId) (target : SlotRef)
  /-- The bookings of a student in the week that ends on a date, on one campus. -/
  | bookingCount (student : UserId) (date : Date)
  /-- A request whose action is not one of the above. -/
  | unrecognized
  deriving DecidableEq

namespace Request

/-- The action a request asks for. -/
def action : Request → Action
  | .createRoom .. => .createRoom
  | .deleteRoom .. => .deleteRoom
  | .bookRoom .. => .bookRoom
  | .availableEverywhere _ => .getAvailableTimeSlot
  | .availableHere _ => .getAvailableTimeslots
  | .cancelBooking .. => .cancelBooking
  | .changeReservation .. => .changeReservation
  | .bookingCount .. => .getBookingCount
  | .unrecognized => .unrecognized

/-- The one-line echo of a request's parameters. -/
def parameters : Request → String
  | .createRoom room date slots | .deleteRoom room date slots =>
    "Room number: " ++ Text.decimal room.toNat ++ " | Date: " ++ date.toString ++
      " | List of Timeslots: " ++ Timeslot.listText slots
  | .bookRoom student t =>
    "Identifier: " ++ student.toString ++ " | Campus: " ++ t.campus.code ++ " | Room Number: " ++
      Text.decimal t.room.toNat ++ " | Date: " ++ t.date.toString ++ " | Timeslot: " ++
      t.slot.toString
  | .availableEverywhere date | .availableHere date => "Date: " ++ date.toString
  | .cancelBooking student booking =>
    "Identifier: " ++ student.toString ++ " | Booking Id: " ++ booking.toString
  | .changeReservation student booking t =>
    "Identifier: " ++ student.toString ++ " | Booking Id: " ++ booking.toString ++
      " | New Campus: " ++ t.campus.code ++ " | New Room Number: " ++ Text.decimal t.room.toNat ++
      " | New Date: " ++ t.date.toString ++ " | New Timeslot: " ++ t.slot.toString
  | .bookingCount student date => "Identifier: " ++ student.toString ++ " | Date: " ++ date.toString
  | .unrecognized => "None"

open Json in
/-- The JSON form of a request: the action, then the fields in their order. -/
def toJson (r : Request) : Value :=
  .obj (("action", .str r.action.name) :: match r with
    | .createRoom room date slots | .deleteRoom room date slots =>
      [("room", Wire.roomJson room), ("date", date.toJson), ("slots", .arr (slots.map (·.toJson)))]
    | .bookRoom student t =>
      [("student_id", .str student.toString), ("campus", t.campus.toJson),
        ("room", Wire.roomJson t.room), ("date", t.date.toJson), ("slot", t.slot.toJson)]
    | .availableEverywhere date | .availableHere date => [("date", date.toJson)]
    | .cancelBooking student booking =>
      [("student_id", .str student.toString), ("booking_id", .str booking.toString)]
    | .changeReservation student booking t =>
      [("student_id", .str student.toString), ("booking_id", .str booking.toString),
        ("new_campus", t.campus.toJson), ("new_room", Wire.roomJson t.room),
        ("new_date", t.date.toJson), ("new_slot", t.slot.toJson)]
    | .bookingCount student date => [("student_id", .str student.toString), ("date", date.toJson)]
    | .unrecognized => [])

end Request

namespace Wire

open Json

/-! ## The fields of each action -/

/-- The variants of the action tag, in declaration order; any other name is the
unrecognized request. -/
def requestTags : Variants :=
  ⟨[("CreateRoom", 0), ("DeleteRoom", 1), ("BookRoom", 2), ("GetAvailableTimeSlot", 3),
    ("GetAvailableTimeslots", 4), ("CancelBooking", 5), ("ChangeReservation", 6),
    ("GetBookingCount", 7), ("Unrecognized", 8)], some 8⟩

/-- The record of the fields of a tagged variant. -/
def variantShape (variant : String) (fields : List String) : RecordShape :=
  ⟨"struct variant Request::" ++ variant, fields.map (·, false)⟩

/-- A room, a date and timeslots read so far. -/
structure RoomDraft where
  room : Option UInt16 := none
  date : Option Date := none
  slots : Option (List Timeslot) := none

/-- A student and a slot read so far, under the names of a booking or of a change. -/
structure TargetDraft where
  student : Option UserId := none
  booking : Option BookingId := none
  campus : Option Campus := none
  room : Option UInt16 := none
  date : Option Date := none
  slot : Option Timeslot := none

section Readers

variable {m : Type → Type} [ShapeReader m]

def readRoomFields (variant : String) : m (UInt16 × Date × List Timeslot) :=
  ShapeReader.record (variantShape variant ["room", "date", "slots"])
    (fun i (d : RoomDraft) => match i with
      | 0 => do pure { d with room := some (← readRoom) }
      | 1 => do pure { d with date := some (← readDate) }
      | _ => do pure { d with slots := some (← ShapeReader.list readTimeslot) })
    {}
    (fun d => do pure (← need "room" d.room, ← need "date" d.date, ← need "slots" d.slots))

/-- Reads the slot fields of a target draft. -/
def targetStep (i : Nat) (d : TargetDraft) : m TargetDraft :=
  match i with
  | 0 => do pure { d with campus := some (← readCampus) }
  | 1 => do pure { d with room := some (← readRoom) }
  | 2 => do pure { d with date := some (← readDate) }
  | _ => do pure { d with slot := some (← readTimeslot) }

/-- The slot of a complete draft, its fields named with `pre`. -/
def TargetDraft.target (pre : String) (d : TargetDraft) : Except ShapeFault SlotRef := do
  pure ⟨← need (pre ++ "campus") d.campus, ← need (pre ++ "room") d.room,
    ← need (pre ++ "date") d.date, ← need (pre ++ "slot") d.slot⟩

def readBookRoom : m Request :=
  ShapeReader.record (variantShape "BookRoom" ["student_id", "campus", "room", "date", "slot"])
    (fun i (d : TargetDraft) =>
      if i = 0 then do pure { d with student := some (← readUserId) } else targetStep (i - 1) d)
    {}
    (fun d => do
      let student ← need "student_id" d.student
      pure (.bookRoom student (← d.target "")))

def readChange : m Request :=
  ShapeReader.record (variantShape "ChangeReservation"
      ["student_id", "booking_id", "new_campus", "new_room", "new_date", "new_slot"])
    (fun i (d : TargetDraft) =>
      if i = 0 then do pure { d with student := some (← readUserId) }
      else if i = 1 then do pure { d with booking := some (← readBookingId) }
      else targetStep (i - 2) d)
    {}
    (fun d => do
      let student ← need "student_id" d.student
      let booking ← need "booking_id" d.booking
      pure (.changeReservation student booking (← d.target "new_")))

def readDateOnly (variant : String) : m Date :=
  ShapeReader.record (variantShape variant ["date"])
    (fun _ (_ : Option Date) => do pure (some (← readDate))) none (need "date")

def readCancel : m Request :=
  ShapeReader.record (variantShape "CancelBooking" ["student_id", "booking_id"])
    (fun i (d : Option UserId × Option BookingId) =>
      if i = 0 then do pure (some (← readUserId), d.2) else do pure (d.1, some (← readBookingId)))
    (none, none)
    (fun d => do pure (.cancelBooking (← need "student_id" d.1) (← need "booking_id" d.2)))

def readCount : m Request :=
  ShapeReader.record (variantShape "GetBookingCount" ["student_id", "date"])
    (fun i (d : Option UserId × Option Date) =>
      if i = 0 then do pure (some (← readUserId), d.2) else do pure (d.1, some (← readDate)))
    (none, none)
    (fun d => do pure (.bookingCount (← need "student_id" d.1) (← need "date" d.2)))

end Readers

/-- The fields of the variant with tag index `tag`, read from the kept members. -/
def requestOfTag (tag : Nat) : TreeReader Request :=
  match tag with
  | 0 => do let (r, d, s) ← readRoomFields "CreateRoom"; pure (.createRoom r d s)
  | 1 => do let (r, d, s) ← readRoomFields "DeleteRoom"; pure (.deleteRoom r d s)
  | 2 => readBookRoom
  | 3 => do pure (.availableEverywhere (← readDateOnly "GetAvailableTimeSlot"))
  | 4 => do pure (.availableHere (← readDateOnly "GetAvailableTimeslots"))
  | 5 => readCancel
  | 6 => readChange
  | 7 => readCount
  | _ => do
    -- the unrecognized request ignores every member, and takes no array items
    match ← TreeReader.current with
    | .arr (item :: items) =>
      TreeReader.refuse (.invalidLength (item :: items).length "0 elements in sequence")
    | _ => pure .unrecognized

/-! ## The first pass over the text -/

namespace TaggedText

/-- The members of a tagged object: the tag, and every other member as written. -/
def members (tags : Variants) (first : Bool) (tag : Option Nat) (kept : List (String × Value)) :
    Nat → Reader (Option Nat × List (String × Value))
  | 0 => Reader.failHere .eofWhileParsingObject
  | fuel + 1 => do
    match ← Reader.nextKey first with
    | none => pure (tag, kept)
    | some k =>
      if k = "action" then
        if tag.isSome then Reader.refuse (.duplicateField "action")
        else
          Reader.colon
          let t ← Reader.variantName tags
          members tags false (some t) kept fuel
      else
        Reader.colon
        let v ← Reader.value
        members tags false tag (kept ++ [(k, v)]) fuel

/-- A tagged value: its tag and the kept rest, a list of members or of items. -/
def read (tags : Variants) (expecting : String) : Reader (Nat × Value) := Reader.positioned do
  match ← Reader.skipBlanks with
  | none => Reader.failAhead .eofWhileParsingValue
  | some 123 =>
    Reader.enter
    let r ← Reader.closing (do
        let (tag, kept) ← members tags true none [] ((← get).input.size + 1)
        match tag with
        | some t => pure (t, Value.obj kept)
        | none => Reader.refuse (.missingField "action"))
      Reader.closeObject
    Reader.leave
    pure r
  | some 91 =>
    Reader.enter
    let r ← Reader.closing (do
        if ← Reader.nextItem true then
          let t ← Reader.variantName tags
          pure (t, Value.arr (← Reader.readItems false [] (← Reader.budget)))
        else Reader.refuse (.missingField "action"))
      Reader.closeArray
    Reader.leave
    pure r
  | some _ => Reader.mismatch expecting

end TaggedText

/-- Reads a request from text: the first pass places its refusals, the second does not. -/
def readRequest : Reader Request := do
  let (tag, kept) ← TaggedText.read requestTags "internally tagged enum Request"
  match (requestOfTag tag).run .buffered kept with
  | .ok r => pure r
  | .error f => Reader.refuse f

end Wire

end CampusBooking
