import CampusBooking.Store.Ledger
import CampusBooking.Booking
import CampusBooking.Fault

/-!
# The reservation store of a campus

A campus holds rooms; a room is opened per date and holds timeslots, each free or held
by a booking.  Beside the rooms the store keeps an index from each booking id to the
slot that holds it, and the weekly ledger of its students.

* `createRoom` opens a room on a date or adds timeslots to it; a room, once opened,
  stays open even when all of its timeslots are removed.
* `deleteRoom` removes timeslots, releasing the bookings they held.
* `commit` books a free slot when the student's bookings in the week of the date, here
  and on the other campuses, stay under the limit; the sum is taken in 32-bit words.
* `cancel` releases a booking of its own student.

The checks of `commit` come in a fixed order: the room, the timeslot, that it is free,
then the quota.  An operation that refuses changes nothing.
-/

namespace CampusBooking

/-- The timeslots of a room on a date, in time order, each with what holds it. -/
structure Room where
  slots : List (Timeslot × Option Booking)
  deriving DecidableEq

namespace Room

/-- The room with no timeslots. -/
def empty : Room := ⟨[]⟩

/-- What a timeslot of the room holds, if the room has the timeslot. -/
def find? (r : Room) (t : Timeslot) : Option (Option Booking) :=
  (r.slots.find? (·.1 = t)).map (·.2)

/-- Inserts a free timeslot into slots in time order. -/
def insertFree (t : Timeslot) : List (Timeslot × Option Booking) → List (Timeslot × Option Booking)
  | [] => [(t, none)]
  | (u, b) :: rest =>
    if Timeslot.before t u then (t, none) :: (u, b) :: rest else (u, b) :: insertFree t rest

/-- Adds a free timeslot if the room does not have it; says whether it was added. -/
def add (r : Room) (t : Timeslot) : Room × Bool :=
  match r.find? t with
  | some _ => (r, false)
  | none => (⟨insertFree t r.slots⟩, true)

/-- Removes a timeslot, giving what it held if the room had it. -/
def remove (r : Room) (t : Timeslot) : Room × Option (Option Booking) :=
  (⟨r.slots.filter (·.1 ≠ t)⟩, r.find? t)

/-- Sets what a timeslot holds. -/
def set (r : Room) (t : Timeslot) (b : Option Booking) : Room :=
  ⟨r.slots.map fun e => if e.1 = t then (t, b) else e⟩

/-- The number of free timeslots. -/
def freeCount (r : Room) : Nat := (r.slots.filter (·.2.isNone)).length

end Room

/-- How `createRoom` changed a room. -/
inductive CreateOutcome where
  /-- The room was opened. -/
  | created
  /-- The room was open and gained this many timeslots. -/
  | extended (added : Nat)
  /-- Nothing changed. -/
  | unchanged
  deriving DecidableEq, Repr

/-- Whether the outcome changed the store. -/
def CreateOutcome.changed : CreateOutcome → Bool
  | .unchanged => false
  | _ => true

/-- Where a booking lies within its campus. -/
structure SlotKey where
  date : Date
  room : UInt16
  slot : Timeslot
  deriving DecidableEq

/-- The reservations of one campus. -/
structure Store where
  campus : Campus
  /-- The open rooms, by date and room number. -/
  rooms : List ((Date × UInt16) × Room)
  /-- Where each booking lies. -/
  index : List (BookingId × SlotKey)
  ledger : Ledger
  deriving DecidableEq

namespace Store

/-- A campus with no rooms. -/
def empty (campus : Campus) : Store := ⟨campus, [], [], .empty⟩

/-- The room open under a number on a date. -/
def room? (s : Store) (date : Date) (room : UInt16) : Option Room :=
  (s.rooms.find? (·.1 = (date, room))).map (·.2)

/-- Replaces an open room. -/
def putRoom (s : Store) (date : Date) (room : UInt16) (r : Room) : Store :=
  { s with rooms := s.rooms.map fun e => if e.1 = (date, room) then ((date, room), r) else e }

/-- Where a booking lies, by the index. -/
def locate? (s : Store) (b : BookingId) : Option SlotKey :=
  (s.index.find? (·.1 = b)).map (·.2)

/-- The refusal of a timeslot that is not open on a date. -/
def slotMissing (date : Date) (t : Timeslot) : Fault :=
  .notFound ("Timeslot (" ++ t.toString ++ ") does not exist on (" ++ date.toString ++ ")")

/-- Adds timeslots to a room, counting the new ones. -/
def addAll (r : Room) : List Timeslot → Room × Nat
  | [] => (r, 0)
  | t :: ts =>
    let (r, added) := r.add t
    let (r, n) := addAll r ts
    (r, n + if added then 1 else 0)

/-- Opens a room on a date, or adds timeslots to it. -/
def createRoom (s : Store) (room : UInt16) (date : Date) (slots : List Timeslot) :
    Store × CreateOutcome :=
  match s.room? date room with
  | none =>
    let (r, _) := addAll Room.empty slots
    ({ s with rooms := s.rooms ++ [((date, room), r)] }, .created)
  | some r =>
    let (r, added) := addAll r slots
    (s.putRoom date room r, if added = 0 then .unchanged else .extended added)

/-- Removes timeslots from a room, releasing their bookings; counts the removed ones. -/
def removeAll (s : Store) (room : UInt16) (date : Date) (r : Room) :
    List Timeslot → Store × Room × Nat
  | [] => (s, r, 0)
  | t :: ts =>
    let (r, held) := r.remove t
    let (s, gone) : Store × Nat := match held with
      | some (some b) =>
        ({ s with index := s.index.filter (·.1 ≠ b.id),
                  ledger := (s.ledger.decrement b.student date).1 }, 1)
      | some none => (s, 1)
      | none => (s, 0)
    let (s, r, n) := removeAll s room date r ts
    (s, r, n + gone)

/-- Removes timeslots from a room on a date; nothing when the room is not open. -/
def deleteRoom (s : Store) (room : UInt16) (date : Date) (slots : List Timeslot) : Store × Nat :=
  match s.room? date room with
  | none => (s, 0)
  | some r =>
    let (s, r, n) := removeAll s room date r slots
    (s.putRoom date room r, n)

/-- Whether a slot is open and free. -/
def checkBookable (s : Store) (room : UInt16) (date : Date) (t : Timeslot) : Except Fault Unit :=
  match (s.room? date room).bind (·.find? t) with
  | none => .error (slotMissing date t)
  | some (some _) => .error (.alreadyBooked t.toString)
  | some none => .ok ()

/-- The bookings of a student in the week that ends on `anchor`. -/
def weeklyCount (s : Store) (student : UserId) (anchor : Date) : Except Halt UInt32 :=
  s.ledger.weeklyCount student anchor

/-- Books a free slot under the id `fresh`, if the student's week, with `peerTotal` more
bookings elsewhere, is under `limit`. -/
def commit (s : Store) (student : UserId) (room : UInt16) (date : Date) (t : Timeslot)
    (peerTotal limit : UInt32) (fresh : Uuid) : Except Halt (Except Fault (Store × BookingId)) :=
  match s.room? date room with
  | none => .ok (.error (slotMissing date t))
  | some r =>
    match r.find? t with
    | none => .ok (.error (slotMissing date t))
    | some (some _) => .ok (.error (.alreadyBooked t.toString))
    | some none => do
      let held ← s.weeklyCount student date
      if peerTotal + held ≥ limit then pure (.error (.quotaExceeded limit))
      else
        let id : BookingId := ⟨s.campus, fresh⟩
        let s' := { s.putRoom date room (r.set t (some ⟨student, id⟩)) with
          index := s.index ++ [(id, ⟨date, room, t⟩)],
          ledger := s.ledger.increment student date }
        pure (.ok (s', id))

/-- Releases a booking of `student`, giving the slot it held. -/
def cancel (s : Store) (student : UserId) (b : BookingId) : Except Fault (Store × SlotRef) :=
  let missing : Fault := .notFound ("Booking (" ++ b.toString ++ ") does not exist")
  match s.locate? b with
  | none => .error missing
  | some k =>
    match s.room? k.date k.room with
    | none => .error missing
    | some r =>
      match r.find? k.slot with
      | some (some held) =>
        if held.id ≠ b then .error missing
        else if held.student ≠ student then .error (.ownerMismatch b.toString)
        else
          let s' := { s.putRoom k.date k.room (r.set k.slot none) with
            index := s.index.filter (·.1 ≠ b),
            ledger := (s.ledger.decrement student k.date).1 }
          .ok (s', ⟨s.campus, k.room, k.date, k.slot⟩)
      | _ => .error missing

/-- The number of free slots on a date, over all rooms. -/
def availableCount (s : Store) (date : Date) : Nat :=
  ((s.rooms.filter (·.1.1 = date)).map (·.2.freeCount)).foldr (· + ·) 0

/-- What a slot holds, if it is open. -/
def slot? (s : Store) (room : UInt16) (date : Date) (t : Timeslot) : Option (Option Booking) :=
  (s.room? date room).bind (·.find? t)

/-- The timeslots of a room on a date, in time order. -/
def slotsOf (s : Store) (room : UInt16) (date : Date) : List Timeslot :=
  match s.room? date room with
  | some r => r.slots.map (·.1)
  | none => []

end Store

end CampusBooking
