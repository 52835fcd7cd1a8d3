import CampusBooking.Calendar.Date
import CampusBooking.Identity
import CampusBooking.Timeslot
import CampusBooking.Uuid

/-!
# Bookings

A booking id is a UUID prefixed with the code of the campus that owns the booked slot,
as in `KKL:ce612356-db1f-4523-8c8b-c35bff35ebd0`.  It is read after trimming, splitting
at the first colon; the campus part is read like any campus code and the rest must be a
UUID form with nothing around it.

A booked slot holds a `Booking`: the student and the booking id.  A `SlotRef` names a
slot on a campus: campus, room, date and timeslot.
-/

namespace CampusBooking

/-- A booking id: the owning campus and a UUID. -/
structure BookingId where
  campus : Campus
  uuid : Uuid
  deriving DecidableEq, Repr

namespace BookingId

/-- `CODE:uuid`. -/
protected def toString (b : BookingId) : String := b.campus.code ++ ":" ++ b.uuid.toString

instance : ToString BookingId := ⟨BookingId.toString⟩

/-- Reads `campus:uuid`, trimming the whole and the campus part. -/
def parse (s : String) : Except Fault BookingId :=
  let invalid : Fault := .invalidArgument ("Invalid booking ID '" ++ s ++
    "' (ie. KKL:ce612356-db1f-4523-8c8b-c35bff35ebd0)")
  match Timeslot.splitFirst ':' (Text.trimList s.toList) with
  | none => .error invalid
  | some (c, u) =>
    match Campus.parse (String.ofList c), Uuid.parse? (String.ofList u) with
    | .ok campus, some uuid => .ok ⟨campus, uuid⟩
    | _, _ => .error invalid

end BookingId

/-- What a booked slot holds. -/
structure Booking where
  student : UserId
  id : BookingId
  deriving DecidableEq, Repr

/-- A slot on a campus. -/
structure SlotRef where
  campus : Campus
  room : UInt16
  date : Date
  slot : Timeslot
  deriving DecidableEq

/-- `CODE room R on DATE at SLOT`. -/
protected def SlotRef.toString (r : SlotRef) : String :=
  r.campus.code ++ " room " ++ Text.decimal r.room.toNat ++ " on " ++ r.date.toString ++ " at " ++
    r.slot.toString

instance : ToString SlotRef := ⟨SlotRef.toString⟩

end CampusBooking
