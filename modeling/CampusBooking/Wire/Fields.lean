import CampusBooking.Json.Shape
import CampusBooking.Json.Write
import CampusBooking.Booking
import CampusBooking.Identity

/-!
# JSON forms of the reservation values

Campuses, user ids, timeslots and booking ids travel as strings in the text that their
`toString` gives, and are read back by their parsers, so a refused string is refused in
the parser's words.  Dates travel as their calendar text, rooms as unsigned 16-bit
numbers, and the service kinds and roles as the names of their variants.  A slot and a
booking are records of these.
-/

namespace CampusBooking
namespace Wire

open Json

/-- A value of the domain read from a string by its parser. -/
def parsed [ShapeReader m] (parse : String → Except Fault α) : m α :=
  ShapeReader.convert fun s => (parse s).mapError Fault.message

/-- Fails a draft that lacks a required field. -/
def need (name : String) : Option α → Except ShapeFault α
  | some a => .ok a
  | none => .error (.missingField name)

section Readers

variable {m : Type → Type} [ShapeReader m]

def readCampus : m Campus := parsed Campus.parse

def readUserId : m UserId := parsed UserId.parse

def readTimeslot : m Timeslot := parsed Timeslot.parse

def readBookingId : m BookingId := parsed BookingId.parse

def readDate : m Date := ShapeReader.date

/-- A room number. -/
def readRoom : m UInt16 := do
  pure (← ShapeReader.word "u16" 65535).toUInt16

/-- The names of the service kinds, each older name after its current one. -/
def serviceKindNames : Variants :=
  ⟨[("directory", 0), ("web", 0), ("inter-node", 1), ("udp", 1)], none⟩

def readServiceKind : m ServiceKind := do
  pure (if (← ShapeReader.variant serviceKindNames) = 0 then .directory else .interNode)

def roleNames : Variants := ⟨[("Admin", 0), ("Student", 1)], none⟩

def readRole : m Role := do
  pure (if (← ShapeReader.variant roleNames) = 0 then .admin else .student)

/-- The fields of a slot, in declaration order. -/
def slotRefShape : RecordShape :=
  ⟨"struct SlotRef", [("campus", false), ("room", false), ("date", false), ("slot", false)]⟩

/-- A slot read so far. -/
structure SlotRefDraft where
  campus : Option Campus := none
  room : Option UInt16 := none
  date : Option Date := none
  slot : Option Timeslot := none

def slotRefStep : Nat → SlotRefDraft → m SlotRefDraft
  | 0, d => do pure { d with campus := some (← readCampus) }
  | 1, d => do pure { d with room := some (← readRoom) }
  | 2, d => do pure { d with date := some (← readDate) }
  | _, d => do pure { d with slot := some (← readTimeslot) }

def SlotRefDraft.finish (d : SlotRefDraft) : Except ShapeFault SlotRef := do
  pure ⟨← need "campus" d.campus, ← need "room" d.room, ← need "date" d.date,
    ← need "slot" d.slot⟩

def readSlotRef : m SlotRef :=
  ShapeReader.record slotRefShape slotRefStep {} SlotRefDraft.finish

def bookingShape : RecordShape := ⟨"struct Booking", [("student_id", false), ("booking_id", false)]⟩

def readBooking : m Booking :=
  ShapeReader.record bookingShape
    (fun i (d : Option UserId × Option BookingId) =>
      if i = 0 then do pure (some (← readUserId), d.2) else do pure (d.1, some (← readBookingId)))
    (none, none)
    (fun d => do pure ⟨← need "student_id" d.1, ← need "booking_id" d.2⟩)

end Readers

end Wire

/-! ## Writing -/

open Json

def Campus.toJson (c : Campus) : Value := .str c.code

def ServiceKind.toJson (k : ServiceKind) : Value := .str k.name

def Date.toJson (d : Date) : Value := .str d.toString

def Timeslot.toJson (t : Timeslot) : Value := .str t.toString

/-- A room number. -/
def Wire.roomJson (r : UInt16) : Value := .nat r.toNat

def SlotRef.toJson (r : SlotRef) : Value :=
  .obj [("campus", Campus.toJson r.campus), ("room", Wire.roomJson r.room),
    ("date", Date.toJson r.date), ("slot", Timeslot.toJson r.slot)]

def Booking.toJson (b : Booking) : Value :=
  .obj [("student_id", .str b.student.toString), ("booking_id", .str b.id.toString)]

end CampusBooking
