import CampusBooking.Fault
import CampusBooking.Text.Blank
import CampusBooking.Text.Digits

/-!
# Timeslots

A timeslot is a range of minutes within one day, from a start to a later end, both
before midnight.  It is written `H:MM-H:MM` (the hour unpadded, the minutes in two
digits) and read from that form with an optional leading zero on each hour and blanks
around the whole and around each clock time.  Timeslots are ordered by start, then end.

A list of timeslots is written with commas; blank pieces are skipped and the list must
hold at least one slot.
-/

namespace CampusBooking

/-- Minutes in a day. -/
def minutesPerDay : Nat := 24 * 60

/-- A range of minutes within a day. -/
structure Timeslot where
  /-- Minutes after midnight at which the slot starts. -/
  start : Nat
  /-- Minutes after midnight at which the slot ends. -/
  stop : Nat
  start_lt_stop : start < stop
  stop_lt : stop < minutesPerDay
  deriving DecidableEq

namespace Timeslot

/-- Timeslots compare by start, then by end. -/
protected def compare (a b : Timeslot) : Ordering :=
  (compare a.start b.start).then (compare a.stop b.stop)

instance : Ord Timeslot := ⟨Timeslot.compare⟩

/-- `a` comes before `b`: it starts earlier, or starts together and ends earlier. -/
def before (a b : Timeslot) : Bool :=
  a.start < b.start || (a.start == b.start && a.stop < b.stop)

/-- A clock time as written: the hour, a colon and the minutes in two digits. -/
def clockText (h m : Nat) : String := Text.decimal h ++ ":" ++ Text.padded 2 m

/-- `H:MM-H:MM`. -/
protected def toString (t : Timeslot) : String :=
  clockText (t.start / 60) (t.start % 60) ++ "-" ++ clockText (t.stop / 60) (t.stop % 60)

instance : ToString Timeslot := ⟨Timeslot.toString⟩

/-- Minutes after midnight of a clock time, if the hour is at most 23 and the minutes at
most 59. -/
def minutesOf (h m : Nat) : Except Fault Nat :=
  if h > 23 ∨ m > 59 then .error (.invalidArgument ("Invalid time " ++ clockText h m))
  else .ok (h * 60 + m)

/-- The slot from `sh:sm` to `eh:em`; both times must be valid and the start earlier. -/
def make (sh sm eh em : Nat) : Except Fault Timeslot := do
  let start ← minutesOf sh sm
  let stop ← minutesOf eh em
  if h : start < stop ∧ stop < minutesPerDay then
    pure ⟨start, stop, h.1, h.2⟩
  else
    throw (.invalidArgument ("Timeslot must end after it starts (" ++ clockText sh sm ++ "-" ++
      clockText eh em ++ ")"))

/-- The text before and after the first occurrence of `sep`, if it occurs. -/
def splitFirst (sep : Char) (cs : List Char) : Option (List Char × List Char) :=
  match cs.findIdx? (· == sep) with
  | some i => some (cs.take i, cs.drop (i + 1))
  | none => none

/-- Reads a clock time: one or two digits, a colon and exactly two digits. -/
def readClock (cs : List Char) : Option (Nat × Nat) := do
  let (h, m) ← splitFirst ':' cs
  if h.isEmpty ∨ h.length > 2 ∨ m.length ≠ 2 ∨ !Text.allDigits h ∨ !Text.allDigits m then
    none
  else
    some (Text.decimalValue h, Text.decimalValue m)

/-- Reads `H:MM-H:MM`, splitting at the first `-` and trimming each side. -/
def parse (s : String) : Except Fault Timeslot :=
  let invalid : Fault := .invalidArgument ("Invalid timeslot '" ++ s ++ "', must look like 9:30-10:00")
  match splitFirst '-' (Text.trimList s.toList) with
  | none => .error invalid
  | some (a, b) =>
    match readClock (Text.trimList a), readClock (Text.trimList b) with
    | some (sh, sm), some (eh, em) => make sh sm eh em
    | _, _ => .error invalid

/-- Reads a comma-separated list, skipping blank pieces; the list may not be empty. -/
def parseList (s : String) : Except Fault (List Timeslot) := do
  let pieces := (s.splitOn ",").map Text.trim |>.filter (· ≠ "")
  let slots ← pieces.mapM parse
  if slots.isEmpty then throw (.invalidArgument "Empty list of timeslots")
  pure slots

/-- A list of slots as written in messages: `[9:00-9:30, 9:30-10:00]`. -/
def listText (slots : List Timeslot) : String :=
  "[" ++ ", ".intercalate (slots.map Timeslot.toString) ++ "]"

example : (parse " 09:30 - 10:00 ").toOption.map Timeslot.toString = some "9:30-10:00" := by
  decide +kernel

end Timeslot

end CampusBooking
