import CampusBooking.Calendar.Date
import CampusBooking.Identity

/-!
# The weekly ledger

The ledger counts the bookings of each student per date, so that the bookings of a week
can be summed.  It holds one entry per (student, date), in the order the entries were
first made, and each count is a 32-bit word:

* `increment` adds one booking; a count at `2 ^ 32 - 1` wraps around to zero, and its
  entry stays;
* `decrement` removes one, and says whether there was one to remove: a missing entry and
  a count of zero are refused alike, and an entry that reaches zero is dropped;
* `weeklyCount` sums the bookings of a student dated in the seven days that end on an
  anchor date, again in 32-bit words.

The week of an anchor starts six days before it.  For the first six days of the calendar
that day does not exist; asking for the week of such an anchor halts the program, but only
when the student holds some booking, because a student without entries is answered zero
without looking at the week.
-/

namespace CampusBooking

/-- Why the program stops instead of answering. -/
inductive Halt where
  /-- The week that ends on the anchor starts before the first day of the calendar. -/
  | weekWindow (anchor : Date)
  deriving DecidableEq

/-- Bookings per student and date. -/
structure Ledger where
  /-- One entry per (student, date) with its count. -/
  entries : List ((UserId × Date) × UInt32)
  deriving DecidableEq

namespace Ledger

/-- The ledger with no bookings. -/
def empty : Ledger := ⟨[]⟩

/-- Adds one to the count of a key, or makes an entry of one. -/
def bump (k : UserId × Date) : List ((UserId × Date) × UInt32) → List ((UserId × Date) × UInt32)
  | [] => [(k, 1)]
  | (k', n) :: rest => if k' = k then (k', n + 1) :: rest else (k', n) :: bump k rest

/-- Takes one from the count of a key, dropping an entry that reaches zero; `none` when
the key has no entry or its count is zero. -/
def drop (k : UserId × Date) : List ((UserId × Date) × UInt32) → Option (List ((UserId × Date) × UInt32))
  | [] => none
  | (k', n) :: rest =>
    if k' = k then
      if n = 0 then none else some (if n = 1 then rest else (k', n - 1) :: rest)
    else ((k', n) :: ·) <$> drop k rest

/-- Records one more booking of a student on a date. -/
def increment (l : Ledger) (student : UserId) (date : Date) : Ledger :=
  ⟨bump (student, date) l.entries⟩

/-- Removes one booking of a student on a date; `false`, and no change, when there is none. -/
def decrement (l : Ledger) (student : UserId) (date : Date) : Ledger × Bool :=
  match drop (student, date) l.entries with
  | some entries => (⟨entries⟩, true)
  | none => (l, false)

/-- The count of a student on a date, as a number. -/
def count (l : Ledger) (student : UserId) (date : Date) : Nat :=
  match l.entries.find? (·.1 == (student, date)) with
  | some (_, n) => n.toNat
  | none => 0

/-- Whether a student holds any booking. -/
def holds (l : Ledger) (student : UserId) : Bool :=
  l.entries.any (·.1.1 == student)

/-- The bookings of a student dated from `first` to `last`, as a 32-bit sum. -/
def countBetween (l : Ledger) (student : UserId) (first last : Date) : UInt32 :=
  l.entries.foldl (fun acc e =>
    if e.1.1 = student ∧ first ≤ e.1.2 ∧ e.1.2 ≤ last then acc + e.2 else acc) 0

/-- The bookings of a student in the seven days that end on `anchor`. -/
def weeklyCount (l : Ledger) (student : UserId) (anchor : Date) : Except Halt UInt32 :=
  if l.holds student then
    match anchor.weekStart? with
    | some first => .ok (l.countBetween student first anchor)
    | none => .error (.weekWindow anchor)
  else .ok 0

end Ledger

end CampusBooking
