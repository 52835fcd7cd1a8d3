import CampusBooking.Text.Digits

/-!
# Calendar dates

A `Date` is a day of the proleptic Gregorian calendar, counted from 1970-01-01 (day 0).
Representable days run from `-262143-01-01` to `+262142-12-31`; every operation that
would leave that range says so instead of producing a day.

* `Date.ofYmd?` accepts a year, month and day exactly when they name a real day in range.
* `Date.year`, `Date.month`, `Date.day` read the civil form back (`ymd_ofYmd?`).
* `Date.toString` writes `YYYY-MM-DD` for years 0 to 9999, and otherwise a sign and at
  least four year digits, as in `+10000-01-01` and `-0001-12-31`.
* `Date.subDays?` moves back by a number of days and fails below the first day.
-/

namespace CampusBooking

/-- The day number of the civil date `(y, m, d)`, counted from 1970-01-01.  Years are
taken from March, so that the leap day ends a year. -/
def daysFromCivil (y : Int) (m d : Nat) : Int :=
  let y := if m ≤ 2 then y - 1 else y
  let era := y / 400
  let yoe := y - era * 400
  let mp : Int := if m > 2 then (m : Int) - 3 else (m : Int) + 9
  let doy := (153 * mp + 2) / 5 + (d : Int) - 1
  let doe := yoe * 365 + yoe / 4 - yoe / 100 + doy
  era * 146097 + doe - 719468

/-- The civil year, month and day of a day number counted from 1970-01-01. -/
def civilFromDays (z : Int) : Int × Nat × Nat :=
  let z := z + 719468
  let era := z / 146097
  let doe := z - era * 146097
  let yoe := (doe - doe / 1460 + doe / 36524 - doe / 146096) / 365
  let y := yoe + era * 400
  let doy := doe - (365 * yoe + yoe / 4 - yoe / 100)
  let mp := (5 * doy + 2) / 153
  let d := doy - (153 * mp + 2) / 5 + 1
  let m := if mp < 10 then mp + 3 else mp - 9
  (if m ≤ 2 then y + 1 else y, m.toNat, d.toNat)

/-- Whether `y` is a leap year of the Gregorian calendar. -/
def isLeapYear (y : Int) : Bool := y % 4 == 0 && (y % 100 != 0 || y % 400 == 0)

/-- The number of days of month `m` in year `y`. -/
def monthLength (y : Int) (m : Nat) : Nat :=
  match m with
  | 2 => if isLeapYear y then 29 else 28
  | 4 | 6 | 9 | 11 => 30
  | _ => 31

/-- The first representable year. -/
def firstYear : Int := -262143

/-- The last representable year. -/
def lastYear : Int := 262142

/-- The day number of the first representable day, `-262143-01-01`. -/
def firstDay : Int := daysFromCivil firstYear 1 1

/-- The day number of the last representable day, `+262142-12-31`. -/
def lastDay : Int := daysFromCivil lastYear 12 31

/-- A representable day, as its distance in days from 1970-01-01. -/
structure Date where
  /-- Days after 1970-01-01 (negative before it). -/
  epochDay : Int
  /-- Not before the first representable day. -/
  first_le : firstDay ≤ epochDay
  /-- Not after the last representable day. -/
  le_last : epochDay ≤ lastDay
  deriving DecidableEq

namespace Date

/-- The day with the given day number, if it is representable. -/
def ofEpochDay? (n : Int) : Option Date :=
  if h : firstDay ≤ n ∧ n ≤ lastDay then some ⟨n, h.1, h.2⟩ else none

/-- The civil year of a day. -/
def year (d : Date) : Int := (civilFromDays d.epochDay).1

/-- The month (1 to 12) of a day. -/
def month (d : Date) : Nat := (civilFromDays d.epochDay).2.1

/-- The day of the month (1 to 31) of a day. -/
def day (d : Date) : Nat := (civilFromDays d.epochDay).2.2

/-- The day named by a year, month and day, if they name a real representable day. -/
def ofYmd? (y : Int) (m d : Nat) : Option Date :=
  if firstYear ≤ y ∧ y ≤ lastYear ∧ 1 ≤ m ∧ m ≤ 12 ∧ 1 ≤ d ∧ d ≤ monthLength y m then
    ofEpochDay? (daysFromCivil y m d)
  else none

/-- Days are ordered by their day numbers. -/
instance : Ord Date := ⟨fun a b => compare a.epochDay b.epochDay⟩

instance : LT Date := ⟨fun a b => a.epochDay < b.epochDay⟩

instance : LE Date := ⟨fun a b => a.epochDay ≤ b.epochDay⟩

instance (a b : Date) : Decidable (a < b) := inferInstanceAs (Decidable (a.epochDay < b.epochDay))

instance (a b : Date) : Decidable (a ≤ b) := inferInstanceAs (Decidable (a.epochDay ≤ b.epochDay))

/-- The day `n` days earlier, if it is still representable. -/
def subDays? (d : Date) (n : Nat) : Option Date := ofEpochDay? (d.epochDay - n)

/-- The day `n` days later, if it is still representable. -/
def addDays? (d : Date) (n : Nat) : Option Date := ofEpochDay? (d.epochDay + n)

/-- The first day of the seven-day window that ends on `anchor`: six days earlier. -/
def weekStart? (anchor : Date) : Option Date := anchor.subDays? 6

/-- The year as written in a date: four digits for years 0 to 9999, otherwise a sign
and at least four digits. -/
def yearText (y : Int) : String :=
  if 0 ≤ y ∧ y ≤ 9999 then Text.padded 4 y.toNat
  else if y < 0 then "-" ++ Text.padded 4 y.natAbs
  else "+" ++ Text.padded 4 y.toNat

/-- `YYYY-MM-DD`, with the year written by `yearText`. -/
protected def toString (d : Date) : String :=
  yearText d.year ++ "-" ++ Text.padded 2 d.month ++ "-" ++ Text.padded 2 d.day

instance : ToString Date := ⟨Date.toString⟩

theorem subDays?_epochDay {d e : Date} {n : Nat} (h : d.subDays? n = some e) :
    e.epochDay = d.epochDay - n := by
  unfold subDays? ofEpochDay? at h
  split at h
  · cases h; rfl
  · cases h

end Date

example : (Date.ofYmd? 2021 1 8).map Date.toString = some "2021-01-08" := by decide
example : ((Date.ofYmd? 2021 1 8).bind (·.weekStart?)).map Date.toString =
    some "2021-01-02" := by decide
example : (Date.ofYmd? (-1) 12 31).map Date.toString = some "-0001-12-31" := by decide
example : (Date.ofYmd? 10000 1 1).map Date.toString = some "+10000-01-01" := by decide
example : Date.ofYmd? 2021 2 29 = none := by decide
example : ((Date.ofYmd? (-262143) 1 1).bind (·.weekStart?)) = none := by decide

end CampusBooking
