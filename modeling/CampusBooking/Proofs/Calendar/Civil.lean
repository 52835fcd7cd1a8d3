import Mathlib
import CampusBooking.Calendar.Date

/-!
# Day numbers and civil dates

`civilFromDays` and `daysFromCivil` convert between day numbers and civil dates through the
400-year cycle of the Gregorian calendar: an era of 146097 days, cut into years that start
on the 1st of March, so that the leap day ends a year.  Within an era, a day is so many
centuries of 36524 days, four-year blocks of 1461 days and days into its block
(`yearOfEra_of_split`); from that split every bound of the conversion follows by linear
arithmetic.

* The year of the era lies in `0 … 399` and the day of the year in `0 … 365`, the last only in
  a leap year (`yearOfEra_dayOfYear_bounds`).
* Converting back gives the day number again (`daysFromCivil_civilFromDays`), and the civil
  form of a day names a real day: a month from 1 to 12 and a day within the month's length
  (`civilFromDays_valid`).
* The years of the representable days are the representable years, so every `Date` is named
  by its own year, month and day (`Date.ofYmd?_ymd`).
-/

namespace CampusBooking

namespace Civil

/-- The year of the era, counted from a 1st of March, of day `doe` of the era. -/
def yearOfEra (doe : Int) : Int := (doe - doe / 1460 + doe / 36524 - doe / 146096) / 365

/-- The day of the March-based year of day `doe` of the era. -/
def dayOfYear (doe : Int) : Int :=
  doe - (365 * yearOfEra doe + yearOfEra doe / 4 - yearOfEra doe / 100)

/-- The month, counted from March as 0, of day `doy` of a March-based year. -/
def monthOfYear (doy : Int) : Int := (5 * doy + 2) / 153

/-- A day of the era before its last is `f` centuries, `q` four-year blocks and `r` days
into its block; the last day of a block is the fourth year's leap day. -/
theorem yearOfEra_of_split {f q r : Int} (hf : 0 ≤ f) (hf' : f ≤ 3) (hq : 0 ≤ q) (hr : 0 ≤ r)
    (hr' : r ≤ 1460) (hqr : 1461 * q + r ≤ 36523) :
    yearOfEra (36524 * f + 1461 * q + r) = 100 * f + 4 * q + min (r / 365) 3 := by
  unfold yearOfEra
  -- one division at a time: omega cannot relate the four quotients by itself
  have hc : (36524 * f + 1461 * q + r) / 36524 = f := by omega
  have hg : (36524 * f + 1461 * q + r) / 146096 = 0 := by omega
  have he : (36524 * f + 1461 * q + r) / 1460 =
      25 * f + q + (if 24 * f + q + r ≥ 1460 then 1 else 0) := by
    split <;> omega
  rw [hc, hg, he]
  split <;> omega

/-- The year of the era and the day of the year of every day of the era are in range, and
the 366th day of a year falls only before a leap day: the year after it, in which its
February lies, is a multiple of 4, and not of 100 unless it ends the era. -/
theorem yearOfEra_dayOfYear_bounds {doe : Int} (h0 : 0 ≤ doe) (h1 : doe ≤ 146096) :
    0 ≤ yearOfEra doe ∧ yearOfEra doe ≤ 399 ∧ 0 ≤ dayOfYear doe ∧ dayOfYear doe ≤ 365 ∧
      (dayOfYear doe = 365 →
        (yearOfEra doe + 1) % 4 = 0 ∧ ((yearOfEra doe + 1) % 100 ≠ 0 ∨ yearOfEra doe = 399)) := by
  rcases (show doe = 146096 ∨ doe ≤ 146095 by omega) with rfl | hlt
  · -- the last day of the era is the leap day that ends it
    decide
  · obtain ⟨f, q, r, hf, hf', hq, hr, hr', hqr, rfl⟩ : ∃ f q r, 0 ≤ f ∧ f ≤ 3 ∧ 0 ≤ q ∧ 0 ≤ r ∧
        r ≤ 1460 ∧ 1461 * q + r ≤ 36523 ∧ doe = 36524 * f + 1461 * q + r :=
      ⟨doe / 36524, doe % 36524 / 1461, doe % 36524 % 1461, by omega⟩
    have hy := yearOfEra_of_split hf hf' hq hr hr' hqr
    have h4 : (100 * f + 4 * q + min (r / 365) 3) / 4 = 25 * f + q := by omega
    have h100 : (100 * f + 4 * q + min (r / 365) 3) / 100 = f := by omega
    unfold dayOfYear
    rw [hy, h4, h100]
    omega

/-- The pieces of a civil date that every bound below is stated on: day `z` falls on day
`doy` of year `yoe` of era `era`, in month `mp` counted from March. -/
theorem civilFromDays_eq (z : Int) :
    civilFromDays z =
      let era := (z + 719468) / 146097
      let doe := z + 719468 - era * 146097
      let mp := monthOfYear (dayOfYear doe)
      let m := if mp < 10 then mp + 3 else mp - 9
      (if m ≤ 2 then yearOfEra doe + era * 400 + 1 else yearOfEra doe + era * 400, m.toNat,
        (dayOfYear doe - (153 * mp + 2) / 5 + 1).toNat) :=
  rfl

/-- What the pieces of a day number satisfy: the day of the era is in range, it is made of
whole years and the day of its year, and the month is the one whose first day is the last
one on or before that day of the year. -/
theorem era_pieces (z : Int) :
    let era := (z + 719468) / 146097
    let doe := z + 719468 - era * 146097
    let mp := monthOfYear (dayOfYear doe)
    0 ≤ doe ∧ doe ≤ 146096 ∧ z = era * 146097 + doe - 719468 ∧
      doe = 365 * yearOfEra doe + yearOfEra doe / 4 - yearOfEra doe / 100 + dayOfYear doe ∧
      153 * mp ≤ 5 * dayOfYear doe + 2 ∧ 5 * dayOfYear doe + 2 < 153 * mp + 153 := by
  intro era doe mp
  refine ⟨by omega, by omega, by omega, by unfold dayOfYear; omega, ?_, ?_⟩ <;>
    simp only [mp, monthOfYear] <;> omega

/-- A day of the year is at most the length of its month, February's 29th only in a leap
year. -/
theorem day_le_monthLength {doy mp y : Int} (hd0 : 0 ≤ doy) (hd1 : doy ≤ 365)
    (h0 : 153 * mp ≤ 5 * doy + 2) (h1 : 5 * doy + 2 < 153 * mp + 153)
    (hleap : doy = 365 → isLeapYear y = true) :
    (doy - (153 * mp + 2) / 5 + 1).toNat ≤ monthLength y (if mp < 10 then mp + 3 else mp - 9).toNat := by
  generalize hm : (if mp < 10 then mp + 3 else mp - 9).toNat = m
  by_cases h10 : mp < 10
  · -- March to December
    rw [if_pos h10] at hm
    have hcases : m = 3 ∨ m = 4 ∨ m = 5 ∨ m = 6 ∨ m = 7 ∨ m = 8 ∨ m = 9 ∨ m = 10 ∨ m = 11 ∨
        m = 12 := by omega
    rcases hcases with rfl | rfl | rfl | rfl | rfl | rfl | rfl | rfl | rfl | rfl <;>
      simp only [monthLength] <;> omega
  · rw [if_neg h10] at hm
    rcases (show m = 1 ∨ m = 2 by omega) with rfl | rfl
    · simp only [monthLength]
      omega
    · -- February: its 29th day is the 366th day of the March-based year
      simp only [monthLength]
      by_cases hl : isLeapYear y = true
      · simp only [hl, if_true]
        omega
      · have : doy ≠ 365 := fun h => hl (hleap h)
        simp only [hl, Bool.false_eq_true, if_false]
        omega

end Civil

open Civil in
/-- Converting a day number to a civil date and back gives the day number again. -/
theorem daysFromCivil_civilFromDays (z : Int) :
    daysFromCivil (civilFromDays z).1 (civilFromDays z).2.1 (civilFromDays z).2.2 = z := by
  obtain ⟨hdoe0, hdoe1, hz, hdoe, hmp0, hmp1⟩ := era_pieces z
  obtain ⟨hy0, hy1, hd0, hd1, -⟩ := yearOfEra_dayOfYear_bounds hdoe0 hdoe1
  rw [civilFromDays_eq]
  dsimp only
  generalize (z + 719468) / 146097 = era at *
  generalize z + 719468 - era * 146097 = doe at *
  generalize yearOfEra doe = yoe at *
  generalize dayOfYear doe = doy at *
  generalize monthOfYear doy = mp at *
  have hmp : mp ≤ 11 := by omega
  -- the era and the year of the era come back from the March-based year
  have hera : (yoe + era * 400) / 400 = era := by omega
  unfold daysFromCivil
  by_cases h10 : mp < 10
  · simp only [h10, if_true]
    rw [if_neg (by omega), if_neg (by omega), if_pos (by omega)]
    have hm : (((mp + 3).toNat : Nat) : Int) = mp + 3 := by omega
    have hd : (((doy - (153 * mp + 2) / 5 + 1).toNat : Nat) : Int) = doy - (153 * mp + 2) / 5 + 1 := by
      omega
    rw [hm, hd, hera]
    have hmp' : mp + 3 - 3 = mp := by omega
    rw [hmp', Int.add_sub_cancel]
    omega
  · simp only [h10, if_false]
    rw [if_pos (by omega), if_pos (by omega), if_neg (by omega)]
    have hm : (((mp - 9).toNat : Nat) : Int) = mp - 9 := by omega
    have hd : (((doy - (153 * mp + 2) / 5 + 1).toNat : Nat) : Int) = doy - (153 * mp + 2) / 5 + 1 := by
      omega
    have hy : yoe + era * 400 + 1 - 1 = yoe + era * 400 := by omega
    rw [hm, hd, hy, hera]
    have hmp' : mp - 9 + 9 = mp := by omega
    rw [hmp', Int.add_sub_cancel]
    omega

open Civil in
/-- The civil form of every day number names a real day: a month from 1 to 12 and a day
within the length of that month in that year. -/
theorem civilFromDays_valid (z : Int) :
    1 ≤ (civilFromDays z).2.1 ∧ (civilFromDays z).2.1 ≤ 12 ∧ 1 ≤ (civilFromDays z).2.2 ∧
      (civilFromDays z).2.2 ≤ monthLength (civilFromDays z).1 (civilFromDays z).2.1 := by
  obtain ⟨hdoe0, hdoe1, -, -, hmp0, hmp1⟩ := era_pieces z
  obtain ⟨hy0, hy1, hd0, hd1, hleap⟩ := yearOfEra_dayOfYear_bounds hdoe0 hdoe1
  rw [civilFromDays_eq]
  dsimp only
  generalize (z + 719468) / 146097 = era at *
  generalize z + 719468 - era * 146097 = doe at *
  generalize yearOfEra doe = yoe at *
  generalize dayOfYear doe = doy at *
  generalize monthOfYear doy = mp at *
  refine ⟨by split <;> omega, by split <;> omega, by omega, ?_⟩
  apply day_le_monthLength hd0 hd1 hmp0 hmp1
  intro h365
  -- the 366th day is in February, of the year after the March-based one
  obtain ⟨h4, h100⟩ := hleap h365
  rw [if_pos (by split <;> omega)]
  simp only [isLeapYear, Bool.and_eq_true, beq_iff_eq, Bool.or_eq_true, bne_iff_ne, ne_eq]
  omega

theorem firstDay_eq : firstDay = -96465292 := by decide

theorem lastDay_eq : lastDay = 95026236 := by decide

open Civil in
/-- The years of the representable days are the representable years. -/
theorem civilFromDays_year_mem {z : Int} (h1 : firstDay ≤ z) (h2 : z ≤ lastDay) :
    firstYear ≤ (civilFromDays z).1 ∧ (civilFromDays z).1 ≤ lastYear := by
  obtain ⟨hdoe0, hdoe1, hz, hdoe, hmp0, hmp1⟩ := era_pieces z
  obtain ⟨hy0, hy1, hd0, hd1, -⟩ := yearOfEra_dayOfYear_bounds hdoe0 hdoe1
  rw [firstDay_eq] at h1
  rw [lastDay_eq] at h2
  rw [civilFromDays_eq]
  dsimp only
  generalize (z + 719468) / 146097 = era at *
  generalize z + 719468 - era * 146097 = doe at *
  generalize yearOfEra doe = yoe at *
  generalize dayOfYear doe = doy at *
  generalize monthOfYear doy = mp at *
  simp only [firstYear, lastYear]
  constructor <;> split <;> omega

/-- Every date is named by its own year, month and day. -/
theorem Date.ofYmd?_ymd (d : Date) : Date.ofYmd? d.year d.month d.day = some d := by
  obtain ⟨hm1, hm12, hd1, hdl⟩ := civilFromDays_valid d.epochDay
  obtain ⟨hy1, hy2⟩ := civilFromDays_year_mem d.first_le d.le_last
  unfold Date.ofYmd? Date.ofEpochDay? Date.year Date.month Date.day
  rw [if_pos ⟨hy1, hy2, hm1, hm12, hd1, hdl⟩, daysFromCivil_civilFromDays,
    dif_pos ⟨d.first_le, d.le_last⟩]

end CampusBooking
