import CampusBooking.Proofs.Cluster.Reachable

/-!
# What a cluster shows

Two views of a cluster that forget how its stores lay out their lists: what each slot
holds (`slotAt`), and the ledger's count of a student's bookings on a date at a campus
(`countAt`).  A booking and a cancellation change them at one slot and one count:

* `BookedAt.slotAt_eq`, `BookedAt.countAt_eq` — the booked slot holds the new booking, and
  the count of its student and date at its campus goes up by one, as a 32-bit word;
* `CancelledAt.slotAt_eq`, `CancelledAt.countAt_eq` — the released slot is free, and the
  count of its student and date at its campus goes down by one, unless it is zero.

While that count has room for one more (`BookedAt.countAt_add`), or while the ledger counts
the held bookings (`CancelledAt.countAt_add`), the counts move by exactly one.  In a sound
cluster an id is held by one slot at most, and the next id of the source, while it differs
from those drawn before, by none.
-/

namespace CampusBooking
namespace Cluster

open Node

/-- What a slot of the cluster holds, if it is open. -/
def slotAt (w : Cluster) (x : SlotRef) : Option (Option Booking) :=
  (w.stores x.campus).slot? x.room x.date x.slot

/-- The bookings of a student on a date at a campus, as its ledger counts them. -/
def countAt (w : Cluster) (c : Campus) (u : UserId) (d : Date) : Nat := (w.stores c).ledger.count u d

theorem slotAt_withStore (w : Cluster) (c : Campus) (s : Store) (x : SlotRef) :
    (w.withStore c s).slotAt x = if x.campus = c then s.slot? x.room x.date x.slot else w.slotAt x := by
  unfold slotAt
  rw [withStore_stores]
  split <;> rfl

theorem countAt_withStore (w : Cluster) (c c' : Campus) (s : Store) (u : UserId) (d : Date) :
    (w.withStore c s).countAt c' u d = if c' = c then s.ledger.count u d else w.countAt c' u d := by
  unfold countAt
  rw [withStore_stores]
  split <;> rfl

/-- The slot `x` is the one a store of campus `c` names by room, date and timeslot. -/
theorem slotRef_eq_iff (x : SlotRef) (c : Campus) (room : UInt16) (date : Date) (t : Timeslot) :
    x = ⟨c, room, date, t⟩ ↔ x.campus = c ∧ x.room = room ∧ x.date = date ∧ x.slot = t := by
  obtain ⟨xc, xr, xd, xs⟩ := x
  simp

section Sound

variable {w : Cluster} (hw : w.Sound)
include hw

/-- No booking id is held by two slots of a sound cluster. -/
theorem Sound.slot_unique {x y : SlotRef} {u u' : UserId} {b : BookingId}
    (hx : w.slotAt x = some (some ⟨u, b⟩)) (hy : w.slotAt y = some (some ⟨u', b⟩)) : x = y := by
  -- both slots lie at the booking's campus, where the store's index places it once
  have hcx : b.campus = x.campus := by
    rw [← hw.campus_eq x.campus]
    exact (hw.store_indexed x.campus).campus_held _ _ _ _ hx
  have hcy : b.campus = y.campus := by
    rw [← hw.campus_eq y.campus]
    exact (hw.store_indexed y.campus).campus_held _ _ _ _ hy
  obtain ⟨xc, xr, xd, xs⟩ := x
  obtain ⟨yc, yr, yd, ys⟩ := y
  simp only at hcx hcy
  subst hcx hcy
  have hk : (⟨xd, xr, xs⟩ : SlotKey) = ⟨yd, yr, ys⟩ := (hw.store_indexed b.campus).slot_unique hx hy
  cases hk
  rfl

end Sound

end Cluster

namespace Node

open Cluster

/-! ## A booking -/

section Book

variable {w w' : Cluster} {k : Nat} {u : UserId} {t : SlotRef} {b : BookingId}

/-- After a booking the booked slot holds it; every other slot is as it was. -/
theorem BookedAt.slotAt_eq (h : BookedAt k u t w b w') (x : SlotRef) :
    w'.slotAt x = if x = t then some (some ⟨u, b⟩) else w.slotAt x := by
  obtain ⟨_, _, _, s, _, hc, rfl⟩ := h
  show (w.withStore t.campus s).slotAt x = _
  rw [slotAt_withStore]
  by_cases hxc : x.campus = t.campus
  · rw [if_pos hxc, Store.slot?_commit hc]
    obtain ⟨xc, xr, xd, xs⟩ := x
    simp only at hxc
    subst hxc
    by_cases hk : xr = t.room ∧ xd = t.date ∧ xs = t.slot
    · obtain ⟨rfl, rfl, rfl⟩ := hk
      simp
    · rw [if_neg hk, if_neg (fun he => hk ((slotRef_eq_iff _ _ _ _ _).mp he).2)]
      rfl
  · rw [if_neg hxc, if_neg (fun he => hxc (congrArg SlotRef.campus he))]

/-- A booking adds one to the count of its student and date at its campus, as a 32-bit word;
every other count is as it was. -/
theorem BookedAt.countAt_eq (h : BookedAt k u t w b w') (c : Campus) (v : UserId) (d : Date) :
    w'.countAt c v d = if c = t.campus ∧ v = u ∧ d = t.date then (w.countAt c v d + 1) % 2 ^ 32
      else w.countAt c v d := by
  obtain ⟨_, _, _, s, _, hc, rfl⟩ := h
  show (w.withStore t.campus s).countAt c v d = _
  rw [countAt_withStore]
  by_cases hct : c = t.campus
  · subst hct
    rw [if_pos rfl, Store.commit_ledger hc, Ledger.count_increment]
    by_cases hk : v = u ∧ d = t.date
    · obtain ⟨rfl, rfl⟩ := hk
      simp [countAt]
    · have hne : ¬ (u, t.date) = (v, d) := fun he => hk ⟨(Prod.mk.inj he).1.symm, (Prod.mk.inj he).2.symm⟩
      simp [countAt, hk, hne]
  · simp [hct]

/-- A booking whose count has room for one more adds exactly one to it. -/
theorem BookedAt.countAt_add (h : BookedAt k u t w b w') (hroom : w.countAt t.campus u t.date + 1 < 2 ^ 32)
    (c : Campus) (v : UserId) (d : Date) :
    w'.countAt c v d = w.countAt c v d + if c = t.campus ∧ v = u ∧ d = t.date then 1 else 0 := by
  rw [h.countAt_eq]
  split
  · rename_i hk
    obtain ⟨rfl, rfl, rfl⟩ := hk
    exact Nat.mod_eq_of_lt hroom
  · rfl

end Book

/-! ## A cancellation -/

section Cancel

variable {w w' : Cluster} {u : UserId} {b : BookingId} {ref : SlotRef}

/-- A cancellation released a slot of the booking's campus that held the booking. -/
theorem CancelledAt.held (hw : w.Shaped) (h : CancelledAt u b w ref w') :
    ref.campus = b.campus ∧ w.slotAt ref = some (some ⟨u, b⟩) := by
  obtain ⟨s, hc, rfl⟩ := h
  have hcampus : ref.campus = b.campus := by
    rw [(Store.cancel_campus hc).2, hw.campus_eq]
  refine ⟨hcampus, ?_⟩
  unfold slotAt
  rw [hcampus]
  exact Store.slot?_of_cancel hc

/-- After a cancellation the released slot is free; every other slot is as it was. -/
theorem CancelledAt.slotAt_eq (hw : w.Shaped) (h : CancelledAt u b w ref w') (x : SlotRef) :
    w'.slotAt x = if x = ref then some none else w.slotAt x := by
  have hcampus := (h.held hw).1
  obtain ⟨s, hc, rfl⟩ := h
  show (w.withStore b.campus s).slotAt x = _
  rw [slotAt_withStore]
  by_cases hxc : x.campus = b.campus
  · rw [if_pos hxc, Store.slot?_cancel hc]
    obtain ⟨xc, xr, xd, xs⟩ := x
    simp only at hxc
    subst hxc
    by_cases hk : xr = ref.room ∧ xd = ref.date ∧ xs = ref.slot
    · obtain ⟨rfl, rfl, rfl⟩ := hk
      rw [if_pos ⟨rfl, rfl, rfl⟩, if_pos]
      obtain ⟨rc, rr, rd, rs⟩ := ref
      simp only at hcampus
      rw [hcampus]
    · rw [if_neg hk, if_neg (fun he => hk (by rw [← he]; exact ⟨rfl, rfl, rfl⟩))]
      rfl
  · rw [if_neg hxc, if_neg (fun he => hxc (by rw [he, hcampus]))]

/-- A cancellation takes one from the count of its student and the released slot's date at
its campus, unless that count is zero; every other count is as it was. -/
theorem CancelledAt.countAt_eq (hw : w.Shaped) (h : CancelledAt u b w ref w') (c : Campus) (v : UserId) (d : Date) :
    w'.countAt c v d = w.countAt c v d - if c = ref.campus ∧ v = u ∧ d = ref.date then 1 else 0 := by
  have hcampus := (h.held hw).1
  obtain ⟨s, hc, rfl⟩ := h
  show (w.withStore b.campus s).countAt c v d = _
  rw [countAt_withStore, hcampus]
  by_cases hcb : c = b.campus
  · subst hcb
    rw [if_pos rfl, Store.cancel_ledger hc, Ledger.count_decrement ((hw.store_shaped _).ledger_nodup)]
    by_cases hk : v = u ∧ d = ref.date
    · obtain ⟨rfl, rfl⟩ := hk
      simp [countAt]
    · have hne : ¬ (u, ref.date) = (v, d) := fun he => hk ⟨(Prod.mk.inj he).1.symm, (Prod.mk.inj he).2.symm⟩
      simp [countAt, hk, hne]
  · simp [hcb]

/-- Where the ledger counts the held bookings, a cancellation takes exactly one from the count
of its student and the released slot's date at its campus. -/
theorem CancelledAt.countAt_add (hw : w.Counted) (h : CancelledAt u b w ref w') (c : Campus) (v : UserId)
    (d : Date) : w'.countAt c v d + (if c = ref.campus ∧ v = u ∧ d = ref.date then 1 else 0) = w.countAt c v d := by
  -- the released slot held the student's booking, so the count was positive
  have hpos : 0 < w.countAt ref.campus u ref.date := by
    unfold countAt
    rw [(hw.store_counted _).count_eq]
    exact Store.heldTotal_pos (h.held hw.shaped).2 (by simp)
  rw [h.countAt_eq hw.shaped]
  split
  · rename_i hk
    obtain ⟨rfl, rfl, rfl⟩ := hk
    omega
  · rfl

end Cancel

end Node
end CampusBooking
