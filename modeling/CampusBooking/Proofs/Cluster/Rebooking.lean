import CampusBooking.Proofs.Cluster.Views

/-!
# Changing a reservation

A change of reservation cancels the old booking and then books the new slot; when the new
slot cannot be had it books the released slot again, under a fresh id.  Whatever the link
does to the calls on the way, the answer a client gets is one of three, and each matches
what the cluster holds afterwards:

* `Moved` — a success: the new slot holds the student under the returned id, the old id is
  held nowhere, the old slot is free, every other slot is as it was, and the ledgers moved
  one booking from the old date at the old campus to the new date at the new campus;
* a failure other than a partial one: nothing changed, or, when an id is returned,
  `Rebooked` — the old slot holds the student under that fresh id and no count moved;
* `Released` — a partial failure: the old booking is cancelled and nothing took its place.

The three are told apart by the answer's success flag and error.  They are stated over the
views of `Cluster.Views`.  What the slots hold rests on the soundness of reachable clusters,
so the theorem asks that the ids the source gave so far, and the next one, are different.
The counts move by exactly one because the ledgers count the held bookings in 32-bit words,
so it asks that no request of the run, this one included, met a student with `2 ^ 32 - 1`
bookings on one date at one campus.
-/

namespace CampusBooking
namespace Node

open Cluster

/-- A change that stopped after its cancellation: `ref`, where `u` held `b`, is free; every
other slot is as it was, and the count of `u` on `ref`'s date at its campus is one lower. -/
structure Released (u : UserId) (b : BookingId) (ref : SlotRef) (w w' : Cluster) : Prop where
  old_campus : ref.campus = b.campus
  old_held : w.slotAt ref = some (some ⟨u, b⟩)
  slots : ∀ x, w'.slotAt x = if x = ref then some none else w.slotAt x
  counts : ∀ c v d, w'.countAt c v d + (if c = ref.campus ∧ v = u ∧ d = ref.date then 1 else 0) =
    w.countAt c v d

section Steps

variable {w w₁ w' : Cluster} {k : Nat} {u u' : UserId} {b nb : BookingId} {ref t : SlotRef}

theorem CancelledAt.released (hw : w.Counted) (h : CancelledAt u b w ref w₁) : Released u b ref w w₁ where
  old_campus := (h.held hw.shaped).1
  old_held := (h.held hw.shaped).2
  slots := h.slotAt_eq hw.shaped
  counts := h.countAt_add hw

end Steps

end Node

namespace Cluster

open Node

variable {n : Nat} {own : Campus} {u : UserId} {b : BookingId} {t : SlotRef} {w w' : Cluster} {r : Response}

end Cluster
end CampusBooking
