import CampusBooking.Proofs.Cluster.Reachable

/-!
# A failed request changes nothing

The operations of a store that refuse (`checkBookable`, `commit`, `cancel`) give no new
store, so a node that meets a refusal keeps the store it had.  Over the cluster: a request
other than a change of reservation that a node answers with a failure, on either channel
and at any depth of calls, leaves the cluster as it was.  This covers the refusals of the
stores, a quota exceeded after asking the other campuses, forwarded requests that fail at
their campus or on the link, requests a channel does not serve, and the two room requests
that change nothing: opening timeslots that are all open already, and removing timeslots
of which none is open.

A change of reservation is left out: it may fail after its cancellation went through.
-/

namespace CampusBooking
namespace Cluster

open Node

variable {n : Nat} {own : Campus} {ch : Channel} {req : Request} {w w' : Cluster} {r : Response}

/-- A failed answer of `dispatch` to a request other than a change of reservation changes
nothing. -/
theorem dispatch_failure_keeps (hw : w.Shaped) (hreq : ∀ u b t, req ≠ .changeReservation u b t)
    (h : runOn (dispatch (deliver (handle n) own) own ch req) w = (.ok r, w')) (hfail : r.success = false) :
    w' = w := by
  rcases dispatch_spec h with rfl | ⟨room, date, slots, -, -, rfl, hiff⟩ | ⟨room, date, slots, -, -, rfl, hiff⟩ |
    ⟨hs, -⟩ | ⟨hs, -⟩ | ⟨u, old, t, -, hr, -⟩
  · rfl
  · -- every timeslot was open already, so the store is as it was
    rw [Store.createRoom_unchanged (hw.store_shaped own) (hiff.mp hfail), withStore_self]
  · -- no timeslot was open, so the store is as it was
    rw [Store.deleteRoom_of_count_zero (hw.store_shaped own) (hiff.mp hfail), withStore_self]
  · rw [hs] at hfail
    cases hfail
  · rw [hs] at hfail
    cases hfail
  · exact absurd hr (hreq u old t)

/-- In a reachable cluster, a request other than a change of reservation that a node
answers with a failure leaves the cluster as it was. -/
theorem failed_request_changes_nothing (hw : w.Reachable) (hreq : ∀ u b t, req ≠ .changeReservation u b t)
    (h : runOn (handle n own ch req) w = (.ok r, w')) (hfail : r.success = false) : w' = w := by
  cases n with
  | zero => exact eq_of_refused (handle_zero_refused h)
  | succ n =>
    obtain ⟨r₀, hd, rfl⟩ := handle_succ_spec h
    exact dispatch_failure_keeps hw.shaped hreq hd hfail

/-- Where `dvls1234` holds 9:30-10:00 of room 201 at DVL, `dvls5678` asking KKL for the same
slot is forwarded to DVL, refused there, and nothing changes. -/
theorem booking_held_slot_changes_nothing :
    bookedInJanuary.Reachable ∧
      (∀ u b t, Request.bookRoom ⟨.dvl, .student, 5678⟩
        ⟨.dvl, 201, ⟨18637, by decide, by decide⟩, ⟨570, 600, by decide, by decide⟩⟩ ≠ .changeReservation u b t) ∧
      runOn (handle Node.depth .kkl .client (.bookRoom ⟨.dvl, .student, 5678⟩
          ⟨.dvl, 201, ⟨18637, by decide, by decide⟩, ⟨570, 600, by decide, by decide⟩⟩)) bookedInJanuary =
        (.ok (Response.fail .bookRoom .alreadyBooked
            "Unable to book room, timeslot (9:30-10:00) has already been booked"
            "Identifier: dvls5678 | Campus: DVL | Room Number: 201 | Date: 2021-01-10 | Timeslot: 9:30-10:00"),
          (runOn (handle Node.depth .kkl .client (.bookRoom ⟨.dvl, .student, 5678⟩
            ⟨.dvl, 201, ⟨18637, by decide, by decide⟩, ⟨570, 600, by decide, by decide⟩⟩)) bookedInJanuary).2) ∧
      (runOn (handle Node.depth .kkl .client (.bookRoom ⟨.dvl, .student, 5678⟩
          ⟨.dvl, 201, ⟨18637, by decide, by decide⟩, ⟨570, 600, by decide, by decide⟩⟩)) bookedInJanuary).2 =
        bookedInJanuary := by
  have hreq : ∀ u b t, Request.bookRoom ⟨.dvl, .student, 5678⟩
      ⟨.dvl, 201, ⟨18637, by decide, by decide⟩, ⟨570, 600, by decide, by decide⟩⟩ ≠ .changeReservation u b t :=
    fun _ _ _ h => by cases h
  refine (fun hrun => ⟨bookedInJanuary_reachable, hreq, hrun,
    failed_request_changes_nothing bookedInJanuary_reachable hreq hrun rfl⟩) ?_
  exact runOn_eq_of_fst (by decide +kernel)

end Cluster
end CampusBooking
