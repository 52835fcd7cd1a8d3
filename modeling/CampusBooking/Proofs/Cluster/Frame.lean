import CampusBooking.Proofs.Cluster.Halting

/-!
# Which stores a request may change

A node turns some requests away at once, whatever the link: administration and changes of
reservation sent by another node, the questions meant for one channel sent on the other,
unknown actions, bookings and cancellations that another node sent for a campus not its own,
and client bookings, cancellations and changes for someone who is not a student.  Those get a
failure (unsupported, or an invalid argument), with no call over the link and no change
(`dispatch_turnsAway`).

Every other request changes at most the stores of the campuses it names
(`Request.campusesWritten`): the node's own for opening and removing timeslots, the slot's
campus for a booking, the booking's campus for a cancellation, and both for a change of
reservation; the questions about free slots and bookings change none.  That holds on every
run, halted or not (`handle_storesFramed`), provided each store is the store of its own
campus, as in every cluster the nodes build.
-/

namespace CampusBooking

namespace Request

/-- The campuses whose stores a request handled at the node of `own` may change. -/
def campusesWritten (own : Campus) : Request → List Campus
  | .createRoom .. | .deleteRoom .. => [own]
  | .bookRoom _ t => [t.campus]
  | .cancelBooking _ b => [b.campus]
  | .changeReservation _ b t => [b.campus, t.campus]
  | .availableEverywhere _ | .availableHere _ | .bookingCount .. | .unrecognized => []

end Request

namespace Cluster

/-- The stores of `w'` are those of `w` outside the campuses `cs`. -/
def StoresFramed (cs : List Campus) (w w' : Cluster) : Prop :=
  ∀ c, c ∉ cs → w'.stores c = w.stores c

namespace StoresFramed

variable {cs ds : List Campus} {w w₁ w' : Cluster}

theorem rfl' : StoresFramed cs w w := fun _ _ => rfl

theorem of_eq (h : w' = w) : StoresFramed cs w w' := h ▸ rfl'

theorem trans (h₁ : StoresFramed cs w w₁) (h₂ : StoresFramed cs w₁ w') : StoresFramed cs w w' :=
  fun c hc => (h₂ c hc).trans (h₁ c hc)

theorem mono (hsub : cs ⊆ ds) (h : StoresFramed cs w w') : StoresFramed ds w w' :=
  fun c hc => h c (fun hm => hc (hsub hm))

theorem withStore (c : Campus) (s : Store) : StoresFramed [c] w (w.withStore c s) := by
  intro d hd
  rw [withStore_stores, if_neg (by simpa using hd)]

end StoresFramed

end Cluster

namespace Node

open Cluster

/-- The requests a node turns away before it looks at a store or calls another node. -/
def turnsAway (own : Campus) : Channel → Request → Bool
  | .interNode, .createRoom .. | .interNode, .deleteRoom .. | .interNode, .changeReservation ..
  | .interNode, .availableEverywhere _ | .client, .availableHere _ | .client, .bookingCount ..
  | _, .unrecognized => true
  | .interNode, .bookRoom _ t => t.campus != own
  | .interNode, .cancelBooking _ b => b.campus != own
  | .client, .bookRoom u _ | .client, .cancelBooking u _ | .client, .changeReservation u .. => !u.isStudent
  | .client, .createRoom .. | .client, .deleteRoom .. | .client, .availableEverywhere _
  | .interNode, .availableHere _ | .interNode, .bookingCount .. => false

section Steps

variable {k : Nat} {u : UserId} {t ref : SlotRef} {b : BookingId} {w w' : Cluster}

theorem BookedAt.storesFramed (h : BookedAt k u t w b w') : StoresFramed [t.campus] w w' := by
  obtain ⟨-, -, -, s, -, -, rfl⟩ := h
  exact StoresFramed.withStore t.campus s

theorem CancelledAt.storesFramed (h : CancelledAt u b w ref w') : StoresFramed [b.campus] w w' := by
  obtain ⟨s, -, rfl⟩ := h
  exact StoresFramed.withStore b.campus s

/-- A released slot lies at the booking's campus when each store is its campus's own. -/
theorem CancelledAt.ref_campus (hown : ∀ c, (w.stores c).campus = c) (h : CancelledAt u b w ref w') :
    ref.campus = b.campus := by
  obtain ⟨s, hc, -⟩ := h
  rw [(Store.cancel_campus hc).2, hown]

end Steps

/-! ## Requests turned away -/

theorem forward_interNode (link : Link) (own target : Campus) (req : Request) :
    forward link own .interNode target req =
      pure (fail req.action .unsupported (own.code ++ " does not serve campus " ++ target.code)) :=
  rfl

theorem rejectNonStudent_client {u : UserId} (hu : u.isStudent = false) (a : Action) :
    rejectNonStudent a .client u =
      some (fail a .invalidArgument ("Identifier (" ++ u.toString ++ ") is not a student")) := by
  simp [rejectNonStudent, hu]

/-- A request the node turns away gets the same failure over every link, with nothing run
but the answer. -/
theorem dispatch_turnsAway {own : Campus} {ch : Channel} {req : Request} (h : turnsAway own ch req = true) :
    ∃ r, (∀ link, dispatch link own ch req = pure r) ∧ r.success = false ∧
      (r.error = some .unsupported ∨ r.error = some .invalidArgument) := by
  cases ch <;> cases req <;> simp only [turnsAway, Bool.false_eq_true, Bool.not_eq_true',
    bne_iff_ne, ne_eq] at h
  -- a client acting for someone who is not a student
  case client.bookRoom u t =>
    simp only [dispatch, rejectNonStudent_client h]
    exact ⟨_, fun _ => rfl, rfl, Or.inr rfl⟩
  case client.cancelBooking u b =>
    simp only [dispatch, rejectNonStudent_client h]
    exact ⟨_, fun _ => rfl, rfl, Or.inr rfl⟩
  case client.changeReservation u b t =>
    simp only [dispatch, rejectNonStudent_client h]
    exact ⟨_, fun _ => rfl, rfl, Or.inr rfl⟩
  -- another node sent a booking or a cancellation for a campus not this one
  case interNode.bookRoom u t =>
    simp only [dispatch, rejectNonStudent_interNode, bookRoom, if_neg h, forward_interNode]
    exact ⟨_, fun _ => rfl, rfl, Or.inl rfl⟩
  case interNode.cancelBooking u b =>
    simp only [dispatch, rejectNonStudent_interNode, cancelBooking, if_pos h, forward_interNode]
    exact ⟨_, fun _ => rfl, rfl, Or.inl rfl⟩
  all_goals exact ⟨_, fun _ => rfl, rfl, Or.inl rfl⟩

/-- A request turned away is answered at once at every depth, with its echo filled in. -/
theorem handle_turnsAway {own : Campus} {ch : Channel} {req : Request} {r : Response}
    (hr : ∀ link, dispatch link own ch req = pure r) (k : Nat) :
    handle (k + 1) own ch req = pure (echo req r) := by
  rw [handle_succ, hr]
  rfl

/-! ## The stores a request writes -/

section Frame

variable {n : Nat} {own : Campus} {ch : Channel} {req : Request} {w w' : Cluster} {r : Response}

theorem Refused.storesFramed (h : Refused r w w') {cs : List Campus} : StoresFramed cs w w' :=
  StoresFramed.of_eq h.2.2

/-- A change of reservation writes the store of the old booking's campus and that of the new
slot's: the old slot is put back, if at all, where it was cancelled. -/
theorem changeReservation_storesFramed {u : UserId} {old : BookingId} {t : SlotRef}
    (hown : ∀ c, (w.stores c).campus = c)
    (h : runOn (changeReservation (deliver (handle n) own) own u old t) w = (.ok r, w')) :
    StoresFramed [old.campus, t.campus] w w' := by
  have hold : [old.campus] ⊆ [old.campus, t.campus] := by simp
  have hnew : [t.campus] ⊆ [old.campus, t.campus] := by simp
  rcases changeReservation_spec h with ⟨hr, -⟩ | ⟨ref, w₁, b, hcan, hbk, -⟩ |
    ⟨ref, w₁, b, hcan, hbk, -⟩ | ⟨ref, hcan, -⟩
  · exact hr.storesFramed
  · exact (hcan.storesFramed.mono hold).trans (hbk.storesFramed.mono hnew)
  · -- the old slot was booked again, at the campus it was released from
    have hrc : ref.campus = old.campus := hcan.ref_campus hown
    have hback : [ref.campus] ⊆ [old.campus, t.campus] := by simp [hrc]
    exact (hcan.storesFramed.mono hold).trans (hbk.storesFramed.mono hback)
  · exact hcan.storesFramed.mono hold

/-- A request answered by `dispatch` writes only the stores of the campuses it names: each
way `dispatch_spec` says a node can answer writes at most the store it names. -/
theorem dispatch_storesFramed (hown : ∀ c, (w.stores c).campus = c)
    (h : runOn (dispatch (deliver (handle n) own) own ch req) w = (.ok r, w')) :
    StoresFramed (req.campusesWritten own) w w' := by
  rcases dispatch_spec h with rfl | ⟨room, date, slots, -, rfl, rfl, -⟩ | ⟨room, date, slots, -, rfl, rfl, -⟩ |
    ⟨-, u, t, b, rfl, hbk⟩ | ⟨-, u, b, ref, rfl, hcan⟩ | ⟨u, old, t, -, rfl, hch⟩
  · exact StoresFramed.rfl'
  · exact StoresFramed.withStore own _
  · exact StoresFramed.withStore own _
  · exact hbk.storesFramed
  · exact hcan.storesFramed
  · exact changeReservation_storesFramed hown hch

/-- Every run of a request, answered or halted, writes only the stores of the campuses it
names. -/
theorem handle_storesFramed (hown : ∀ c, (w.stores c).campus = c) {x : Except Halt Response}
    (h : runOn (handle n own ch req) w = (x, w')) : StoresFramed (req.campusesWritten own) w w' := by
  rcases x with e | r
  · -- a halt comes after nothing, or after the cancellation of a change of reservation
    rcases handle_halt h with ⟨rfl, -⟩ | ⟨u, old, t, ref, -, rfl, hcan, -⟩
    · exact StoresFramed.rfl'
    · exact hcan.storesFramed.mono (by simp [Request.campusesWritten])
  · cases n with
    | zero => exact (handle_zero_refused h).storesFramed
    | succ n =>
      obtain ⟨r₀, hd, -⟩ := handle_succ_spec h
      exact dispatch_storesFramed hown hd

end Frame

variable {w : Cluster}

/-- What a node may do to the stores.  A request it turns away is answered, over every link
and at every depth, by a failure that is unsupported or an invalid argument, with no call and
no change; and every request, on every run, changes only the stores of the campuses it
names, none for the questions about free slots and bookings. -/
theorem handle_turnsAway_or_writes_named_stores (hown : ∀ c, (w.stores c).campus = c) (n : Nat)
    (own : Campus) (ch : Channel) (req : Request) :
    (turnsAway own ch req = true →
      ∃ r, (∀ link, dispatch link own ch req = pure r) ∧ (∀ k, handle (k + 1) own ch req = pure (echo req r)) ∧
        r.success = false ∧ (r.error = some .unsupported ∨ r.error = some .invalidArgument)) ∧
      StoresFramed (req.campusesWritten own) w (runOn (handle n own ch req) w).2 := by
  refine ⟨fun hturn => ?_, handle_storesFramed hown (Prod.ext rfl rfl)⟩
  obtain ⟨r, hr, hs, he⟩ := dispatch_turnsAway hturn
  exact ⟨r, hr, handle_turnsAway hr, hs, he⟩

/-- A client at KKL moving the DVL booking of `wstOpenedInJanuary` to the slot WST opened
writes at most the stores of DVL and WST. -/
theorem kkl_change_writes_dvl_and_wst :
    (∀ c, (wstOpenedInJanuary.stores c).campus = c) ∧
      (turnsAway .kkl .client (.changeReservation ⟨.dvl, .student, 1234⟩ ⟨.dvl, Uuid.serial 0⟩
          ⟨.wst, 201, ⟨18637, by decide, by decide⟩, ⟨570, 600, by decide, by decide⟩⟩) = true →
        ∃ r, (∀ link, dispatch link .kkl .client (.changeReservation ⟨.dvl, .student, 1234⟩ ⟨.dvl, Uuid.serial 0⟩
            ⟨.wst, 201, ⟨18637, by decide, by decide⟩, ⟨570, 600, by decide, by decide⟩⟩) = pure r) ∧
          (∀ k, handle (k + 1) .kkl .client (.changeReservation ⟨.dvl, .student, 1234⟩ ⟨.dvl, Uuid.serial 0⟩
            ⟨.wst, 201, ⟨18637, by decide, by decide⟩, ⟨570, 600, by decide, by decide⟩⟩) = pure (echo
              (.changeReservation ⟨.dvl, .student, 1234⟩ ⟨.dvl, Uuid.serial 0⟩
                ⟨.wst, 201, ⟨18637, by decide, by decide⟩, ⟨570, 600, by decide, by decide⟩⟩) r)) ∧
          r.success = false ∧ (r.error = some .unsupported ∨ r.error = some .invalidArgument)) ∧
      StoresFramed [.dvl, .wst] wstOpenedInJanuary
        (runOn (handle Node.depth .kkl .client (.changeReservation ⟨.dvl, .student, 1234⟩ ⟨.dvl, Uuid.serial 0⟩
          ⟨.wst, 201, ⟨18637, by decide, by decide⟩, ⟨570, 600, by decide, by decide⟩⟩))
          wstOpenedInJanuary).2 :=
  have hown : ∀ c, (wstOpenedInJanuary.stores c).campus = c := fun c => by cases c <;> decide +kernel
  ⟨hown, handle_turnsAway_or_writes_named_stores hown Node.depth .kkl .client _⟩

end Node

end CampusBooking
