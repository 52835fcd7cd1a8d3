import CampusBooking.Proofs.Cluster.Reachable
import CampusBooking.Proofs.Cluster.Tally
import CampusBooking.Proofs.Cluster.Availability

/-!
# A client's request is served alike at every node

On a link that delivers every call, a request that a client sends to any node other than
opening or removing timeslots gives the same answer and leaves the same cluster, whichever
node it entered at.  A node hands a booking or a cancellation of another campus on to that
campus, whose node serves it as a request of a node; the student check is made once on
either path, and the answer comes back with the echo of the request filled in again.

* `RunsAlike m₁ m₂`: from every cluster whose link delivers every call, the two steps give
  the same result, or the same halt, and the same cluster.
* The questions a node asks the other campuses are answered alike at every depth of one or
  more, so a booking at a campus does not depend on how deep calls may still nest
  (`bookHere_depth`).
* A forwarded request is handled at its campus as sent by a node (`forward_of_delivers`).
* With the echo of its request filled in, a booking runs at every node as at the slot's
  campus (`bookRoom_alike`), and a cancellation as at the booking's campus
  (`cancelBooking_alike`).  A change of reservation reads only the fields of these answers
  that the echo keeps, so it runs alike at every node (`changeReservation_alike`).
* Main statement: `client_request_same_at_every_node`.
-/

namespace CampusBooking
namespace Node

open Cluster

variable {α β : Type}

/-! ## Steps that run alike -/

/-- From every cluster whose link delivers every call, the two steps give the same result,
or the same halt, and the same cluster. -/
def RunsAlike (m₁ m₂ : ClusterM α) : Prop := ∀ w : Cluster, w.Delivers → runOn m₁ w = runOn m₂ w

/-- A step that answers leaves a link that delivers every call as it was. -/
def KeepsDelivery (m : ClusterM α) : Prop :=
  ∀ w a w', w.Delivers → runOn m w = (.ok a, w') → w'.Delivers

namespace RunsAlike

variable {m m₁ m₂ m₃ : ClusterM α}

theorem refl (m : ClusterM α) : RunsAlike m m := fun _ _ => rfl

theorem symm (h : RunsAlike m₁ m₂) : RunsAlike m₂ m₁ := fun w hd => (h w hd).symm

theorem trans (h₁ : RunsAlike m₁ m₂) (h₂ : RunsAlike m₂ m₃) : RunsAlike m₁ m₃ :=
  fun w hd => (h₁ w hd).trans (h₂ w hd)

theorem map (f : α → β) (h : RunsAlike m₁ m₂) : RunsAlike (f <$> m₁) (f <$> m₂) := by
  intro w hd
  rw [runOn_map, runOn_map, h w hd]

theorem bind {f₁ f₂ : α → ClusterM β} (hm : RunsAlike m₁ m₂) (hkeep : KeepsDelivery m₁)
    (hf : ∀ a, RunsAlike (f₁ a) (f₂ a)) : RunsAlike (m₁ >>= f₁) (m₂ >>= f₂) := by
  intro w hd
  rw [runOn_bind, runOn_bind, ← hm w hd]
  rcases hr : runOn m₁ w with ⟨_ | a, w'⟩
  · rfl
  · exact hf a w' (hkeep w a w' hd hr)

theorem ite {c : Prop} [Decidable c] {a₁ a₂ b₁ b₂ : ClusterM α} (ha : c → RunsAlike a₁ a₂)
    (hb : ¬c → RunsAlike b₁ b₂) : RunsAlike (if c then a₁ else b₁) (if c then a₂ else b₂) := by
  by_cases hc : c
  · rw [if_pos hc, if_pos hc]
    exact ha hc
  · rw [if_neg hc, if_neg hc]
    exact hb hc

end RunsAlike

theorem KeepsDelivery.map {m : ClusterM α} (f : α → β) (h : KeepsDelivery m) : KeepsDelivery (f <$> m) := by
  intro w b w' hd hr
  rw [runOn_map] at hr
  rcases hm : runOn m w with ⟨_ | a, w₁⟩ <;> rw [hm] at hr
  · cases hr
  · simp only [Prod.mk.injEq] at hr
    exact h w a w' hd (hr.2 ▸ hm)

/-- A continuation that reads only the fields the echo of `q` keeps runs alike after two
steps that run alike once their echo is filled in. -/
theorem RunsAlike.bind_echo {m₁ m₂ : ClusterM Response} {f₁ f₂ : Response → ClusterM β} (q : Request)
    (hm : RunsAlike (echo q <$> m₁) (echo q <$> m₂)) (hkeep : KeepsDelivery m₁)
    (hf₁ : ∀ r, f₁ (echo q r) = f₁ r) (hf₂ : ∀ r, f₂ (echo q r) = f₂ r)
    (hf : ∀ r, RunsAlike (f₁ r) (f₂ r)) : RunsAlike (m₁ >>= f₁) (m₂ >>= f₂) := by
  have e₁ : m₁ >>= f₁ = (echo q <$> m₁) >>= f₁ := by
    rw [bind_map_left]
    simp only [hf₁]
  have e₂ : m₂ >>= f₂ = (echo q <$> m₂) >>= f₂ := by
    rw [bind_map_left]
    simp only [hf₂]
  rw [e₁, e₂]
  exact hm.bind (hkeep.map _) hf

/-! ## What a link that delivers every call does -/

section Delivering

variable {w : Cluster} {hh : Campus → Channel → Request → ClusterM Response}

theorem deliver_of_delivers (hd : w.Delivers) (src dst : Campus) (req : Request) (wait : Nat) :
    runOn (deliver hh src dst req wait) w = runOn (Except.ok <$> hh dst .interNode req) w := by
  unfold deliver
  simp only [runOn_bind, runOn_get, hd.1, LinkRule.failureOf, List.find?_nil, Option.map_none,
    hd.2 dst, if_true, map_eq_bind_pure_comp]
  rfl

/-- On a link that delivers every call, a forwarded request is handled at its campus as sent
by a node. -/
theorem forward_of_delivers (hd : w.Delivers) (own target : Campus) (req : Request) :
    runOn (forward (deliver hh own) own .client target req) w = runOn (hh target .interNode req) w := by
  unfold forward
  simp only [reduceCtorEq, if_false, runOn_bind, runOn_get, deliver_of_delivers hd, runOn_map]
  rcases runOn (hh target .interNode req) w with ⟨_ | r, w'⟩ <;> rfl

end Delivering

theorem keepsDelivery_of_change {m : ClusterM α}
    (h : ∀ w a w', runOn m w = (.ok a, w') → Relation.ReflTransGen Change w w') : KeepsDelivery m := by
  intro w a w' hd hr
  obtain ⟨hrules, hup, -⟩ := settings_eq_of_changes (h w a w' hr)
  exact ⟨hrules.trans hd.1, fun c => hup ▸ hd.2 c⟩

theorem keepsDelivery_bookRoom (n : Nat) (own : Campus) (ch : Channel) (u : UserId) (t : SlotRef) :
    KeepsDelivery (bookRoom (deliver (handle n) own) own ch u t) := by
  refine keepsDelivery_of_change fun w r w' h => ?_
  rcases bookRoom_spec h with ⟨-, -, rfl⟩ | ⟨-, b, -, hb⟩
  · exact Relation.ReflTransGen.refl
  · exact Relation.ReflTransGen.single (.book hb)

theorem keepsDelivery_cancelBooking (n : Nat) (own : Campus) (ch : Channel) (u : UserId) (b : BookingId) :
    KeepsDelivery (cancelBooking (deliver (handle n) own) own ch u b) := by
  refine keepsDelivery_of_change fun w r w' h => ?_
  rcases cancelBooking_spec h with ⟨-, -, rfl⟩ | ⟨-, ref, -, hc⟩
  · exact Relation.ReflTransGen.refl
  · exact Relation.ReflTransGen.single (.cancel hc)

/-! ## Questions of a peer do not depend on the depth -/

theorem handle_succ_bookingCount (n : Nat) (c : Campus) (u : UserId) (d : Date) :
    handle (n + 1) c .interNode (.bookingCount u d) = handle 1 c .interNode (.bookingCount u d) := rfl

theorem askPeers_congr {l₁ l₂ : Link} {own : Campus} {req : Request}
    (h : ∀ c wait, l₁ c req wait = l₂ c req wait) : askPeers l₁ own req = askPeers l₂ own req := by
  unfold askPeers askOne
  simp only [h]

/-- A booking at a campus is the same at every depth of one or more: it only asks the other
campuses for the student's week. -/
theorem bookHere_depth (n : Nat) (own : Campus) (u : UserId) (room : UInt16) (date : Date)
    (slot : Timeslot) :
    bookHere (deliver (handle (n + 1)) own) own u room date slot =
      bookHere (deliver (handle 1) own) own u room date slot := by
  have hask : askPeers (deliver (handle (n + 1)) own) own (.bookingCount u date) =
      askPeers (deliver (handle 1) own) own (.bookingCount u date) :=
    askPeers_congr fun c wait => by simp only [deliver, handle_succ_bookingCount]
  unfold bookHere
  rw [hask]

/-! ## Bookings and cancellations -/

/-- A booking that another node sent to the slot's campus is booked there. -/
theorem handle_bookRoom_at_campus (n : Nat) (u : UserId) (t : SlotRef) :
    handle (n + 2) t.campus .interNode (.bookRoom u t) =
      echo (.bookRoom u t) <$> bookHere (deliver (handle 1) t.campus) t.campus u t.room t.date t.slot := by
  rw [handle_succ]
  simp only [dispatch, rejectNonStudent_interNode, bookRoom, if_pos, bookHere_depth]

/-- A client's booking, with its echo filled in, runs at every node as at the slot's campus. -/
theorem bookRoom_alike (n : Nat) (own : Campus) (u : UserId) (t : SlotRef) :
    RunsAlike (echo (.bookRoom u t) <$> bookRoom (deliver (handle (n + 2)) own) own .client u t)
      (echo (.bookRoom u t) <$> bookHere (deliver (handle 1) t.campus) t.campus u t.room t.date t.slot) := by
  unfold bookRoom
  split
  · rename_i ht
    subst ht
    rw [bookHere_depth]
    exact RunsAlike.refl _
  · -- the booking is handed on to the slot's campus, whose answer is echoed once more
    intro w hd
    rw [runOn_map, forward_of_delivers hd, handle_bookRoom_at_campus, runOn_map]
    rcases runOn (bookHere (deliver (handle 1) t.campus) t.campus u t.room t.date t.slot) w with
      ⟨_ | r, w'⟩
    · rfl
    · simp only [echo_echo]

/-- At the booking's own campus a cancellation neither forwards nor looks at the link or the
channel. -/
theorem cancelBooking_at_campus (l₁ l₂ : Link) (ch₁ ch₂ : Channel) (u : UserId) (b : BookingId) :
    cancelBooking l₁ b.campus ch₁ u b = cancelBooking l₂ b.campus ch₂ u b := by
  simp only [cancelBooking, ne_eq, not_true_eq_false, if_false]

theorem cancelBooking_of_ne {l : Link} {own : Campus} {ch : Channel} {u : UserId} {b : BookingId}
    (hb : b.campus ≠ own) : cancelBooking l own ch u b = forward l own ch b.campus (.cancelBooking u b) := by
  simp only [cancelBooking, if_pos hb]

/-- A cancellation that another node sent to the booking's campus is made there. -/
theorem handle_cancelBooking_at_campus (n : Nat) (u : UserId) (b : BookingId) :
    handle (n + 1) b.campus .interNode (.cancelBooking u b) =
      echo (.cancelBooking u b) <$> cancelBooking (deliver (handle 1) b.campus) b.campus .client u b := by
  rw [handle_succ]
  simp only [dispatch, rejectNonStudent_interNode]
  rw [cancelBooking_at_campus]

/-- A client's cancellation, with its echo filled in, runs at every node as at the booking's
campus. -/
theorem cancelBooking_alike (n : Nat) (own : Campus) (u : UserId) (b : BookingId) :
    RunsAlike (echo (.cancelBooking u b) <$> cancelBooking (deliver (handle (n + 1)) own) own .client u b)
      (echo (.cancelBooking u b) <$> cancelBooking (deliver (handle 1) b.campus) b.campus .client u b) := by
  by_cases hb : b.campus = own
  · subst hb
    rw [cancelBooking_at_campus]
    exact RunsAlike.refl _
  · -- the cancellation is handed on to the booking's campus, whose answer is echoed once more
    intro w hd
    rw [cancelBooking_of_ne hb, runOn_map, forward_of_delivers hd, handle_cancelBooking_at_campus, runOn_map]
    rcases runOn (cancelBooking (deliver (handle 1) b.campus) b.campus .client u b) w with
      ⟨_ | r, w'⟩
    · rfl
    · simp only [echo_echo]

/-! ## Changing a reservation -/

/-- A change of reservation runs alike at every node: its three steps do, and it reads only
the success, the error, the message, the id and the released slot of their answers. -/
theorem changeReservation_alike (n : Nat) (X Y : Campus) (u : UserId) (old : BookingId) (t : SlotRef) :
    RunsAlike (changeReservation (deliver (handle (n + 2)) X) X u old t)
      (changeReservation (deliver (handle (n + 2)) Y) Y u old t) := by
  have hbook : ∀ s : SlotRef, RunsAlike (echo (.bookRoom u s) <$> bookRoom (deliver (handle (n + 2)) X) X .client u s)
      (echo (.bookRoom u s) <$> bookRoom (deliver (handle (n + 2)) Y) Y .client u s) :=
    fun s => (bookRoom_alike n X u s).trans (bookRoom_alike n Y u s).symm
  unfold changeReservation
  apply RunsAlike.bind_echo (.cancelBooking u old)
  · exact (cancelBooking_alike (n + 1) X u old).trans (cancelBooking_alike (n + 1) Y u old).symm
  · exact keepsDelivery_cancelBooking _ X .client u old
  · intro r; rfl
  · intro r; rfl
  intro cancelled
  refine RunsAlike.ite (fun _ => RunsAlike.refl _) fun _ => ?_
  -- the new booking
  apply RunsAlike.bind_echo (.bookRoom u t) (hbook t) (keepsDelivery_bookRoom _ X .client u t)
  · intro r; rfl
  · intro r; rfl
  intro booked
  dsimp only
  -- a booking that did not succeed with an id leads to the same last part, which stands twice
  refine RunsAlike.ite (fun _ => ?_) (fun _ => ?_)
  on_goal 1 =>
    cases booked.bookingId
    on_goal 2 => exact RunsAlike.refl _
  all_goals
    refine RunsAlike.ite (fun _ => RunsAlike.refl _) (fun _ => ?_)
    cases cancelled.released with
    | none => exact RunsAlike.refl _
    | some former =>
      -- putting the old slot back
      apply RunsAlike.bind_echo (.bookRoom u former) (hbook former)
        (keepsDelivery_bookRoom _ X .client u former)
      · intro r; rfl
      · intro r; rfl
      intro restored
      exact RunsAlike.refl _

/-! ## Free slots everywhere -/

section Free

variable {w : Cluster} {own : Campus} {d : Date}

/-- The free slots of every campus on a date. -/
def freeEverywhere (w : Cluster) (d : Date) : Tally :=
  ⟨fun c => some (some ((w.stores c).availableCount d).toUInt32)⟩

/-- On a link that delivers every call, every campus answers with its count. -/
theorem freeTally_of_delivers (hd : w.Delivers) : freeTally w own d = freeEverywhere w d := by
  refine tally_eq_of_answer fun c => ?_
  by_cases hc : c = own
  · subst hc
    simp [freeTally, freeEntry, freeEverywhere]
  · simp [freeTally, freeEntry, freeAnswer, freeEverywhere, hc, hd.1, hd.2 c, LinkRule.failureOf]

/-- On a link that delivers every call, the free slots everywhere are those of every campus,
wherever they are asked for. -/
theorem availableEverywhere_of_delivers (hd : w.Delivers) (m : Nat) (own : Campus) (d : Date) :
    runOn (availableEverywhere (deliver (handle (m + 1)) own) own d) w =
      (.ok (ok .getAvailableTimeSlot (freeEverywhere w d).text), w) := by
  rw [availableEverywhere_freeTally, freeTally_of_delivers hd]

end Free

/-! ## Every request of a client -/

/-- On a link that delivers every call, a client's request other than opening or removing
timeslots gives the same answer, or the same halt, and leaves the same cluster at every node,
at every depth of calls of three or more. -/
theorem client_request_same_at_every_node {w : Cluster} (hd : w.Delivers) {req : Request}
    (hcreate : ∀ room date slots, req ≠ .createRoom room date slots)
    (hdelete : ∀ room date slots, req ≠ .deleteRoom room date slots) (n : Nat) (X Y : Campus) :
    runOn (handle (n + 3) X .client req) w = runOn (handle (n + 3) Y .client req) w := by
  suffices h : RunsAlike (handle (n + 3) X .client req) (handle (n + 3) Y .client req) from h w hd
  rw [handle_succ, handle_succ]
  cases req with
  | createRoom room date slots => exact absurd rfl (hcreate room date slots)
  | deleteRoom room date slots => exact absurd rfl (hdelete room date slots)
  | bookRoom u t =>
    simp only [dispatch]
    cases rejectNonStudent .bookRoom .client u with
    | some r => exact RunsAlike.refl _
    | none => exact (bookRoom_alike n X u t).trans (bookRoom_alike n Y u t).symm
  | cancelBooking u b =>
    simp only [dispatch]
    cases rejectNonStudent .cancelBooking .client u with
    | some r => exact RunsAlike.refl _
    | none => exact (cancelBooking_alike (n + 1) X u b).trans (cancelBooking_alike (n + 1) Y u b).symm
  | changeReservation u old t =>
    apply RunsAlike.map
    simp only [dispatch]
    cases rejectNonStudent .changeReservation .client u with
    | some r => exact RunsAlike.refl _
    | none => exact changeReservation_alike n X Y u old t
  | availableEverywhere d =>
    apply RunsAlike.map
    intro w hd
    simp only [dispatch]
    rw [availableEverywhere_of_delivers hd, availableEverywhere_of_delivers hd]
  | availableHere d => exact RunsAlike.refl _
  | bookingCount u d => exact RunsAlike.refl _
  | unrecognized => exact RunsAlike.refl _

/-- `bookedInJanuary` after WST opens its room 201 on 2021-01-10 with 9:30-10:00. -/
def wstOpenedInJanuary : Cluster :=
  (runOn (handle Node.depth .wst .client (.createRoom 201 ⟨18637, januaryTenth_first_le, januaryTenth_le_last⟩
      [⟨570, 600, nineThirty_start_lt_stop, nineThirty_stop_lt⟩])) bookedInJanuary).2

/-- Where DVL holds a booking and WST has opened a slot, `dvls1234`'s booking of the WST slot,
sent by a client to the DVL node, is forwarded and booked, and served as at the WST node. -/
theorem booking_sent_to_dvl_served_as_at_wst :
    wstOpenedInJanuary.Delivers ∧
      (∀ room date slots, Request.bookRoom ⟨.dvl, .student, 1234⟩
        ⟨.wst, 201, ⟨18637, by decide, by decide⟩, ⟨570, 600, by decide, by decide⟩⟩ ≠
          .createRoom room date slots) ∧
      (∀ room date slots, Request.bookRoom ⟨.dvl, .student, 1234⟩
        ⟨.wst, 201, ⟨18637, by decide, by decide⟩, ⟨570, 600, by decide, by decide⟩⟩ ≠
          .deleteRoom room date slots) ∧
      runOn (handle 3 .dvl .client (.bookRoom ⟨.dvl, .student, 1234⟩
          ⟨.wst, 201, ⟨18637, by decide, by decide⟩, ⟨570, 600, by decide, by decide⟩⟩)) wstOpenedInJanuary =
        runOn (handle 3 .wst .client (.bookRoom ⟨.dvl, .student, 1234⟩
          ⟨.wst, 201, ⟨18637, by decide, by decide⟩, ⟨570, 600, by decide, by decide⟩⟩)) wstOpenedInJanuary ∧
      (runOn (handle 3 .dvl .client (.bookRoom ⟨.dvl, .student, 1234⟩
          ⟨.wst, 201, ⟨18637, by decide, by decide⟩, ⟨570, 600, by decide, by decide⟩⟩))
          wstOpenedInJanuary).1.map Response.success = .ok true := by
  have hd : wstOpenedInJanuary.Delivers := ⟨by decide +kernel, fun c => by cases c <;> decide +kernel⟩
  have hcreate : ∀ room date slots, Request.bookRoom ⟨.dvl, .student, 1234⟩
      ⟨.wst, 201, ⟨18637, by decide, by decide⟩, ⟨570, 600, by decide, by decide⟩⟩ ≠
        .createRoom room date slots := fun _ _ _ h => by cases h
  have hdelete : ∀ room date slots, Request.bookRoom ⟨.dvl, .student, 1234⟩
      ⟨.wst, 201, ⟨18637, by decide, by decide⟩, ⟨570, 600, by decide, by decide⟩⟩ ≠
        .deleteRoom room date slots := fun _ _ _ h => by cases h
  exact ⟨hd, hcreate, hdelete, client_request_same_at_every_node hd hcreate hdelete 0 .dvl .wst, by decide +kernel⟩

end Node
end CampusBooking
