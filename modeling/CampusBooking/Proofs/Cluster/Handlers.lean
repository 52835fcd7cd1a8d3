import CampusBooking.Proofs.Cluster.Run

/-!
# What each handler of a node does

One spec lemma per handler of `Node`, each an inversion of a run that answered: it says
what the response is and how the cluster after the run was made from the one before.
Every handler answers in one of a few ways:

* a refusal (`Refused`): a failure, never a partial one, with the cluster as it was;
* a booking (`BookedAt`): the store of the slot's campus committed it under the next
  id of the cluster's source, after the other campuses were asked for the student's week;
* a cancellation (`CancelledAt`): the store of the booking's campus released it.

The links between nodes are `deliver (handle n) own`.  A request that another node sent
is never forwarded, so a forwarded booking or cancellation is handled at its campus
directly, and the questions a booking asks the other campuses only read: no induction on
the depth is needed.
-/

namespace CampusBooking
namespace Node

open Cluster

/-- A refusal: a failure that is not a partial one, after which the cluster is as it was. -/
def Refused (r : Response) (w w' : Cluster) : Prop :=
  r.success = false ∧ r.error ≠ some .partiallyFailed ∧ w' = w

theorem refused_fail (a : Action) {k : ErrorKind} (hk : k ≠ .partiallyFailed) (msg p : String) (w : Cluster) :
    Refused (Response.fail a k msg p) w w :=
  ⟨rfl, fun h => hk (Option.some.inj h), rfl⟩

theorem refused_storeFailure (a : Action) (f : Fault) (w : Cluster) : Refused (storeFailure a f) w w := by
  refine refused_fail a ?_ _ _ w
  cases f <;> simp [ErrorKind.ofFault]

/-- The echo of the request in `handle` changes neither the outcome nor the ids. -/
theorem Refused.echo {r : Response} {w w' : Cluster} (h : Refused r w w') (a : Action) (p : String) :
    Refused { r with action := a, parameters := p } w w' := h

theorem rejectNonStudent_interNode (a : Action) (u : UserId) : rejectNonStudent a .interNode u = none := by
  simp [rejectNonStudent]

/-! ## The link -/

section Link

variable {hd : Campus → Channel → Request → ClusterM Response} {src dst : Campus} {req : Request}
  {wait : Nat} {w w' : Cluster}

/-- A call over the link either fails without reaching the target, or is handled there. -/
theorem deliver_spec {x : Except NetFault Response} (h : runOn (deliver hd src dst req wait) w = (.ok x, w')) :
    (w' = w ∧ ∀ r, x = .ok r → Refused r w w) ∨
      (LinkRule.failureOf w.rules src dst req.action = none ∧ dst ∈ w.up ∧
        ∃ r, x = .ok r ∧ runOn (hd dst .interNode req) w = (.ok r, w')) := by
  unfold deliver at h
  simp only [runOn_bind, runOn_get] at h
  split at h
  · -- a rule makes the target unreachable
    simp only [runOn_pure, Prod.mk.injEq, Except.ok.injEq] at h
    obtain ⟨rfl, rfl⟩ := h
    exact Or.inl ⟨rfl, fun r hr => by cases hr⟩
  · -- a rule lets the call time out
    simp only [runOn_pure, Prod.mk.injEq, Except.ok.injEq] at h
    obtain ⟨rfl, rfl⟩ := h
    exact Or.inl ⟨rfl, fun r hr => by cases hr⟩
  · -- a rule makes the target decline
    simp only [runOn_pure, Prod.mk.injEq, Except.ok.injEq] at h
    obtain ⟨rfl, rfl⟩ := h
    refine Or.inl ⟨rfl, fun r hr => ?_⟩
    cases hr
    exact refused_fail req.action (by decide) _ _ w
  · rename_i hnone
    split at h
    · rename_i hup
      obtain ⟨r, w₁, hh, hanswer⟩ := runOn_bind_eq_ok h
      simp only [runOn_pure, Prod.mk.injEq, Except.ok.injEq] at hanswer
      obtain ⟨rfl, rfl⟩ := hanswer
      exact Or.inr ⟨hnone, hup, r, rfl, hh⟩
    · simp only [runOn_pure, Prod.mk.injEq, Except.ok.injEq] at h
      obtain ⟨rfl, rfl⟩ := h
      exact Or.inl ⟨rfl, fun r hr => by cases hr⟩

theorem keeps_deliver (hh : Keeps (hd dst .interNode req)) : Keeps (deliver hd src dst req wait) := by
  unfold Node.deliver
  refine Keeps.bind Keeps.get fun w => ?_
  split
  · exact Keeps.pure _
  · exact Keeps.pure _
  · exact Keeps.pure _
  · split
    · exact Keeps.bind hh fun _ => Keeps.pure _
    · exact Keeps.pure _

end Link

/-! ## Questions that only read -/

theorem keeps_bookingCount (own : Campus) (u : UserId) (date : Date) : Keeps (bookingCount own u date) :=
  Keeps.bind (Keeps.storeOf own) fun _ => Keeps.bind (Keeps.orHalt _) fun _ => Keeps.pure _

theorem keeps_availableHere (own : Campus) (date : Date) : Keeps (availableHere own date) :=
  Keeps.bind (Keeps.storeOf own) fun _ => Keeps.pure _

theorem keeps_handle_bookingCount (n : Nat) (c : Campus) (u : UserId) (date : Date) :
    Keeps (handle n c .interNode (.bookingCount u date)) := by
  cases n with
  | zero => exact Keeps.pure _
  | succ n =>
    unfold handle
    refine Keeps.bind ?_ fun _ => Keeps.pure _
    simp only [dispatch]
    exact keeps_bookingCount c u date

theorem keeps_handle_availableHere (n : Nat) (c : Campus) (date : Date) :
    Keeps (handle n c .interNode (.availableHere date)) := by
  cases n with
  | zero => exact Keeps.pure _
  | succ n =>
    unfold handle
    refine Keeps.bind ?_ fun _ => Keeps.pure _
    simp only [dispatch]
    exact keeps_availableHere c date

theorem keeps_askOne {link : Link} {req : Request} {wait : Nat} (hlink : ∀ c, Keeps (link c req wait))
    (t : Tally) (c : Campus) : Keeps (askOne link req wait t c) :=
  Keeps.bind (hlink c) fun _ => Keeps.pure _

theorem keeps_askPeers {link : Link} {own : Campus} {req : Request}
    (hlink : ∀ c wait, Keeps (link c req wait)) : Keeps (askPeers link own req) := by
  unfold Node.askPeers
  refine Keeps.bind Keeps.get fun w => ?_
  exact Keeps.foldlM (keeps_askOne (hlink · _)) _ _

/-- Asking the other campuses for a student's week leaves the cluster as it was. -/
theorem keeps_askPeers_bookingCount (n : Nat) (own : Campus) (u : UserId) (date : Date) :
    Keeps (askPeers (deliver (handle n) own) own (.bookingCount u date)) :=
  keeps_askPeers fun _ _ => keeps_deliver (keeps_handle_bookingCount n _ u date)

theorem keeps_askPeers_availableHere (n : Nat) (own : Campus) (date : Date) :
    Keeps (askPeers (deliver (handle n) own) own (.availableHere date)) :=
  keeps_askPeers fun _ _ => keeps_deliver (keeps_handle_availableHere n _ date)

/-- Counting the free slots of every campus leaves the cluster as it was. -/
theorem keeps_availableEverywhere (n : Nat) (own : Campus) (date : Date) :
    Keeps (availableEverywhere (deliver (handle n) own) own date) :=
  Keeps.bind (Keeps.storeOf own) fun _ =>
    Keeps.bind (keeps_askPeers_availableHere n own date) fun _ => Keeps.pure _

/-! ## One level of `handle` -/

/-- The answer with the echo of `req` filled in, as `handle` gives it. -/
def echo (req : Request) (r : Response) : Response :=
  { r with action := req.action, parameters := req.parameters }

/-- Filling in the echo twice is filling it in once. -/
@[simp] theorem echo_echo (req : Request) (r : Response) : echo req (echo req r) = echo req r := rfl

theorem handle_succ (n : Nat) (own : Campus) (ch : Channel) (req : Request) :
    handle (n + 1) own ch req = echo req <$> dispatch (deliver (handle n) own) own ch req := by
  rw [map_eq_bind_pure_comp]
  rfl

/-- A handler that answered at depth `n + 1` answered through `dispatch`, with the echo of
the request filled in. -/
theorem handle_succ_spec {n : Nat} {own : Campus} {ch : Channel} {req : Request} {w w' : Cluster}
    {r : Response} (h : runOn (handle (n + 1) own ch req) w = (.ok r, w')) :
    ∃ r₀, runOn (dispatch (deliver (handle n) own) own ch req) w = (.ok r₀, w') ∧
      r = { r₀ with action := req.action, parameters := req.parameters } := by
  unfold handle at h
  obtain ⟨r₀, w₁, hd, hp⟩ := runOn_bind_eq_ok h
  simp only [runOn_pure, Prod.mk.injEq, Except.ok.injEq] at hp
  obtain ⟨rfl, rfl⟩ := hp
  exact ⟨r₀, hd, rfl⟩

theorem handle_zero_refused {own : Campus} {ch : Channel} {req : Request} {w w' : Cluster}
    {r : Response} (h : runOn (handle 0 own ch req) w = (.ok r, w')) : Refused r w w' := by
  simp only [handle, runOn_pure, Prod.mk.injEq, Except.ok.injEq] at h
  obtain ⟨rfl, rfl⟩ := h
  exact refused_fail req.action (by decide) _ _ w

/-! ## Forwarding -/

section Forward

variable {n : Nat} {own target : Campus} {ch : Channel} {req : Request} {w w' : Cluster} {r : Response}

/-- A forwarded request is refused without a change, or handled at its campus as sent by a
node. -/
theorem forward_spec (h : runOn (forward (deliver (handle n) own) own ch target req) w = (.ok r, w')) :
    Refused r w w' ∨ (ch = .client ∧ runOn (handle n target .interNode req) w = (.ok r, w')) := by
  unfold forward at h
  split at h
  · -- a node never forwards what another node sent
    simp only [runOn_pure, Prod.mk.injEq, Except.ok.injEq] at h
    obtain ⟨rfl, rfl⟩ := h
    exact Or.inl (refused_fail _ (by decide) _ _ w)
  · rename_i hch
    have hclient : ch = .client := by
      cases ch
      · rfl
      · exact absurd rfl hch
    rw [runOn_bind, runOn_get] at h
    dsimp only at h
    obtain ⟨x, w₁, hx, hanswer⟩ := runOn_bind_eq_ok h
    rcases deliver_spec hx with ⟨rfl, hrefused⟩ | ⟨-, -, r₁, rfl, hh⟩
    · -- the call failed without reaching the target, or the target declined
      split at hanswer
      · simp only [runOn_pure, Prod.mk.injEq, Except.ok.injEq] at hanswer
        obtain ⟨rfl, rfl⟩ := hanswer
        exact Or.inl (hrefused _ rfl)
      · simp only [runOn_pure, Prod.mk.injEq, Except.ok.injEq] at hanswer
        obtain ⟨rfl, rfl⟩ := hanswer
        exact Or.inl (refused_fail _ (by decide) _ _ _)
      · simp only [runOn_pure, Prod.mk.injEq, Except.ok.injEq] at hanswer
        obtain ⟨rfl, rfl⟩ := hanswer
        exact Or.inl (refused_fail _ (by decide) _ _ _)
    · simp only [runOn_pure, Prod.mk.injEq, Except.ok.injEq] at hanswer
      obtain ⟨rfl, rfl⟩ := hanswer
      exact Or.inr ⟨hclient, hh⟩

end Forward

/-! ## Booking -/

/-- The store of `t.campus` committed a booking of slot `t` for `u` under the next id of the
cluster's source, after asking the other campuses for the student's week over links on which
calls may still nest at least `k` deep: the store is replaced and one more id is drawn. -/
def BookedAt (k : Nat) (u : UserId) (t : SlotRef) (w : Cluster) (b : BookingId) (w' : Cluster) : Prop :=
  ∃ m, k ≤ m ∧ ∃ tally s,
    runOn (askPeers (deliver (handle m) t.campus) t.campus (.bookingCount u t.date)) w = (.ok tally, w) ∧
    (w.stores t.campus).commit u t.room t.date t.slot tally.total w.quota (w.ids w.drawn) =
      .ok (.ok (s, b)) ∧
    w' = { w.withStore t.campus s with drawn := w.drawn + 1 }

section Book

variable {n : Nat} {own : Campus} {ch : Channel} {u : UserId} {w w' : Cluster} {r : Response}

theorem BookedAt.mono {k k' : Nat} {t : SlotRef} {b : BookingId} (hk : k' ≤ k) (h : BookedAt k u t w b w') :
    BookedAt k' u t w b w' := by
  obtain ⟨m, hm, booked⟩ := h
  exact ⟨m, le_trans hk hm, booked⟩

/-- A booking at the node's own campus is refused, or committed by its store. -/
theorem bookHere_spec {room : UInt16} {date : Date} {slot : Timeslot}
    (h : runOn (bookHere (deliver (handle n) own) own u room date slot) w = (.ok r, w')) :
    Refused r w w' ∨
      (r.success = true ∧ ∃ b, r.bookingId = some b ∧ BookedAt n u ⟨own, room, date, slot⟩ w b w') := by
  unfold bookHere at h
  simp only [runOn_bind, runOn_storeOf] at h
  split at h
  · -- the slot is missing or held
    simp only [runOn_pure, Prod.mk.injEq, Except.ok.injEq] at h
    obtain ⟨rfl, rfl⟩ := h
    exact Or.inl (refused_storeFailure _ _ _)
  · obtain ⟨tally, w₁, hp, hcommit⟩ := runOn_bind_eq_ok h
    -- asking the other campuses only reads
    obtain rfl := (keeps_askPeers_bookingCount n own u date).eq_of_runOn hp
    simp only [runOn_bind, runOn_get, runOn_orHalt] at hcommit
    rcases hc : (w₁.stores own).commit u room date slot tally.total w₁.quota (w₁.ids w₁.drawn) with
      _ | _ | ⟨s, b⟩ <;> rw [hc] at hcommit <;> dsimp only at hcommit
    · cases hcommit
    · simp only [runOn_pure, Prod.mk.injEq, Except.ok.injEq] at hcommit
      obtain ⟨rfl, rfl⟩ := hcommit
      exact Or.inl (refused_storeFailure _ _ _)
    · simp only [runOn_bind, runOn_setStore, runOn_modify, runOn_pure, Prod.mk.injEq,
        Except.ok.injEq] at hcommit
      obtain ⟨rfl, rfl⟩ := hcommit
      exact Or.inr ⟨rfl, b, rfl, n, le_refl n, tally, s, hp, hc, rfl⟩

/-- A booking that another node sent to the slot's campus is booked there. -/
theorem handle_bookRoom_interNode {t : SlotRef}
    (h : runOn (handle n t.campus .interNode (.bookRoom u t)) w = (.ok r, w')) :
    Refused r w w' ∨ (r.success = true ∧ ∃ b, r.bookingId = some b ∧ BookedAt (n - 1) u t w b w') := by
  cases n with
  | zero => exact Or.inl (handle_zero_refused h)
  | succ n =>
    obtain ⟨r₀, hd, rfl⟩ := handle_succ_spec h
    simp only [dispatch, rejectNonStudent_interNode, bookRoom, if_pos] at hd
    rcases bookHere_spec hd with hr | ⟨hs, b, hb, hbk⟩
    · exact Or.inl (hr.echo _ _)
    · exact Or.inr ⟨hs, b, hb, hbk⟩

/-- A booking, here or forwarded to the slot's campus, is refused without a change, or
booked by the store of the slot's campus. -/
theorem bookRoom_spec {t : SlotRef} (h : runOn (bookRoom (deliver (handle n) own) own ch u t) w = (.ok r, w')) :
    Refused r w w' ∨ (r.success = true ∧ ∃ b, r.bookingId = some b ∧ BookedAt (n - 1) u t w b w') := by
  unfold bookRoom at h
  split at h
  · rename_i ht
    subst ht
    rcases bookHere_spec h with hr | ⟨hs, b, hb, hbk⟩
    · exact Or.inl hr
    · exact Or.inr ⟨hs, b, hb, hbk.mono (Nat.sub_le n 1)⟩
  · rcases forward_spec h with hr | ⟨-, hh⟩
    · exact Or.inl hr
    · exact handle_bookRoom_interNode hh

end Book

/-! ## Cancelling -/

/-- The store of `b.campus` released booking `b` of `u`, which held the slot `ref`. -/
def CancelledAt (u : UserId) (b : BookingId) (w : Cluster) (ref : SlotRef) (w' : Cluster) : Prop :=
  ∃ s, (w.stores b.campus).cancel u b = .ok (s, ref) ∧ w' = w.withStore b.campus s

section Cancel

variable {n : Nat} {own : Campus} {ch : Channel} {u : UserId} {b : BookingId} {w w' : Cluster}
  {r : Response}

/-- A cancellation at the booking's own campus is refused, or made by its store. -/
theorem cancelBooking_own {link : Link} (hb : b.campus = own)
    (h : runOn (cancelBooking link own ch u b) w = (.ok r, w')) :
    Refused r w w' ∨ (r.success = true ∧ ∃ ref, r.released = some ref ∧ CancelledAt u b w ref w') := by
  subst hb
  unfold cancelBooking at h
  rw [if_neg (fun h => h rfl)] at h
  simp only [runOn_bind, runOn_storeOf] at h
  split at h
  · rename_i s ref hc
    simp only [runOn_bind, runOn_setStore, runOn_pure, Prod.mk.injEq, Except.ok.injEq] at h
    obtain ⟨rfl, rfl⟩ := h
    exact Or.inr ⟨rfl, ref, rfl, s, hc, rfl⟩
  · simp only [runOn_pure, Prod.mk.injEq, Except.ok.injEq] at h
    obtain ⟨rfl, rfl⟩ := h
    exact Or.inl (refused_storeFailure _ _ _)

/-- A cancellation that another node sent to the booking's campus is made there. -/
theorem handle_cancelBooking_interNode
    (h : runOn (handle n b.campus .interNode (.cancelBooking u b)) w = (.ok r, w')) :
    Refused r w w' ∨ (r.success = true ∧ ∃ ref, r.released = some ref ∧ CancelledAt u b w ref w') := by
  cases n with
  | zero => exact Or.inl (handle_zero_refused h)
  | succ n =>
    obtain ⟨r₀, hd, rfl⟩ := handle_succ_spec h
    simp only [dispatch, rejectNonStudent_interNode] at hd
    rcases cancelBooking_own rfl hd with hr | ⟨hs, ref, href, hc⟩
    · exact Or.inl (hr.echo _ _)
    · exact Or.inr ⟨hs, ref, href, hc⟩

/-- A cancellation, here or forwarded to the booking's campus, is refused without a change,
or made by the store of the booking's campus. -/
theorem cancelBooking_spec (h : runOn (cancelBooking (deliver (handle n) own) own ch u b) w = (.ok r, w')) :
    Refused r w w' ∨ (r.success = true ∧ ∃ ref, r.released = some ref ∧ CancelledAt u b w ref w') := by
  by_cases hb : b.campus = own
  · exact cancelBooking_own hb h
  · unfold cancelBooking at h
    rw [if_pos hb] at h
    rcases forward_spec h with hr | ⟨-, hh⟩
    · exact Or.inl hr
    · exact handle_cancelBooking_interNode hh

end Cancel

/-! ## Opening and removing timeslots -/

section Rooms

variable {own : Campus} {room : UInt16} {date : Date} {slots : List Timeslot} {w w' : Cluster}
  {r : Response}

/-- Opening timeslots replaces the node's store by what `Store.createRoom` makes of it; the
answer is a success unless nothing changed. -/
theorem createRoom_spec (h : runOn (createRoom own room date slots) w = (.ok r, w')) :
    Refused r w w' ∨
      (w' = w.withStore own ((w.stores own).createRoom room date slots).1 ∧
        r.error ≠ some .partiallyFailed ∧
        (r.success = false ↔ ((w.stores own).createRoom room date slots).2 = .unchanged)) := by
  unfold createRoom at h
  split at h
  · simp only [runOn_pure, Prod.mk.injEq, Except.ok.injEq] at h
    obtain ⟨rfl, rfl⟩ := h
    exact Or.inl (refused_fail _ (by decide) _ _ _)
  · simp only [runOn_bind, runOn_storeOf, runOn_setStore, runOn_pure, Prod.mk.injEq,
      Except.ok.injEq] at h
    obtain ⟨rfl, rfl⟩ := h
    refine Or.inr ⟨rfl, ?_⟩
    cases ((w.stores own).createRoom room date slots).2 <;> simp [ok, fail, Response.ok, Response.fail]

/-- Removing timeslots replaces the node's store by what `Store.deleteRoom` makes of it;
the answer is a success when some timeslot was removed. -/
theorem deleteRoom_spec (h : runOn (deleteRoom own room date slots) w = (.ok r, w')) :
    w' = w.withStore own ((w.stores own).deleteRoom room date slots).1 ∧
      r.error ≠ some .partiallyFailed ∧
      (r.success = false ↔ ((w.stores own).deleteRoom room date slots).2 = 0) := by
  unfold deleteRoom at h
  simp only [runOn_bind, runOn_storeOf, runOn_setStore, runOn_pure, Prod.mk.injEq,
    Except.ok.injEq] at h
  obtain ⟨rfl, rfl⟩ := h
  refine ⟨rfl, ?_⟩
  by_cases h0 : ((w.stores own).deleteRoom room date slots).2 = 0 <;>
    simp [h0, ok, fail, Response.ok, Response.fail]

end Rooms

/-! ## Changing a reservation -/

section Change

variable {n : Nat} {own : Campus} {u : UserId} {old : BookingId} {t : SlotRef} {w w' : Cluster}
  {r : Response}

theorem getD_ne_partiallyFailed {e : Option ErrorKind} (he : e ≠ some .partiallyFailed) (k : ErrorKind)
    (hk : k ≠ .partiallyFailed) : e.getD k ≠ .partiallyFailed := by
  cases e with
  | none => exact hk
  | some e => exact fun h => he (congrArg some h)

/-- What a change of reservation did.  Either the cancellation was refused and nothing
changed; or the old booking was released and then the new slot was booked (a success), or
the new booking failed and the old slot was booked again under a new id (a failure, not a
partial one), or the old slot stayed free (a partial failure). -/
theorem changeReservation_spec
    (h : runOn (changeReservation (deliver (handle n) own) own u old t) w = (.ok r, w')) :
    (Refused r w w' ∧ r.bookingId = none) ∨
      (∃ ref w₁ b, CancelledAt u old w ref w₁ ∧ BookedAt (n - 1) u t w₁ b w' ∧ r.success = true ∧
        r.bookingId = some b) ∨
      (∃ ref w₁ b, CancelledAt u old w ref w₁ ∧ BookedAt (n - 1) u ref w₁ b w' ∧ r.success = false ∧
        r.error ≠ some .partiallyFailed ∧ r.bookingId = some b) ∨
      (∃ ref, CancelledAt u old w ref w' ∧ r.success = false ∧ r.error = some .partiallyFailed ∧
        r.bookingId = none) := by
  unfold changeReservation at h
  obtain ⟨c, w₁, hc, hbook⟩ := runOn_bind_eq_ok h
  rcases cancelBooking_spec hc with ⟨hcs, hce, rfl⟩ | ⟨hcs, ref, href, hcan⟩
  · -- the cancellation was refused: its failure is passed on
    rw [if_pos (by simp [hcs])] at hbook
    simp only [runOn_pure, Prod.mk.injEq, Except.ok.injEq] at hbook
    obtain ⟨rfl, rfl⟩ := hbook
    exact Or.inl ⟨refused_fail _ (getD_ne_partiallyFailed hce _ (by decide)) _ _ _, rfl⟩
  rw [if_neg (by simp [hcs])] at hbook
  obtain ⟨bk, w₂, hb, hback⟩ := runOn_bind_eq_ok hbook
  rcases bookRoom_spec hb with ⟨hbs, hbe, rfl⟩ | ⟨hbs, nb, hnb, hbooked⟩
  · -- the new booking was refused: the old slot is booked again, unless the outcome is unknown
    rw [if_neg (by simp [hbs])] at hback
    split at hback
    · simp only [runOn_pure, Prod.mk.injEq, Except.ok.injEq] at hback
      obtain ⟨rfl, rfl⟩ := hback
      exact Or.inr (Or.inr (Or.inr ⟨ref, hcan, rfl, rfl, rfl⟩))
    rw [href] at hback
    dsimp only at hback
    obtain ⟨rs, w₃, hr, hanswer⟩ := runOn_bind_eq_ok hback
    rcases bookRoom_spec hr with ⟨hrs, -, rfl⟩ | ⟨hrs, rb, hrb, hrbooked⟩
    · rw [hrs] at hanswer
      simp only [runOn_pure, Prod.mk.injEq, Except.ok.injEq] at hanswer
      obtain ⟨rfl, rfl⟩ := hanswer
      exact Or.inr (Or.inr (Or.inr ⟨ref, hcan, rfl, rfl, rfl⟩))
    · rw [hrs, hrb] at hanswer
      simp only [runOn_pure, Prod.mk.injEq, Except.ok.injEq] at hanswer
      obtain ⟨rfl, rfl⟩ := hanswer
      refine Or.inr (Or.inr (Or.inl ⟨ref, w₂, rb, hcan, hrbooked, rfl, ?_, rfl⟩))
      exact fun he => getD_ne_partiallyFailed hbe _ (by decide) (Option.some.inj he)
  · -- the new booking succeeded
    rw [if_pos hbs, hnb] at hback
    simp only [runOn_pure, Prod.mk.injEq, Except.ok.injEq] at hback
    obtain ⟨rfl, rfl⟩ := hback
    exact Or.inr (Or.inl ⟨ref, w₁, nb, hcan, hbooked, rfl, rfl⟩)

end Change

/-! ## Every request -/

section Dispatch

variable {n : Nat} {own : Campus} {ch : Channel} {req : Request} {w w' : Cluster} {r : Response}

theorem eq_of_refused (h : Refused r w w') : w' = w := h.2.2

/-- What a node does with a request: nothing to the cluster (a refusal, or an answer that
only reads); opening or removing timeslots at its campus, a failure exactly when nothing
was opened or removed; a booking or a cancellation, answered as a success; or a change of
reservation asked by a client. -/
theorem dispatch_spec (h : runOn (dispatch (deliver (handle n) own) own ch req) w = (.ok r, w')) :
    w' = w ∨
      (∃ room date slots, ch = .client ∧ req = .createRoom room date slots ∧
        w' = w.withStore own ((w.stores own).createRoom room date slots).1 ∧
        (r.success = false ↔ ((w.stores own).createRoom room date slots).2 = .unchanged)) ∨
      (∃ room date slots, ch = .client ∧ req = .deleteRoom room date slots ∧
        w' = w.withStore own ((w.stores own).deleteRoom room date slots).1 ∧
        (r.success = false ↔ ((w.stores own).deleteRoom room date slots).2 = 0)) ∨
      (r.success = true ∧ ∃ u t b, req = .bookRoom u t ∧ BookedAt (n - 1) u t w b w') ∨
      (r.success = true ∧ ∃ u b ref, req = .cancelBooking u b ∧ CancelledAt u b w ref w') ∨
      (∃ u old t, ch = .client ∧ req = .changeReservation u old t ∧
        runOn (changeReservation (deliver (handle n) own) own u old t) w = (.ok r, w')) := by
  cases req with
  | createRoom room date slots =>
    cases ch with
    | client =>
      rcases createRoom_spec h with hr | ⟨hw', -, hiff⟩
      · exact Or.inl (eq_of_refused hr)
      · exact Or.inr (Or.inl ⟨room, date, slots, rfl, rfl, hw', hiff⟩)
    | interNode => exact Or.inl ((Keeps.pure _).eq_of_runOn h)
  | deleteRoom room date slots =>
    cases ch with
    | client =>
      obtain ⟨hw', -, hiff⟩ := deleteRoom_spec h
      exact Or.inr (Or.inr (Or.inl ⟨room, date, slots, rfl, rfl, hw', hiff⟩))
    | interNode => exact Or.inl ((Keeps.pure _).eq_of_runOn h)
  | bookRoom u t =>
    simp only [dispatch] at h
    split at h
    · exact Or.inl ((Keeps.pure _).eq_of_runOn h)
    · rcases bookRoom_spec h with hr | ⟨hs, b, -, hb⟩
      · exact Or.inl (eq_of_refused hr)
      · exact Or.inr (Or.inr (Or.inr (Or.inl ⟨hs, u, t, b, rfl, hb⟩)))
  | availableEverywhere date =>
    cases ch with
    | client => exact Or.inl ((keeps_availableEverywhere n own date).eq_of_runOn h)
    | interNode => exact Or.inl ((Keeps.pure _).eq_of_runOn h)
  | availableHere date =>
    cases ch with
    | client => exact Or.inl ((Keeps.pure _).eq_of_runOn h)
    | interNode => exact Or.inl ((keeps_availableHere own date).eq_of_runOn h)
  | cancelBooking u b =>
    simp only [dispatch] at h
    split at h
    · exact Or.inl ((Keeps.pure _).eq_of_runOn h)
    · rcases cancelBooking_spec h with hr | ⟨hs, ref, -, hc⟩
      · exact Or.inl (eq_of_refused hr)
      · exact Or.inr (Or.inr (Or.inr (Or.inr (Or.inl ⟨hs, u, b, ref, rfl, hc⟩))))
  | changeReservation u old t =>
    cases ch with
    | client =>
      simp only [dispatch] at h
      split at h
      · exact Or.inl ((Keeps.pure _).eq_of_runOn h)
      · exact Or.inr (Or.inr (Or.inr (Or.inr (Or.inr ⟨u, old, t, rfl, rfl, h⟩))))
    | interNode => exact Or.inl ((Keeps.pure _).eq_of_runOn h)
  | bookingCount u date =>
    cases ch with
    | client => exact Or.inl ((Keeps.pure _).eq_of_runOn h)
    | interNode => exact Or.inl ((keeps_bookingCount own u date).eq_of_runOn h)
  | unrecognized => cases ch <;> exact Or.inl ((Keeps.pure _).eq_of_runOn h)

end Dispatch

end Node
end CampusBooking
