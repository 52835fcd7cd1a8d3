import CampusBooking.Proofs.Cluster.Routing
import CampusBooking.Proofs.Cluster.Quota

/-!
# Where a node halts

A node stops the program instead of answering in one place only: when it counts a student's
bookings in the week that ends on a date whose week would start before the first day of the
calendar, while the student holds a booking on that campus, so that the count cannot answer
zero without looking at the week (`Ledger.weeklyCount_eq_error_iff`).  Such a count is made
for another node's question about a student's week, and by a booking, at its own campus and,
through its questions, at the others.

* `NeverHalts m`: every run of `m` answers.  Opening and removing timeslots, cancelling and
  counting free slots never halt.
* `HaltsOnWeek w u a e`: the halt `e` is the count of `u`'s week ending on `a`, a week that
  starts before the calendar, with a booking of `u` held somewhere.
* A booking that halts changed nothing (`bookRoom_halt`); a change of reservation that halts
  had cancelled the old booking and halted on the new slot's week or on the old one's
  (`changeReservation_halt`).  `handle_halt` collects these for every request.
* `Cluster.weeksAsked w req`: the weeks a request may count.  Every halt is on one of them
  (`handle_halt_on_asked_week`), so a node answers whenever none of them starts before the
  calendar with its student holding a booking (`handle_answers_unless_week_before_calendar`).
  The first days of the calendar do halt a node that holds a booking of the student
  (`count_ending_calendar_third_day_halts`).
-/

namespace CampusBooking

namespace Ledger

/-- The week of a student can be counted unless it starts before the calendar while the
student holds a booking. -/
theorem weeklyCount_eq_error_iff {l : Ledger} {u : UserId} {a : Date} {e : Halt} :
    l.weeklyCount u a = .error e ↔ e = .weekWindow a ∧ a.weekStart? = none ∧ l.holds u = true := by
  unfold weeklyCount
  by_cases hu : l.holds u = true
  · rw [if_pos hu]
    cases a.weekStart? with
    | none => simp [hu, eq_comm]
    | some first => simp
  · simp [hu]

/-- A decrement holds no student that the ledger did not hold. -/
theorem holds_of_decrement {l : Ledger} {u v : UserId} {d : Date} (h : (l.decrement u d).1.holds v = true) :
    l.holds v = true := by
  unfold decrement at h
  rcases hd : drop (u, d) l.entries with _ | es
  · rw [hd] at h
    exact h
  · rw [hd] at h
    simp only [holds, List.any_eq_true, beq_iff_eq] at h ⊢
    obtain ⟨e, he, rfl⟩ := h
    have hk : e.1 ∈ l.entries.map Prod.fst :=
      (map_fst_drop_sublist hd).subset (List.mem_map_of_mem he)
    obtain ⟨e', he', hfst⟩ := List.mem_map.mp hk
    exact ⟨e', he', by rw [hfst]⟩

end Ledger

namespace Store

/-- A commit halts only by counting the student's week. -/
theorem commit_eq_error {s : Store} {u : UserId} {room : UInt16} {date : Date} {t : Timeslot}
    {peer limit : UInt32} {fresh : Uuid} {e : Halt} (h : s.commit u room date t peer limit fresh = .error e) :
    e = .weekWindow date ∧ date.weekStart? = none ∧ s.ledger.holds u = true := by
  unfold commit at h
  split at h
  · cases h
  · split at h
    · cases h
    · cases h
    · rcases hw : s.weeklyCount u date with e' | held
      · rw [hw] at h
        cases h
        exact Ledger.weeklyCount_eq_error_iff.mp hw
      · rw [hw] at h
        simp only [bind, Except.bind] at h
        split at h <;> cases h

end Store

open Cluster

variable {α β γ : Type}

/-! ## Steps that never halt -/

/-- Every run of the step answers. -/
def NeverHalts (m : ClusterM α) : Prop := ∀ w e w', runOn m w ≠ (.error e, w')

namespace NeverHalts

theorem pure (a : α) : NeverHalts (Pure.pure a : ClusterM α) := fun _ _ _ h => by cases h

theorem get : NeverHalts (MonadState.get : ClusterM Cluster) := fun _ _ _ h => by cases h

theorem storeOf (c : Campus) : NeverHalts (Cluster.storeOf c) := fun _ _ _ h => by cases h

theorem setStore (c : Campus) (s : Store) : NeverHalts (Cluster.setStore c s) := fun _ _ _ h => by cases h

theorem modify (f : Cluster → Cluster) : NeverHalts (modify f : ClusterM Unit) :=
  fun _ _ _ h => by cases h

theorem bind {m : ClusterM α} {f : α → ClusterM β} (hm : NeverHalts m) (hf : ∀ a, NeverHalts (f a)) :
    NeverHalts (m >>= f) := by
  intro w e w' h
  rcases runOn_bind_eq_error h with hhalt | ⟨a, w₁, -, hrest⟩
  · exact hm w e w' hhalt
  · exact hf a w₁ e w' hrest

theorem map {m : ClusterM α} (f : α → β) (hm : NeverHalts m) : NeverHalts (f <$> m) := by
  rw [map_eq_bind_pure_comp]
  exact hm.bind fun _ => pure _

theorem foldlM {f : β → γ → ClusterM β} (hf : ∀ b x, NeverHalts (f b x)) :
    ∀ (l : List γ) (init : β), NeverHalts (l.foldlM f init)
  | [], init => pure init
  | x :: l, init => by
    rw [List.foldlM_cons]
    exact (hf init x).bind fun b => foldlM hf l b

end NeverHalts

section Answering

variable {hh : Campus → Channel → Request → ClusterM Response}

theorem neverHalts_deliver {src dst : Campus} {req : Request} {wait : Nat}
    (h : NeverHalts (hh dst .interNode req)) : NeverHalts (Node.deliver hh src dst req wait) := by
  unfold Node.deliver
  refine NeverHalts.get.bind fun w => ?_
  split
  · exact NeverHalts.pure _
  · exact NeverHalts.pure _
  · exact NeverHalts.pure _
  · split
    · exact h.bind fun _ => NeverHalts.pure _
    · exact NeverHalts.pure _

theorem neverHalts_forward {own target : Campus} {ch : Channel} {req : Request}
    (h : NeverHalts (hh target .interNode req)) : NeverHalts (Node.forward (Node.deliver hh own) own ch target req) := by
  unfold Node.forward
  split
  · exact NeverHalts.pure _
  · refine NeverHalts.get.bind fun w => (neverHalts_deliver h).bind fun x => ?_
    split <;> exact NeverHalts.pure _

end Answering

namespace Node

theorem neverHalts_handle_zero (own : Campus) (ch : Channel) (req : Request) :
    NeverHalts (handle 0 own ch req) :=
  NeverHalts.pure _

theorem neverHalts_availableHere (own : Campus) (date : Date) : NeverHalts (availableHere own date) :=
  (NeverHalts.storeOf own).bind fun _ => NeverHalts.pure _

theorem neverHalts_handle_availableHere (n : Nat) (c : Campus) (date : Date) :
    NeverHalts (handle n c .interNode (.availableHere date)) := by
  cases n with
  | zero => exact neverHalts_handle_zero _ _ _
  | succ n =>
    rw [handle_succ]
    exact (neverHalts_availableHere c date).map _

/-- Counting the free slots of every campus always answers. -/
theorem neverHalts_availableEverywhere (n : Nat) (own : Campus) (date : Date) :
    NeverHalts (availableEverywhere (deliver (handle n) own) own date) := by
  unfold availableEverywhere askPeers askOne
  refine (NeverHalts.storeOf own).bind fun _ => ?_
  refine (NeverHalts.get.bind fun w => NeverHalts.foldlM (fun T c => ?_) _ _).bind fun _ => NeverHalts.pure _
  exact (neverHalts_deliver (neverHalts_handle_availableHere n c date)).bind fun _ => NeverHalts.pure _

theorem neverHalts_cancelBooking_at_campus (l : Link) (ch : Channel) (u : UserId) (b : BookingId) :
    NeverHalts (cancelBooking l b.campus ch u b) := by
  unfold cancelBooking
  rw [if_neg (fun h => h rfl)]
  refine (NeverHalts.storeOf _).bind fun s => ?_
  split
  · exact (NeverHalts.setStore _ _).bind fun _ => NeverHalts.pure _
  · exact NeverHalts.pure _

theorem neverHalts_handle_cancelBooking (n : Nat) (c : Campus) (u : UserId) (b : BookingId) :
    NeverHalts (handle n c .interNode (.cancelBooking u b)) := by
  cases n with
  | zero => exact neverHalts_handle_zero _ _ _
  | succ n =>
    rw [handle_succ]
    refine NeverHalts.map _ ?_
    simp only [dispatch, rejectNonStudent_interNode]
    by_cases hb : b.campus = c
    · subst hb
      exact neverHalts_cancelBooking_at_campus _ _ u b
    · rw [cancelBooking_of_ne hb]
      unfold forward
      exact NeverHalts.pure _

/-- A cancellation, here or at the booking's campus, always answers. -/
theorem neverHalts_cancelBooking (n : Nat) (own : Campus) (ch : Channel) (u : UserId) (b : BookingId) :
    NeverHalts (cancelBooking (deliver (handle n) own) own ch u b) := by
  by_cases hb : b.campus = own
  · subst hb
    exact neverHalts_cancelBooking_at_campus _ _ u b
  · rw [cancelBooking_of_ne hb]
    exact neverHalts_forward (neverHalts_handle_cancelBooking n _ u b)

theorem neverHalts_createRoom (own : Campus) (room : UInt16) (date : Date) (slots : List Timeslot) :
    NeverHalts (createRoom own room date slots) := by
  unfold createRoom
  split
  · exact NeverHalts.pure _
  · exact (NeverHalts.storeOf own).bind fun _ => (NeverHalts.setStore _ _).bind fun _ => NeverHalts.pure _

theorem neverHalts_deleteRoom (own : Campus) (room : UInt16) (date : Date) (slots : List Timeslot) :
    NeverHalts (deleteRoom own room date slots) :=
  (NeverHalts.storeOf own).bind fun _ => (NeverHalts.setStore _ _).bind fun _ => NeverHalts.pure _

end Node

/-! ## Halts on a week -/

/-- The halt `e` is the count of `u`'s bookings in the week that ends on `a`: that week starts
before the first day of the calendar, while some store holds a booking of `u`. -/
def HaltsOnWeek (w : Cluster) (u : UserId) (a : Date) (e : Halt) : Prop :=
  e = .weekWindow a ∧ a.weekStart? = none ∧ ∃ c, (w.stores c).ledger.holds u = true

namespace Node

section Halts

variable {n : Nat} {own c : Campus} {ch : Channel} {u : UserId} {w w' : Cluster} {e : Halt}

/-- A halt at depth `n + 1` is a halt of `dispatch`. -/
theorem handle_succ_halt {req : Request} (h : runOn (handle (n + 1) own ch req) w = (.error e, w')) :
    runOn (dispatch (deliver (handle n) own) own ch req) w = (.error e, w') := by
  rw [handle_succ, runOn_map] at h
  rcases hd : runOn (dispatch (deliver (handle n) own) own ch req) w with ⟨_ | r, w₁⟩ <;> rw [hd] at h
  · exact h
  · cases h

theorem handle_zero_not_halt {req : Request} (h : runOn (handle 0 own ch req) w = (.error e, w')) : False :=
  neverHalts_handle_zero own ch req w e w' h

/-- A call over the link halts only when the target halts. -/
theorem deliver_halt {hh : Campus → Channel → Request → ClusterM Response} {src dst : Campus} {req : Request}
    {wait : Nat} (h : runOn (deliver hh src dst req wait) w = (.error e, w')) :
    runOn (hh dst .interNode req) w = (.error e, w') := by
  unfold deliver at h
  simp only [runOn_bind, runOn_get] at h
  split at h
  · cases h
  · cases h
  · cases h
  · split at h
    · rcases runOn_bind_eq_error h with hhalt | ⟨r, w₁, -, hanswer⟩
      · exact hhalt
      · cases hanswer
    · cases h

/-- A forwarded request halts only when its campus halts on it. -/
theorem forward_halt {target : Campus} {req : Request}
    (h : runOn (forward (deliver (handle n) own) own ch target req) w = (.error e, w')) :
    runOn (handle n target .interNode req) w = (.error e, w') := by
  unfold forward at h
  split at h
  · cases h
  · rw [runOn_bind, runOn_get] at h
    dsimp only at h
    rcases runOn_bind_eq_error h with hhalt | ⟨x, w₁, -, hanswer⟩
    · exact deliver_halt hhalt
    · split at hanswer <;> cases hanswer

theorem bookingCount_halt {d : Date} (h : runOn (bookingCount own u d) w = (.error e, w')) :
    w' = w ∧ HaltsOnWeek w u d e := by
  refine ⟨(keeps_bookingCount own u d).eq_of_runOn h, ?_⟩
  unfold bookingCount at h
  simp only [runOn_bind, runOn_storeOf, runOn_orHalt] at h
  rcases hweek : (w.stores own).weeklyCount u d with e' | k <;> rw [hweek] at h
  · cases h
    obtain ⟨he, hs, hu⟩ := Ledger.weeklyCount_eq_error_iff.mp hweek
    exact ⟨he, hs, own, hu⟩
  · cases h

theorem handle_bookingCount_halt {d : Date} (h : runOn (handle n c .interNode (.bookingCount u d)) w = (.error e, w')) :
    w' = w ∧ HaltsOnWeek w u d e := by
  cases n with
  | zero => exact (handle_zero_not_halt h).elim
  | succ n =>
    have hd := handle_succ_halt h
    simp only [dispatch] at hd
    exact bookingCount_halt hd

/-- A fold of steps that keep the cluster halts only where one of its steps halts. -/
theorem foldlM_halt {f : β → γ → ClusterM β} (hf : ∀ b x, Keeps (f b x)) (L : List γ) (init : β)
    (h : runOn (L.foldlM f init) w = (.error e, w')) : ∃ b, ∃ x ∈ L, ∃ w'', runOn (f b x) w = (.error e, w'') := by
  induction L generalizing init w' with
  | nil => cases h
  | cons x L ih =>
    rw [List.foldlM_cons] at h
    rcases runOn_bind_eq_error h with hhalt | ⟨b, w₁, hr, hrest⟩
    · exact ⟨init, x, List.mem_cons_self, _, hhalt⟩
    · obtain rfl := (hf init x).eq_of_runOn hr
      obtain ⟨b', x', hx', w'', h'⟩ := ih b hrest
      exact ⟨b', x', List.mem_cons_of_mem _ hx', w'', h'⟩

/-- Asking the other campuses for a student's week halts only on that week. -/
theorem askPeers_bookingCount_halt {d : Date}
    (h : runOn (askPeers (deliver (handle n) own) own (.bookingCount u d)) w = (.error e, w')) :
    w' = w ∧ HaltsOnWeek w u d e := by
  refine ⟨(keeps_askPeers_bookingCount n own u d).eq_of_runOn h, ?_⟩
  unfold askPeers at h
  simp only [runOn_bind, runOn_get] at h
  have hkeep : ∀ T c, Keeps (askOne (deliver (handle n) own) (.bookingCount u d) w.peerTimeout T c) :=
    keeps_askOne fun c => keeps_deliver (keeps_handle_bookingCount n c u d)
  obtain ⟨T, c, -, w'', hc⟩ := foldlM_halt hkeep own.peers Tally.empty h
  unfold askOne at hc
  rcases runOn_bind_eq_error hc with hhalt | ⟨x, w₁, -, hrest⟩
  · exact (handle_bookingCount_halt (deliver_halt hhalt)).2
  · cases hrest

/-- A booking at the node's campus halts only on the student's week, and then changed nothing. -/
theorem bookHere_halt {room : UInt16} {date : Date} {slot : Timeslot}
    (h : runOn (bookHere (deliver (handle n) own) own u room date slot) w = (.error e, w')) :
    w' = w ∧ HaltsOnWeek w u date e := by
  unfold bookHere at h
  simp only [runOn_bind, runOn_storeOf] at h
  split at h
  · cases h
  · rcases runOn_bind_eq_error h with hhalt | ⟨tally, w₁, hp, hcommit⟩
    · -- another campus halted on the week
      exact askPeers_bookingCount_halt hhalt
    · obtain rfl := (keeps_askPeers_bookingCount n own u date).eq_of_runOn hp
      simp only [runOn_bind, runOn_get, runOn_orHalt] at hcommit
      rcases hc : (w₁.stores own).commit u room date slot tally.total w₁.quota (w₁.ids w₁.drawn) with
        e' | _ | ⟨s, b⟩ <;> rw [hc] at hcommit
      · -- the commit halted on the week of the node's own campus
        cases hcommit
        obtain ⟨he, hs, hu⟩ := Store.commit_eq_error hc
        exact ⟨rfl, he, hs, own, hu⟩
      · cases hcommit
      · simp only [runOn_bind, runOn_setStore, runOn_modify, runOn_pure] at hcommit
        cases hcommit

/-- A booking that another node sent to the slot's campus halts only there, on the week. -/
theorem handle_bookRoom_interNode_halt {t : SlotRef}
    (h : runOn (handle n t.campus .interNode (.bookRoom u t)) w = (.error e, w')) :
    w' = w ∧ HaltsOnWeek w u t.date e := by
  cases n with
  | zero => exact (handle_zero_not_halt h).elim
  | succ n =>
    have hd := handle_succ_halt h
    simp only [dispatch, rejectNonStudent_interNode, bookRoom, if_pos] at hd
    exact bookHere_halt hd

/-- A booking, here or at the slot's campus, halts only on the student's week of the slot's
date, and then changed nothing. -/
theorem bookRoom_halt {t : SlotRef} (h : runOn (bookRoom (deliver (handle n) own) own ch u t) w = (.error e, w')) :
    w' = w ∧ HaltsOnWeek w u t.date e := by
  unfold bookRoom at h
  split at h
  · rename_i ht
    subst ht
    exact bookHere_halt h
  · exact handle_bookRoom_interNode_halt (forward_halt h)

/-- A change of reservation halts only after its cancellation went through: on the week of
the new slot's date, or, putting the old slot back, on the week of the old slot's date. -/
theorem changeReservation_halt {old : BookingId} {t : SlotRef}
    (h : runOn (changeReservation (deliver (handle n) own) own u old t) w = (.error e, w')) :
    ∃ ref, CancelledAt u old w ref w' ∧ (HaltsOnWeek w' u t.date e ∨ HaltsOnWeek w' u ref.date e) := by
  unfold changeReservation at h
  rcases runOn_bind_eq_error h with hhalt | ⟨c, w₁, hc, hbook⟩
  · exact (neverHalts_cancelBooking n own .client u old w e w' hhalt).elim
  rcases cancelBooking_spec hc with ⟨hcs, -, rfl⟩ | ⟨hcs, ref, href, hcan⟩
  · rw [if_pos (by simp [hcs])] at hbook
    cases hbook
  rw [if_neg (by simp [hcs])] at hbook
  rcases runOn_bind_eq_error hbook with hhalt | ⟨bk, w₂, hb, hback⟩
  · -- the new booking halted, and changed nothing
    obtain ⟨rfl, hweek⟩ := bookRoom_halt hhalt
    exact ⟨ref, hcan, .inl hweek⟩
  rcases bookRoom_spec hb with ⟨hbs, -, rfl⟩ | ⟨hbs, nb, hnb, -⟩
  · rw [if_neg (by simp [hbs])] at hback
    split at hback
    · cases hback
    rw [href] at hback
    dsimp only at hback
    rcases runOn_bind_eq_error hback with hhalt | ⟨rs, w₃, -, hanswer⟩
    · -- putting the old slot back halted, and changed nothing
      obtain ⟨rfl, hweek⟩ := bookRoom_halt hhalt
      exact ⟨ref, hcan, .inr hweek⟩
    · split at hanswer <;> cases hanswer
  · rw [if_pos hbs, hnb] at hback
    cases hback

/-- What a request does when the node halts on it: a booking and another node's question
about a student's week halt on the week of their date and change nothing; a change of
reservation halts only after its cancellation, on the week of the new slot's date or of the
old slot's.  Every other request always answers. -/
theorem dispatch_halt {req : Request} (h : runOn (dispatch (deliver (handle n) own) own ch req) w = (.error e, w')) :
    (w' = w ∧ ((∃ u t, req = .bookRoom u t ∧ HaltsOnWeek w u t.date e) ∨
      (∃ u d, ch = .interNode ∧ req = .bookingCount u d ∧ HaltsOnWeek w u d e))) ∨
    (∃ u old t ref, ch = .client ∧ req = .changeReservation u old t ∧ CancelledAt u old w ref w' ∧
      (HaltsOnWeek w' u t.date e ∨ HaltsOnWeek w' u ref.date e)) := by
  cases req with
  | createRoom room date slots =>
    cases ch with
    | client => exact (neverHalts_createRoom own room date slots w e w' h).elim
    | interNode => exact (NeverHalts.pure _ w e w' h).elim
  | deleteRoom room date slots =>
    cases ch with
    | client => exact (neverHalts_deleteRoom own room date slots w e w' h).elim
    | interNode => exact (NeverHalts.pure _ w e w' h).elim
  | bookRoom u t =>
    simp only [dispatch] at h
    split at h
    · exact (NeverHalts.pure _ w e w' h).elim
    · obtain ⟨rfl, hweek⟩ := bookRoom_halt h
      exact .inl ⟨rfl, .inl ⟨u, t, rfl, hweek⟩⟩
  | availableEverywhere date =>
    cases ch with
    | client => exact (neverHalts_availableEverywhere n own date w e w' h).elim
    | interNode => exact (NeverHalts.pure _ w e w' h).elim
  | availableHere date =>
    cases ch with
    | client => exact (NeverHalts.pure _ w e w' h).elim
    | interNode => exact (neverHalts_availableHere own date w e w' h).elim
  | cancelBooking u b =>
    simp only [dispatch] at h
    split at h
    · exact (NeverHalts.pure _ w e w' h).elim
    · exact (neverHalts_cancelBooking n own ch u b w e w' h).elim
  | changeReservation u old t =>
    cases ch with
    | client =>
      simp only [dispatch] at h
      split at h
      · exact (NeverHalts.pure _ w e w' h).elim
      · obtain ⟨ref, hcan, hweek⟩ := changeReservation_halt h
        exact .inr ⟨u, old, t, ref, rfl, rfl, hcan, hweek⟩
    | interNode => exact (NeverHalts.pure _ w e w' h).elim
  | bookingCount u d =>
    cases ch with
    | client => exact (NeverHalts.pure _ w e w' h).elim
    | interNode =>
      obtain ⟨rfl, hweek⟩ := bookingCount_halt h
      exact .inl ⟨rfl, .inr ⟨u, d, rfl, rfl, hweek⟩⟩
  | unrecognized => cases ch <;> exact (NeverHalts.pure _ w e w' h).elim

theorem handle_halt {req : Request} (h : runOn (handle n own ch req) w = (.error e, w')) :
    (w' = w ∧ ((∃ u t, req = .bookRoom u t ∧ HaltsOnWeek w u t.date e) ∨
      (∃ u d, ch = .interNode ∧ req = .bookingCount u d ∧ HaltsOnWeek w u d e))) ∨
    (∃ u old t ref, ch = .client ∧ req = .changeReservation u old t ∧ CancelledAt u old w ref w' ∧
      (HaltsOnWeek w' u t.date e ∨ HaltsOnWeek w' u ref.date e)) := by
  cases n with
  | zero => exact (handle_zero_not_halt h).elim
  | succ n => exact dispatch_halt (handle_succ_halt h)

/-- A cancellation holds no student in a ledger that did not hold it before. -/
theorem CancelledAt.holds_of {v : UserId} {b : BookingId} {ref : SlotRef} (h : CancelledAt u b w ref w')
    (hv : (w'.stores c).ledger.holds v = true) : (w.stores c).ledger.holds v = true := by
  obtain ⟨s, hc, rfl⟩ := h
  rw [withStore_stores] at hv
  split at hv
  · rename_i hcb
    subst hcb
    rw [Store.cancel_ledger hc] at hv
    exact Ledger.holds_of_decrement hv
  · exact hv

/-- Another node's question about a student's week halts the node exactly when that week
starts before the first day of the calendar while the node's store holds a booking of the
student. -/
theorem handle_bookingCount_halts_iff {a : Date} :
    (∃ w', runOn (handle (n + 1) own .interNode (.bookingCount u a)) w = (.error (.weekWindow a), w')) ↔
      a.weekStart? = none ∧ (w.stores own).ledger.holds u = true := by
  rw [handle_succ]
  simp only [dispatch, bookingCount, runOn_map, runOn_bind, runOn_storeOf, runOn_orHalt]
  rcases hweek : (w.stores own).weeklyCount u a with e' | k
  · have he := Ledger.weeklyCount_eq_error_iff.mp hweek
    rw [he.1] at hweek ⊢
    simp [he.2]
  · have hne : ¬ (a.weekStart? = none ∧ (w.stores own).ledger.holds u = true) := fun hh =>
      absurd (Ledger.weeklyCount_eq_error_iff.mpr ⟨rfl, hh⟩) (by simp [Store.weeklyCount] at hweek; simp [hweek])
    simp [hne]

end Halts

end Node

/-- A halt on a week after a cancellation is a halt on the week before it. -/
theorem HaltsOnWeek.of_cancelled {w w' : Cluster} {u v : UserId} {b : BookingId} {ref : SlotRef} {a : Date}
    {e : Halt} (hw : HaltsOnWeek w' v a e) (h : Node.CancelledAt u b w ref w') : HaltsOnWeek w v a e := by
  obtain ⟨he, hs, c, hc⟩ := hw
  exact ⟨he, hs, c, h.holds_of hc⟩

namespace Cluster

/-- The weeks a request may count, each as its student and the week's last day: the day a
booking or a question about a week names, and for a change of reservation the day of the new
slot and the day of the booking it moves. -/
def weeksAsked (w : Cluster) : Request → List (UserId × Date)
  | .bookRoom u t => [(u, t.date)]
  | .bookingCount u d => [(u, d)]
  | .changeReservation u b t => (u, t.date) :: ((w.stores b.campus).locate? b).toList.map fun k => (u, k.date)
  | _ => []

end Cluster

namespace Node

variable {n : Nat} {own : Campus} {ch : Channel} {req : Request} {w w' : Cluster} {e : Halt}

/-- Every halt of a node is the count of a week that the request asks about, a week that
starts before the first day of the calendar, for a student who holds a booking. -/
theorem handle_halt_on_asked_week (h : runOn (handle n own ch req) w = (.error e, w')) :
    ∃ u a, (u, a) ∈ w.weeksAsked req ∧ HaltsOnWeek w u a e := by
  rcases handle_halt h with ⟨-, ⟨u, t, rfl, hweek⟩ | ⟨u, d, -, rfl, hweek⟩⟩ |
    ⟨u, old, t, ref, -, rfl, hcan, hweek | hweek⟩
  · exact ⟨u, t.date, List.mem_singleton_self _, hweek⟩
  · exact ⟨u, d, List.mem_singleton_self _, hweek⟩
  · exact ⟨u, t.date, List.mem_cons_self, hweek.of_cancelled hcan⟩
  · -- putting the old slot back counted the week of the old booking's date
    refine ⟨u, ref.date, ?_, hweek.of_cancelled hcan⟩
    obtain ⟨s, hc, -⟩ := hcan
    simp [Cluster.weeksAsked, Store.cancel_locate hc]

/-- A node does not halt when no week the request asks about starts before the calendar for a
student with bookings. -/
theorem handle_ne_halt
    (hweeks : ∀ u a, (u, a) ∈ w.weeksAsked req → a.weekStart? ≠ none ∨ ∀ c, (w.stores c).ledger.holds u = false) :
    runOn (handle n own ch req) w ≠ (.error e, w') := by
  intro h
  obtain ⟨u, a, hmem, -, hstart, c, hc⟩ := handle_halt_on_asked_week h
  rcases hweeks u a hmem with hne | hnone
  · exact hne hstart
  · rw [hnone c] at hc
    cases hc

/-- A node answers every request, on either channel and whatever the rules of the link, unless
one of the weeks the request asks about starts before the first day of the calendar while its
student holds a booking. -/
theorem handle_answers_unless_week_before_calendar
    (hweeks : ∀ u a, (u, a) ∈ w.weeksAsked req → a.weekStart? ≠ none ∨ ∀ c, (w.stores c).ledger.holds u = false) :
    ∃ r w', runOn (handle n own ch req) w = (.ok r, w') := by
  rcases h : runOn (handle n own ch req) w with ⟨_ | r, w'⟩
  · exact absurd h (handle_ne_halt hweeks)
  · exact ⟨r, w', rfl⟩

/-! ## A week before the calendar -/

/-- The third day of the calendar, -262143-01-03. -/
def calendarThirdDay : Date := ⟨-96465290, by decide, by decide⟩

/-- With a booking held, another node's question about the student's week that ends on
2021-01-10 is answered. -/
theorem bookedInJanuary_count_answered :
    (∀ v a, (v, a) ∈ bookedInJanuary.weeksAsked (.bookingCount ⟨.dvl, .student, 1234⟩ ⟨18637, by decide, by decide⟩) →
        a.weekStart? ≠ none ∨ ∀ c, (bookedInJanuary.stores c).ledger.holds v = false) ∧
      ∃ r w', runOn (handle Node.depth .dvl .interNode
        (.bookingCount ⟨.dvl, .student, 1234⟩ ⟨18637, by decide, by decide⟩)) bookedInJanuary = (.ok r, w') := by
  have hweeks : ∀ v a, (v, a) ∈ bookedInJanuary.weeksAsked
      (.bookingCount ⟨.dvl, .student, 1234⟩ ⟨18637, by decide, by decide⟩) →
        a.weekStart? ≠ none ∨ ∀ c, (bookedInJanuary.stores c).ledger.holds v = false := by
    intro v a h
    simp only [Cluster.weeksAsked, List.mem_singleton, Prod.mk.injEq] at h
    obtain ⟨-, rfl⟩ := h
    exact Or.inl (by decide)
  exact ⟨hweeks, handle_answers_unless_week_before_calendar hweeks⟩

/-- A node does not answer every request: in a cluster reached by opening a room and booking
it, another node's question about the booking student's week that ends on the third day of
the calendar halts DVL. -/
theorem count_ending_calendar_third_day_halts :
    bookedInJanuary.Reachable ∧
      ∃ w', runOn (handle Node.depth .dvl .interNode (.bookingCount ⟨.dvl, .student, 1234⟩ calendarThirdDay))
        bookedInJanuary = (.error (.weekWindow calendarThirdDay), w') :=
  ⟨bookedInJanuary_reachable, handle_bookingCount_halts_iff.mpr ⟨by decide, by decide +kernel⟩⟩

end Node

end CampusBooking
