import CampusBooking.Proofs.Cluster.Tally
import CampusBooking.Proofs.Cluster.Views

/-!
# The weekly quota over the campuses

A node books a slot only when the student's bookings over the three campuses, in the seven
days that end on the slot's date, are fewer than the weekly quota.  It asks the other
campuses for their part of that week, and of that week only: a booking on an earlier date
is checked against the week that ends on the earlier date, which leaves the later days
out.  So the quota is not kept for every week: with quota 1 a student can book a day and
then the day before it (`earlier_day_booking_overfills_week`).

What the nodes do keep, answering client requests over a link that delivers every call
(`Served`): no student holds more bookings dated on one day, over the three campuses, than
the quota, and so no more than seven times the quota in a week
(`served_day_and_week_within_quota`).  Requests change the day totals only through
bookings, and each booking is checked against a week that contains its day.  The check is
exact because that week, seven days of at most `q` bookings each, fits in the 32 bits its
total is added in.
-/

namespace CampusBooking
namespace Cluster

open Node

/-- The bookings of a student dated on one day, over the three campuses, as their ledgers
count them. -/
def dayTotal (w : Cluster) (u : UserId) (d : Date) : Nat := (Campus.all.map fun c => w.countAt c u d).sum

/-- The bookings of a student in the week that ends on `anchor`, over the three campuses. -/
def weekTotal (w : Cluster) (u : UserId) (anchor : Date) : Nat :=
  (Campus.all.map fun c => (w.stores c).ledger.weekTotal u anchor).sum

/-- No student holds more bookings dated on one day, over the three campuses, than the
quota. -/
def WithinQuota (w : Cluster) : Prop := ∀ u d, w.dayTotal u d ≤ w.quota.toNat

theorem dayTotal_eq (w : Cluster) (u : UserId) (d : Date) :
    w.dayTotal u d = w.countAt .dvl u d + w.countAt .kkl u d + w.countAt .wst u d := by
  simp only [dayTotal, Campus.all, List.map_cons, List.map_nil, List.sum_cons, List.sum_nil]
  omega

theorem countAt_le_dayTotal (w : Cluster) (c : Campus) (u : UserId) (d : Date) : w.countAt c u d ≤ w.dayTotal u d := by
  rw [dayTotal_eq]
  cases c <;> omega

theorem weekTotal_eq (w : Cluster) (u : UserId) (a : Date) :
    w.weekTotal u a = (w.stores .dvl).ledger.weekTotal u a + (w.stores .kkl).ledger.weekTotal u a +
      (w.stores .wst).ledger.weekTotal u a := by
  simp only [weekTotal, Campus.all, List.map_cons, List.map_nil, List.sum_cons, List.sum_nil]
  omega

section Days

variable {w w' : Cluster} {u : UserId} {d : Date}

theorem dayTotal_le_of_countAt_le (h : ∀ c, w'.countAt c u d ≤ w.countAt c u d) :
    w'.dayTotal u d ≤ w.dayTotal u d := by
  rw [dayTotal_eq, dayTotal_eq]
  have h₁ := h .dvl
  have h₂ := h .kkl
  have h₃ := h .wst
  omega

theorem dayTotal_add_one {c₀ : Campus} (h : ∀ c, w'.countAt c u d = w.countAt c u d + if c = c₀ then 1 else 0) :
    w'.dayTotal u d = w.dayTotal u d + 1 := by
  rw [dayTotal_eq, dayTotal_eq, h, h, h]
  cases c₀ <;> simp <;> omega

/-- A day's bookings are part of the week that ends on it, wherever every campus can count
that week. -/
theorem dayTotal_le_weekTotal (h : ∀ c, ∃ x, (w.stores c).ledger.weeklyCount u d = .ok x) :
    w.dayTotal u d ≤ w.weekTotal u d := by
  have hle : ∀ c, w.countAt c u d ≤ (w.stores c).ledger.weekTotal u d := fun c =>
    Ledger.count_le_weekTotal (h c).choose_spec
  have h₁ := hle .dvl
  have h₂ := hle .kkl
  have h₃ := hle .wst
  rw [dayTotal_eq, weekTotal_eq]
  omega

/-- Day totals that never grow keep the quota. -/
theorem WithinQuota.of_countAt_le (hwq : w.WithinQuota) (hq : w'.quota = w.quota)
    (h : ∀ c u d, w'.countAt c u d ≤ w.countAt c u d) : w'.WithinQuota := fun u d => by
  rw [hq]
  exact (dayTotal_le_of_countAt_le (h · u d)).trans (hwq u d)

/-- With every day within the quota, a week over the three campuses holds at most seven
times the quota. -/
theorem WithinQuota.weekTotal_le (hs : w.Shaped) (hwq : w.WithinQuota) (u : UserId) (a : Date) :
    w.weekTotal u a ≤ 7 * w.quota.toNat := by
  -- each campus's week is at most its seven days; summing by day first gives the day totals
  have hweek : ∀ c, (w.stores c).ledger.weekTotal u a ≤ (a.weekDays.map fun e => w.countAt c u e).sum :=
    fun c => Ledger.weekTotal_le (hs.store_shaped c).ledger_nodup u a
  have hswap : (a.weekDays.map fun e => w.dayTotal u e).sum =
      (a.weekDays.map fun e => w.countAt .dvl u e).sum + (a.weekDays.map fun e => w.countAt .kkl u e).sum +
        (a.weekDays.map fun e => w.countAt .wst u e).sum := by
    simp only [dayTotal_eq, List.sum_map_add]
  have hdays : (a.weekDays.map fun e => w.dayTotal u e).sum ≤ a.weekDays.length * w.quota.toNat := by
    have hle := List.sum_le_card_nsmul (a.weekDays.map fun e => w.dayTotal u e) w.quota.toNat (by
      intro x hx
      obtain ⟨e, -, rfl⟩ := List.mem_map.mp hx
      exact hwq u e)
    simpa using hle
  have hseven : a.weekDays.length * w.quota.toNat ≤ 7 * w.quota.toNat :=
    Nat.mul_le_mul_right _ (Date.length_weekDays_le a)
  have h₁ := hweek .dvl
  have h₂ := hweek .kkl
  have h₃ := hweek .wst
  rw [weekTotal_eq]
  omega

end Days

/-! ## What each step does to the day totals -/

theorem Change.delivers {w w' : Cluster} (h : Change w w') (hd : w.Delivers) : w'.Delivers := by
  obtain ⟨hr, hu, -⟩ := h.settings_eq
  exact ⟨hr.trans hd.1, fun c => hu ▸ hd.2 c⟩

section Rooms

variable {w : Cluster}

theorem countAt_createRoom (w : Cluster) (own c : Campus) (room : UInt16) (date : Date) (slots : List Timeslot)
    (v : UserId) (d : Date) :
    (w.withStore own ((w.stores own).createRoom room date slots).1).countAt c v d = w.countAt c v d := by
  rw [countAt_withStore]
  split
  · rename_i hc
    subst hc
    rw [(Store.createRoom_fields _ room date slots).2.2]
    rfl
  · rfl

theorem countAt_deleteRoom_le (hs : w.Shaped) (own c : Campus) (room : UInt16) (date : Date)
    (slots : List Timeslot) (v : UserId) (d : Date) :
    (w.withStore own ((w.stores own).deleteRoom room date slots).1).countAt c v d ≤ w.countAt c v d := by
  rw [countAt_withStore]
  split
  · rename_i hco
    subst hco
    exact Store.count_deleteRoom_le (hs.store_shaped c) slots v d
  · exact le_refl _

end Rooms

end Cluster

namespace Node

open Cluster

section Steps

variable {w w' w₁ : Cluster} {k : Nat} {u : UserId} {t ref : SlotRef} {b nb : BookingId}

theorem CancelledAt.withinQuota (hs : w.Shaped) (hwq : w.WithinQuota) (h : CancelledAt u b w ref w') :
    w'.WithinQuota :=
  hwq.of_countAt_le (Change.cancel h).settings_eq.2.2 fun c v d => by
    rw [h.countAt_eq hs c v d]
    exact Nat.sub_le _ _

/-- On a link that delivers every call, the other campuses' answers are the words of their
weeks, and the node's own campus is not asked. -/
theorem askPeers_get_weekTotal {m : Nat} {own : Campus} {date : Date} (hd : w.Delivers) {T : Tally}
    (hp : runOn (askPeers (deliver (handle (m + 1)) own) own (.bookingCount u date)) w = (.ok T, w')) :
    w' = w ∧ T.get own = none ∧
      ∀ c, c ≠ own → T.get c = some ((w.stores c).ledger.weekTotal u date).toUInt32 := by
  obtain ⟨rfl, hown, hpeer⟩ := askPeers_bookingCount hd hp
  refine ⟨rfl, hown, fun c hc => ?_⟩
  obtain ⟨n, hn, hget⟩ := hpeer c hc
  rw [hget, Ledger.weeklyCount_eq_weekTotal hn]

/-- A booking whose node could still ask the other campuses, on a link that delivers every
call, was checked against the student's week that ends on its date: every campus counted
that week, and over the three campuses it was below the quota, as long as it fits in the
32 bits its total is added in. -/
theorem BookedAt.weekTotal_lt (hd : w.Delivers) (hfit : w.weekTotal u t.date < 2 ^ 32) (hk : 1 ≤ k)
    (hb : BookedAt k u t w b w') :
    (∀ c, ∃ x, (w.stores c).ledger.weeklyCount u t.date = .ok x) ∧ w.weekTotal u t.date < w.quota.toNat := by
  obtain ⟨m, hkm, T, s, hp, hcommit, -⟩ := id hb
  obtain ⟨m, rfl⟩ : ∃ m', m = m' + 1 := ⟨m - 1, by omega⟩
  obtain ⟨-, -, hpeer⟩ := askPeers_bookingCount hd hp
  obtain ⟨-, hown, hpeer'⟩ := askPeers_get_weekTotal hd hp
  obtain ⟨-, -, -, -, ⟨held, hheld, hcheck⟩, -⟩ := Store.commit_eq_ok hcommit
  -- the node read its own week, and every other campus answered with the word of its week
  have hanswer : ∀ c, ∃ x, (w.stores c).ledger.weeklyCount u t.date = .ok x := by
    intro c
    by_cases hct : c = t.campus
    · subst hct
      exact ⟨held, hheld⟩
    · obtain ⟨n, hn, -⟩ := hpeer c hct
      exact ⟨n, hn⟩
  rw [weekTotal_eq] at hfit ⊢
  have htotal := Tally.total_add_toNat (N := fun c => (w.stores c).ledger.weekTotal u t.date) hown hpeer' hfit
  -- the sum did not wrap, so the check compared the exact week with the quota
  have hlt : ¬ w.quota.toNat ≤ (T.total + held).toNat := fun hle => hcheck (UInt32.le_iff_toNat_le.mpr hle)
  rw [Ledger.weeklyCount_eq_weekTotal hheld, htotal] at hlt
  exact ⟨hanswer, Nat.lt_of_not_le hlt⟩

/-- A booking whose node could still ask the other campuses, on a link that delivers every
call, keeps every student's days within the quota. -/
theorem BookedAt.withinQuota (hd : w.Delivers) (hs : w.Shaped) (hq : 7 * w.quota.toNat < 2 ^ 32)
    (hwq : w.WithinQuota) (hk : 1 ≤ k) (hb : BookedAt k u t w b w') : w'.WithinQuota := by
  have hfit : w.weekTotal u t.date < 2 ^ 32 := lt_of_le_of_lt (hwq.weekTotal_le hs u t.date) hq
  obtain ⟨hanswer, hlt⟩ := hb.weekTotal_lt hd hfit hk
  -- the day's bookings are part of that week, so the day had room for one more
  have hday : w.dayTotal u t.date < w.quota.toNat := lt_of_le_of_lt (dayTotal_le_weekTotal hanswer) hlt
  -- and the booked campus's count, part of the day, had room in its word
  have hroom : w.countAt t.campus u t.date + 1 < 2 ^ 32 := by
    have hpart := countAt_le_dayTotal w t.campus u t.date
    have hword := w.quota.toNat_lt
    omega
  have hquota : w'.quota = w.quota := (Change.book hb).settings_eq.2.2
  intro v e
  rw [hquota]
  by_cases hve : v = u ∧ e = t.date
  · -- the booked day gains one booking, at the booked campus
    obtain ⟨rfl, rfl⟩ := hve
    have hcount : ∀ c, w'.countAt c v t.date = w.countAt c v t.date + if c = t.campus then 1 else 0 := by
      intro c
      rw [hb.countAt_add hroom]
      simp
    have hsucc := dayTotal_add_one hcount
    omega
  · refine (dayTotal_le_of_countAt_le fun c => ?_).trans (hwq v e)
    rw [hb.countAt_add hroom, if_neg (fun h => hve ⟨h.2.1, h.2.2⟩)]
    omega

/-- A cancellation followed by a booking keeps the quota, as each does alone. -/
theorem CancelledAt.booked_withinQuota (hd : w.Delivers) (hs : w.Shaped) (hq : 7 * w.quota.toNat < 2 ^ 32)
    (hwq : w.WithinQuota) (hcan : CancelledAt u b w ref w₁) (hk : 1 ≤ k) (hb : BookedAt k u t w₁ nb w') :
    w'.WithinQuota := by
  have hquota : w₁.quota = w.quota := (Change.cancel hcan).settings_eq.2.2
  exact hb.withinQuota ((Change.cancel hcan).delivers hd) ((Change.cancel hcan).shaped hs) (by rw [hquota]; exact hq)
    (hcan.withinQuota hs hwq) hk

end Steps

end Node

namespace Cluster

open Node

section Handle

variable {w w' : Cluster}

/-- A client request that a node answers, on a link that delivers every call, keeps every
student's days within the quota. -/
theorem withinQuota_of_handle (hd : w.Delivers) (hs : w.Shaped) (hq : 7 * w.quota.toNat < 2 ^ 32)
    (hwq : w.WithinQuota) {own : Campus} {req : Request} {r : Response}
    (h : runOn (handle Node.depth own .client req) w = (.ok r, w')) : w'.WithinQuota := by
  -- at the node's depth its bookings still let the other campuses answer their question
  cases handle_made h with
  | keep => exact hwq
  | createRoom c room date slots =>
    exact hwq.of_countAt_le rfl fun c' v d => le_of_eq (countAt_createRoom w c c' room date slots v d)
  | deleteRoom c room date slots => exact hwq.of_countAt_le rfl fun c' v d => countAt_deleteRoom_le hs c c' room date slots v d
  | book hb => exact hb.withinQuota hd hs hq hwq (le_refl 1)
  | cancel hcan => exact hcan.withinQuota hs hwq
  | cancelThenBook hcan hb => exact hcan.booked_withinQuota hd hs hq hwq (le_refl 1) hb

end Handle

/-! ## Clusters served over a link that delivers every call -/

/-- The clusters that the nodes of the three campuses reach from empty stores, with weekly
quota `q` and peer timeout `p`, answering client requests one at a time over a link that
delivers every call. -/
inductive Served (q : UInt32) (p : Nat) : Cluster → Prop
  | start (ids : Nat → Uuid) : Served q p (Cluster.start Campus.all q p ids)
  | answer {w w' : Cluster} {own : Campus} {req : Request} {r : Response} :
      Served q p w → runOn (handle Node.depth own .client req) w = (.ok r, w') → Served q p w'

section Served

variable {q : UInt32} {p : Nat} {w : Cluster}

theorem Served.reachable (h : Served q p w) : w.Reachable := by
  induction h with
  | start ids => exact Reaches.start Campus.all q p ids
  | answer _ hrun ih => exact Reaches.handle ih trivial hrun

theorem Served.settings (h : Served q p w) : w.rules = [] ∧ w.up = Campus.all ∧ w.quota = q := by
  induction h with
  | start => exact ⟨rfl, rfl, rfl⟩
  | answer _ hrun ih =>
    obtain ⟨hr, hu, hq⟩ := settings_eq_of_changes (handle_changes hrun)
    exact ⟨hr.trans ih.1, hu.trans ih.2.1, hq.trans ih.2.2⟩

theorem Served.delivers (h : Served q p w) : w.Delivers :=
  ⟨h.settings.1, fun c => h.settings.2.1 ▸ Campus.mem_all c⟩

/-- A request answered without a halt takes a served cluster to a served cluster. -/
theorem Served.next (hw : Served q p w) (own : Campus) (req : Request)
    (h : (runOn (handle Node.depth own .client req) w).1.isOk = true) :
    Served q p (runOn (handle Node.depth own .client req) w).2 := by
  rcases hr : runOn (handle Node.depth own .client req) w with ⟨_ | r, w'⟩
  · rw [hr] at h
    cases h
  · exact Served.answer hw hr

theorem Served.withinQuota (hq : 7 * q.toNat < 2 ^ 32) (h : Served q p w) : w.WithinQuota := by
  induction h with
  | start =>
    intro u d
    simp [dayTotal_eq, countAt, Cluster.start, Store.empty, Ledger.empty, Ledger.count]
  | answer hw hrun ih =>
    have hquota := hw.settings.2.2
    exact withinQuota_of_handle hw.delivers hw.reachable.shaped (by rw [hquota]; exact hq) ih hrun

/-- Over a link that delivers every call, with a weekly quota `q` below 2³² / 7, no student
ever holds more than `q` bookings dated on one day over the three campuses, and so no more
than `7 * q` in a week. -/
theorem served_day_and_week_within_quota (hq : 7 * q.toNat < 2 ^ 32) (hw : Served q p w) (u : UserId)
    (a : Date) : w.dayTotal u a ≤ q.toNat ∧ w.weekTotal u a ≤ 7 * q.toNat := by
  have hquota : w.quota = q := hw.settings.2.2
  have hwq := hw.withinQuota hq
  refine ⟨?_, ?_⟩
  · rw [← hquota]
    exact hwq u a
  · rw [← hquota]
    exact hwq.weekTotal_le hw.reachable.shaped u a

end Served

/-! ## A week over the quota -/

/-- 2021-01-09, day 18636, lies within the calendar. -/
theorem januaryNinth_first_le : firstDay ≤ 18636 := by decide

theorem januaryNinth_le_last : (18636 : Int) ≤ lastDay := by decide

/-- The cluster, with quota 1, after room 201 of DVL is opened at 9:30 on 2021-01-10 and on
the day before, and `dvls1234` books it first on the 10th, then on the 9th. -/
def bookedLaterDayFirst : Cluster :=
  (runOn (handle Node.depth .dvl .client (.bookRoom ⟨.dvl, .student, ⟨1234, number1234_lt⟩⟩
      ⟨.dvl, 201, ⟨18636, januaryNinth_first_le, januaryNinth_le_last⟩,
        ⟨570, 600, nineThirty_start_lt_stop, nineThirty_stop_lt⟩⟩))
    (runOn (handle Node.depth .dvl .client (.bookRoom ⟨.dvl, .student, ⟨1234, number1234_lt⟩⟩
        ⟨.dvl, 201, ⟨18637, januaryTenth_first_le, januaryTenth_le_last⟩,
          ⟨570, 600, nineThirty_start_lt_stop, nineThirty_stop_lt⟩⟩))
      (runOn (handle Node.depth .dvl .client
          (.createRoom 201 ⟨18636, januaryNinth_first_le, januaryNinth_le_last⟩
            [⟨570, 600, nineThirty_start_lt_stop, nineThirty_stop_lt⟩]))
        (runOn (handle Node.depth .dvl .client
            (.createRoom 201 ⟨18637, januaryTenth_first_le, januaryTenth_le_last⟩
              [⟨570, 600, nineThirty_start_lt_stop, nineThirty_stop_lt⟩]))
          (Cluster.start Campus.all 1 1000 Uuid.serial)).2).2).2).2

theorem served_bookedLaterDayFirst : Served 1 1000 bookedLaterDayFirst :=
  Served.next (Served.next (Served.next (Served.next (.start _) _ _ (by decide +kernel)) _ _ (by decide +kernel))
    _ _ (by decide +kernel)) _ _ (by decide +kernel)

/-- The quota is not kept for every week: at quota 1 both bookings went through, each
checked against the week that ends on its own day, and the week that ends on the 10th
holds both. -/
theorem earlier_day_booking_overfills_week :
    Served 1 1000 bookedLaterDayFirst ∧
      (bookedLaterDayFirst.stores .dvl).weeklyCount ⟨.dvl, .student, 1234⟩ ⟨18637, by decide, by decide⟩ = .ok 2 ∧
      (bookedLaterDayFirst.stores .kkl).weeklyCount ⟨.dvl, .student, 1234⟩ ⟨18637, by decide, by decide⟩ = .ok 0 ∧
      (bookedLaterDayFirst.stores .wst).weeklyCount ⟨.dvl, .student, 1234⟩ ⟨18637, by decide, by decide⟩ = .ok 0 :=
  ⟨served_bookedLaterDayFirst, by decide +kernel, by decide +kernel, by decide +kernel⟩

/-- In the same cluster the day holds the one booking the quota allows, and the week no
more than seven. -/
theorem later_day_first_within_quota :
    7 * (1 : UInt32).toNat < 2 ^ 32 ∧ Served 1 1000 bookedLaterDayFirst ∧
      (bookedLaterDayFirst.dayTotal ⟨.dvl, .student, 1234⟩ ⟨18637, by decide, by decide⟩ ≤ (1 : UInt32).toNat ∧
        bookedLaterDayFirst.weekTotal ⟨.dvl, .student, 1234⟩ ⟨18637, by decide, by decide⟩ ≤
          7 * (1 : UInt32).toNat) :=
  ⟨by decide, served_bookedLaterDayFirst,
    served_day_and_week_within_quota (by decide) served_bookedLaterDayFirst _ _⟩

end Cluster
end CampusBooking
