import CampusBooking.Proofs.Cluster.Quota

/-!
# The quota check in 32-bit words

A booking is admitted by one comparison: the other campuses' total plus the student's week
at the slot's campus, against the limit.  Both are 32-bit words and their sum wraps, so a
store compares that sum modulo `2 ^ 32` with the limit (`commit_quotaExceeded_iff`), and the
other campuses' total is itself the 32-bit sum of their answers (`Tally.total_toNat`).

At a node, on a link that delivers every call, a booking of a free slot is therefore refused
for the quota exactly when the student's week over the three campuses, modulo `2 ^ 32`,
reaches the quota (`bookHere_quotaExceeded_iff`).  While the week fits in 32 bits this is
the comparison of the week itself; a total near the top of the word lets a booking through
that the week would refuse.  On any link the node makes the same comparison with the answers
it heard, a campus that gave none counting for nothing (`bookHere_quotaExceeded_iff_heard`).
-/

namespace CampusBooking

namespace Store

variable {s : Store} {u : UserId} {room : UInt16} {date : Date} {t : Timeslot}
  {peer limit held : UInt32} {fresh : Uuid}

/-- A free slot whose week was counted is refused for the quota when the 32-bit sum of the
other campuses' total and the week reaches the limit, and booked under `(campus, fresh)`
otherwise. -/
theorem commit_of_free (hfree : s.slot? room date t = some none) (hweek : s.weeklyCount u date = .ok held) :
    s.commit u room date t peer limit fresh =
      if peer + held ≥ limit then .ok (.error (.quotaExceeded limit))
      else .ok (.ok ({ s.putRoom date room ((s.room? date room).getD Room.empty |>.set t
          (some ⟨u, ⟨s.campus, fresh⟩⟩)) with
        index := s.index ++ [(⟨s.campus, fresh⟩, ⟨date, room, t⟩)],
        ledger := s.ledger.increment u date }, ⟨s.campus, fresh⟩)) := by
  rw [slot?_eq, Option.bind_eq_some_iff] at hfree
  obtain ⟨r, hr, ht⟩ := hfree
  unfold commit
  simp only [hr, ht, hweek, bind, Except.bind, Option.getD_some]
  split <;> rfl

/-- A free slot whose week cannot be counted halts the booking. -/
theorem commit_of_free_halt {e : Halt} (hfree : s.slot? room date t = some none)
    (hweek : s.weeklyCount u date = .error e) : s.commit u room date t peer limit fresh = .error e := by
  rw [slot?_eq, Option.bind_eq_some_iff] at hfree
  obtain ⟨r, hr, ht⟩ := hfree
  unfold commit
  simp only [hr, ht, hweek, bind, Except.bind]

/-- A free slot passes the check made before the other campuses are asked. -/
theorem checkBookable_of_free (hfree : s.slot? room date t = some none) : s.checkBookable room date t = .ok () := by
  unfold checkBookable
  rw [← slot?_eq, hfree]

/-- The 32-bit comparison of the quota check, read on numbers: the sum is taken modulo
`2 ^ 32`. -/
theorem quota_le_iff : limit ≤ peer + held ↔ limit.toNat ≤ (peer.toNat + held.toNat) % 2 ^ 32 := by
  rw [UInt32.le_iff_toNat_le, UInt32.toNat_add]

/-- A free slot whose week was counted is refused for the quota exactly when the other
campuses' total and the week, added modulo `2 ^ 32`, reach the limit. -/
theorem commit_quotaExceeded_iff (hfree : s.slot? room date t = some none)
    (hweek : s.weeklyCount u date = .ok held) :
    s.commit u room date t peer limit fresh = .ok (.error (.quotaExceeded limit)) ↔
      limit.toNat ≤ (peer.toNat + held.toNat) % 2 ^ 32 := by
  rw [commit_of_free hfree hweek, ← quota_le_iff]
  by_cases hq : limit ≤ peer + held
  · simp [hq]
  · simp [hq]

/-- Below the limit, modulo `2 ^ 32`, the free slot is booked for the student under
`(campus, fresh)`. -/
theorem commit_books_of_lt (hfree : s.slot? room date t = some none) (hweek : s.weeklyCount u date = .ok held)
    (hlt : (peer.toNat + held.toNat) % 2 ^ 32 < limit.toNat) :
    ∃ s', s.commit u room date t peer limit fresh = .ok (.ok (s', ⟨s.campus, fresh⟩)) ∧
      s'.slot? room date t = some (some ⟨u, ⟨s.campus, fresh⟩⟩) := by
  have hq : ¬ peer + held ≥ limit := fun hle => Nat.not_le_of_lt hlt (quota_le_iff.mp hle)
  have hc : s.commit u room date t peer limit fresh = _ := commit_of_free hfree hweek
  rw [if_neg hq] at hc
  refine ⟨_, hc, ?_⟩
  rw [slot?_commit hc]
  simp

/-- A booking that went through found the week, with the other campuses' total added, below
the limit, as long as that sum fits in 32 bits. -/
theorem commit_ok_below {s' : Store} {id : BookingId}
    (h : s.commit u room date t peer limit fresh = .ok (.ok (s', id)))
    (hfit : peer.toNat + s.ledger.weekTotal u date < 2 ^ 32) :
    peer.toNat + s.ledger.weekTotal u date < limit.toNat := by
  obtain ⟨-, -, -, -, ⟨held, hheld, hcheck⟩, -⟩ := commit_eq_ok h
  have hheldNat : held.toNat = s.ledger.weekTotal u date := by
    rw [Ledger.weeklyCount_eq_weekTotal hheld, UInt32.toNat_ofNat']
    omega
  have hnot : ¬ limit.toNat ≤ (peer.toNat + held.toNat) % 2 ^ 32 := fun hle => hcheck (quota_le_iff.mpr hle)
  rw [hheldNat, Nat.mod_eq_of_lt hfit] at hnot
  omega

end Store

namespace Node

open Cluster

variable {w w' : Cluster} {m : Nat} {own : Campus} {u : UserId} {room : UInt16} {date : Date}
  {slot : Timeslot} {r : Response}

/-- The answer to a booking of a free slot whose week was counted, once the other campuses
answered: a refusal for the quota exactly when the 32-bit check fails. -/
theorem bookHere_quotaExceeded_iff_total {link : Link} {T : Tally} {held : UInt32}
    (hfree : (w.stores own).slot? room date slot = some none)
    (hp : runOn (askPeers link own (.bookingCount u date)) w = (.ok T, w))
    (hweek : (w.stores own).weeklyCount u date = .ok held)
    (h : runOn (bookHere link own u room date slot) w = (.ok r, w')) :
    r.error = some .quotaExceeded ↔ w.quota ≤ T.total + held := by
  unfold bookHere at h
  simp only [runOn_bind, runOn_storeOf, Store.checkBookable_of_free hfree, hp, runOn_get, runOn_orHalt,
    Store.commit_of_free hfree hweek] at h
  by_cases hq : w.quota ≤ T.total + held
  · -- the store refused for the quota
    simp only [ge_iff_le, hq, if_true, runOn_pure, Prod.mk.injEq, Except.ok.injEq] at h
    obtain ⟨rfl, -⟩ := h
    simp [hq, storeFailure, fail, Response.fail, ErrorKind.ofFault]
  · simp only [ge_iff_le, hq, if_false, runOn_bind, runOn_setStore, runOn_modify, runOn_pure,
      Prod.mk.injEq, Except.ok.injEq] at h
    obtain ⟨rfl, -⟩ := h
    simp [hq, ok, Response.ok]

/-- Whatever the rules of the link, a booking of a free slot whose week was counted heard the
other campuses' answers, leaving the cluster as it was, and is refused for the quota exactly
when their 32-bit total and the week, added modulo `2 ^ 32`, reach the quota. -/
theorem bookHere_quotaExceeded_iff_heard {held : UInt32} (hfree : (w.stores own).slot? room date slot = some none)
    (hweek : (w.stores own).weeklyCount u date = .ok held)
    (h : runOn (bookHere (deliver (handle m) own) own u room date slot) w = (.ok r, w')) :
    ∃ T : Tally, runOn (askPeers (deliver (handle m) own) own (.bookingCount u date)) w = (.ok T, w) ∧
      (r.error = some .quotaExceeded ↔ w.quota.toNat ≤ (T.total.toNat + held.toNat) % 2 ^ 32) := by
  -- a booking that was answered heard from the other campuses, which only read
  rcases hp : runOn (askPeers (deliver (handle m) own) own (.bookingCount u date)) w with ⟨_ | T, w₁⟩
  · unfold bookHere at h
    simp [Store.checkBookable_of_free hfree, hp] at h
  obtain rfl := (keeps_askPeers_bookingCount m own u date).eq_of_runOn hp
  exact ⟨T, rfl, (bookHere_quotaExceeded_iff_total hfree hp hweek h).trans Store.quota_le_iff⟩

/-- On a link that delivers every call, a booking of a free slot at its own campus is refused
for the quota exactly when the student's week over the three campuses, modulo `2 ^ 32`,
reaches the quota. -/
theorem bookHere_quotaExceeded_iff (hd : w.Delivers) (hfree : (w.stores own).slot? room date slot = some none)
    (h : runOn (bookHere (deliver (handle (m + 1)) own) own u room date slot) w = (.ok r, w')) :
    r.error = some .quotaExceeded ↔ w.quota.toNat ≤ w.weekTotal u date % 2 ^ 32 := by
  -- a booking that was answered heard from every other campus and counted its own week
  rcases hp : runOn (askPeers (deliver (handle (m + 1)) own) own (.bookingCount u date)) w with ⟨_ | T, w₁⟩
  · unfold bookHere at h
    simp [Store.checkBookable_of_free hfree, hp] at h
  obtain ⟨hw, hown, hpeer⟩ := askPeers_get_weekTotal hd hp
  rw [hw] at hp
  rcases hweek : (w.stores own).weeklyCount u date with e | held
  · unfold bookHere at h
    simp [Store.checkBookable_of_free hfree, hp, Store.commit_of_free_halt hfree hweek] at h
  rw [bookHere_quotaExceeded_iff_total hfree hp hweek h, UInt32.le_iff_toNat_le,
    Ledger.weeklyCount_eq_weekTotal hweek,
    Tally.total_add_toNat_mod (N := fun c => (w.stores c).ledger.weekTotal u date) hown hpeer, weekTotal_eq]

/-- The quota check of a booking, in the words it is made in.  On a free slot of a store whose
week for the student was counted, the store refuses for the quota exactly when the other
campuses' total and that week, added modulo `2 ^ 32`, reach the limit, and books the slot
otherwise; the other campuses' total is the sum of their answers modulo `2 ^ 32`; a node
serving that store, on a link that delivers every call, refuses a booking of the slot for the
quota exactly when the student's week over the three campuses, modulo `2 ^ 32`, reaches the
quota; and on any link it refuses exactly when the total of the answers it heard and the
week, added modulo `2 ^ 32`, reach the quota. -/
theorem quota_check_modulo_word (s : Store) (u : UserId) (room : UInt16) (date : Date) (t : Timeslot)
    (peer limit held : UInt32) (fresh : Uuid) (hfree : s.slot? room date t = some none)
    (hweek : s.weeklyCount u date = .ok held) :
    (s.commit u room date t peer limit fresh = .ok (.error (.quotaExceeded limit)) ↔
        limit.toNat ≤ (peer.toNat + held.toNat) % 2 ^ 32) ∧
      ((peer.toNat + held.toNat) % 2 ^ 32 < limit.toNat →
        ∃ s', s.commit u room date t peer limit fresh = .ok (.ok (s', ⟨s.campus, fresh⟩)) ∧
          s'.slot? room date t = some (some ⟨u, ⟨s.campus, fresh⟩⟩)) ∧
      (∀ T : Tally, T.total.toNat = (Campus.all.map fun c => ((T.get c).getD 0).toNat).sum % 2 ^ 32) ∧
      (∀ (w w' : Cluster) (m : Nat) (own : Campus) (r : Response), w.Delivers → w.stores own = s →
        runOn (bookHere (deliver (handle (m + 1)) own) own u room date t) w = (.ok r, w') →
        (r.error = some .quotaExceeded ↔ w.quota.toNat ≤ w.weekTotal u date % 2 ^ 32)) ∧
      ∀ (w w' : Cluster) (m : Nat) (own : Campus) (r : Response), w.stores own = s →
        runOn (bookHere (deliver (handle m) own) own u room date t) w = (.ok r, w') →
        ∃ T : Tally, runOn (askPeers (deliver (handle m) own) own (.bookingCount u date)) w = (.ok T, w) ∧
          (r.error = some .quotaExceeded ↔ w.quota.toNat ≤ (T.total.toNat + held.toNat) % 2 ^ 32) := by
  refine ⟨Store.commit_quotaExceeded_iff hfree hweek, Store.commit_books_of_lt hfree hweek,
    Tally.total_toNat, ?_, ?_⟩
  · intro w w' m own r hd hs h
    subst hs
    exact bookHere_quotaExceeded_iff hd hfree h
  · intro w w' m own r hs h
    subst hs
    exact bookHere_quotaExceeded_iff_heard hfree hweek h

/-- Room 1 of DVL opened on 2021-01-01 with 9:00-9:30 and 9:30-10:00, and 9:00-9:30 booked by
dvls0001: with two more bookings of that week elsewhere, 9:30-10:00 is refused at limit 3. -/
theorem third_booking_of_week_refused :
    ∃ s, ((Store.empty .dvl).createRoom 1 ⟨18628, by decide, by decide⟩
        [⟨540, 570, by decide, by decide⟩, ⟨570, 600, by decide, by decide⟩]).1.commit ⟨.dvl, .student, 1⟩ 1
        ⟨18628, by decide, by decide⟩ ⟨540, 570, by decide, by decide⟩ 0 3 (Uuid.serial 1) =
          .ok (.ok (s, ⟨.dvl, Uuid.serial 1⟩)) ∧
      s.commit ⟨.dvl, .student, 1⟩ 1 ⟨18628, by decide, by decide⟩ ⟨570, 600, by decide, by decide⟩ 2 3
        (Uuid.serial 2) = .ok (.error (.quotaExceeded 3)) := by
  refine ⟨_, rfl, (quota_check_modulo_word _ _ _ _ _ 2 3 1 _ ?_ ?_).1.mpr ?_⟩ <;> decide

/-- The same room and booking: with a total of 4294967295 from the other campuses, the
student's week is 4294967296 bookings, past limit 3, yet the 32-bit sum wraps to 0 and
9:30-10:00 is booked. -/
theorem near_full_peer_total_books_past_limit :
    ∃ s, ((Store.empty .dvl).createRoom 1 ⟨18628, by decide, by decide⟩
        [⟨540, 570, by decide, by decide⟩, ⟨570, 600, by decide, by decide⟩]).1.commit ⟨.dvl, .student, 1⟩ 1
        ⟨18628, by decide, by decide⟩ ⟨540, 570, by decide, by decide⟩ 0 3 (Uuid.serial 1) =
          .ok (.ok (s, ⟨.dvl, Uuid.serial 1⟩)) ∧
      s.weeklyCount ⟨.dvl, .student, 1⟩ ⟨18628, by decide, by decide⟩ = .ok 1 ∧
      3 ≤ (4294967295 : UInt32).toNat + 1 ∧
      ∃ s', s.commit ⟨.dvl, .student, 1⟩ 1 ⟨18628, by decide, by decide⟩ ⟨570, 600, by decide, by decide⟩
        4294967295 3 (Uuid.serial 2) = .ok (.ok (s', ⟨.dvl, Uuid.serial 2⟩)) :=
  ⟨_, rfl, by decide, by decide, _, rfl⟩

end Node

end CampusBooking
