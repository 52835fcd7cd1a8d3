import CampusBooking.Proofs.Store.Views

/-!
# The operations of a store, one spec lemma each

* `commit_eq_ok` — a booking succeeds only on an open, free slot whose week, with the
  bookings elsewhere, is under the limit; it holds the slot under `(campus, fresh)`,
  adds the id to the index and one to the ledger.
* `cancel_eq_ok` — a cancellation succeeds only for a booking the index places in a slot
  that holds it for the same student; it frees the slot, drops the id from the index and
  takes one from the ledger.
* `createRoom` opens the room or adds free timeslots to it (`slot?_createRoom`), and
  leaves the store alone when the outcome is `unchanged`.
* `deleteRoom` drops timeslots one by one: it is a fold of `dropSlot` over the store
  (`deleteRoom_eq_foldl`), and it leaves the store alone when it removes nothing.

From these, each operation's effect on `slot?`, `heldTotal` and the ledger.
-/

namespace CampusBooking
namespace Store

variable {s s' : Store} {u : UserId} {room : UInt16} {date : Date} {t : Timeslot}

/-! ## Booking -/

section Commit

variable {peer limit : UInt32} {fresh : Uuid} {id : BookingId}

/-- What a successful booking checked and what it changed. -/
theorem commit_eq_ok (h : s.commit u room date t peer limit fresh = .ok (.ok (s', id))) :
    ∃ r, s.room? date room = some r ∧ r.find? t = some none ∧ id = ⟨s.campus, fresh⟩ ∧
      (∃ held, s.weeklyCount u date = .ok held ∧ ¬ peer + held ≥ limit) ∧
      s' = { s.putRoom date room (r.set t (some ⟨u, id⟩)) with
        index := s.index ++ [(id, ⟨date, room, t⟩)], ledger := s.ledger.increment u date } := by
  unfold commit at h
  rcases hr : s.room? date room with _ | r
  · simp [hr] at h
  · rw [hr] at h
    rcases ht : r.find? t with _ | _ | b
    · simp [ht] at h
    · rcases hw : s.weeklyCount u date with e | held
      · simp [ht, hw, bind, Except.bind] at h
      · simp only [ht, hw, bind, Except.bind] at h
        split at h
        · simp [pure, Except.pure] at h
        · rename_i hq
          simp only [pure, Except.pure, Except.ok.injEq, Prod.mk.injEq] at h
          obtain ⟨rfl, rfl⟩ := h
          exact ⟨r, rfl, ht, rfl, ⟨held, rfl, hq⟩, rfl⟩
    · simp [ht] at h

variable (h : s.commit u room date t peer limit fresh = .ok (.ok (s', id)))
include h

theorem commit_id : id = ⟨s.campus, fresh⟩ := by
  obtain ⟨r, -, -, hid, -, -⟩ := commit_eq_ok h
  exact hid

theorem commit_campus : s'.campus = s.campus := by
  obtain ⟨r, -, -, -, -, rfl⟩ := commit_eq_ok h
  rfl

theorem commit_ledger : s'.ledger = s.ledger.increment u date := by
  obtain ⟨r, -, -, -, -, rfl⟩ := commit_eq_ok h
  rfl

theorem commit_index : s'.index = s.index ++ [(id, ⟨date, room, t⟩)] := by
  obtain ⟨r, -, -, -, -, rfl⟩ := commit_eq_ok h
  rfl

/-- The booked slot was open and free. -/
theorem slot?_of_commit : s.slot? room date t = some none := by
  obtain ⟨r, hr, ht, -, -, -⟩ := commit_eq_ok h
  simp [slot?_eq, hr, ht]

/-- After a booking the slot holds it, and every other slot is as it was. -/
theorem slot?_commit (room' : UInt16) (date' : Date) (t' : Timeslot) :
    s'.slot? room' date' t' =
      if room' = room ∧ date' = date ∧ t' = t then some (some ⟨u, id⟩) else s.slot? room' date' t' := by
  obtain ⟨r, hr, ht, -, -, rfl⟩ := commit_eq_ok h
  show (s.putRoom date room _).slot? room' date' t' = _
  rw [slot?_putRoom hr, Room.find?_set, ht]
  by_cases hk : room' = room ∧ date' = date
  · obtain ⟨rfl, rfl⟩ := hk
    by_cases ht' : t' = t
    · subst ht'
      simp
    · simp [Ne.symm ht', ht', slot?_eq, hr]
  · have : (date, room) ≠ (date', room') := by
      intro he
      obtain ⟨rfl, rfl⟩ := Prod.mk.inj he
      exact hk ⟨rfl, rfl⟩
    simp only [if_neg this]
    rw [if_neg (fun h' => hk ⟨h'.1, h'.2.1⟩)]

/-- A booking adds one to every count of held bookings that counts its student and date. -/
theorem heldTotal_commit (hs : s.Shaped) (P : UserId × Date → Bool) :
    s'.heldTotal P = s.heldTotal P + if P (u, date) then 1 else 0 := by
  obtain ⟨r, hr, ht, -, -, rfl⟩ := commit_eq_ok h
  have hroom := heldTotal_putRoom hs hr (r.set t (some ⟨u, id⟩)) P
  have hset := Room.held_set (hs.nodup_of_room? hr) ht (some ⟨u, id⟩) (fun bk => P (bk.student, date))
  simp only [Option.any_none, Bool.false_eq_true, if_false, Nat.add_zero, Option.any_some] at hset
  show (s.putRoom date room _).heldTotal P = _
  omega

theorem shaped_commit (hs : s.Shaped) : s'.Shaped := by
  obtain ⟨r, hr, -, -, -, rfl⟩ := commit_eq_ok h
  have hk := Room.map_fst_set r t (some ⟨u, id⟩)
  have hp : (s.putRoom date room (r.set t (some ⟨u, id⟩))).Shaped :=
    shaped_putRoom hs (hk ▸ hs.nodup_of_room? hr)
  exact ⟨hp.rooms_nodup, hp.slots_nodup, Ledger.nodup_increment hs.ledger_nodup u date⟩

theorem slotsOf_commit (room' : UInt16) (date' : Date) : s'.slotsOf room' date' = s.slotsOf room' date' := by
  obtain ⟨r, hr, -, -, -, rfl⟩ := commit_eq_ok h
  exact slotsOf_putRoom hr (Room.map_fst_set r t _) room' date'

end Commit

/-! ## Cancelling -/

section Cancel

variable {b : BookingId} {ref : SlotRef}

/-- What a successful cancellation checked and what it changed. -/
theorem cancel_eq_ok (h : s.cancel u b = .ok (s', ref)) :
    ∃ k r, s.locate? b = some k ∧ s.room? k.date k.room = some r ∧
      r.find? k.slot = some (some ⟨u, b⟩) ∧ ref = ⟨s.campus, k.room, k.date, k.slot⟩ ∧
      s' = { s.putRoom k.date k.room (r.set k.slot none) with
        index := s.index.filter (·.1 ≠ b), ledger := (s.ledger.decrement u k.date).1 } := by
  unfold cancel at h
  rcases hk : s.locate? b with _ | k
  · simp [hk] at h
  · rcases hr : s.room? k.date k.room with _ | r
    · simp [hk, hr] at h
    · rcases ht : r.find? k.slot with _ | _ | held
      · simp [hk, hr, ht] at h
      · simp [hk, hr, ht] at h
      · simp only [hk, hr, ht] at h
        split at h
        · cases h
        · split at h
          · cases h
          · rename_i hid hst
            simp only [Except.ok.injEq, Prod.mk.injEq] at h
            obtain ⟨rfl, rfl⟩ := h
            have : held = ⟨u, b⟩ := by
              cases held
              simp_all
            subst this
            exact ⟨k, r, rfl, hr, ht, rfl, rfl⟩

variable (h : s.cancel u b = .ok (s', ref))
include h

theorem cancel_campus : s'.campus = s.campus ∧ ref.campus = s.campus := by
  obtain ⟨k, r, -, -, -, rfl, rfl⟩ := cancel_eq_ok h
  exact ⟨rfl, rfl⟩

/-- The released slot held the booking, for the same student. -/
theorem slot?_of_cancel : s.slot? ref.room ref.date ref.slot = some (some ⟨u, b⟩) := by
  obtain ⟨k, r, -, hr, ht, rfl, -⟩ := cancel_eq_ok h
  simp [slot?_eq, hr, ht]

theorem cancel_locate : s.locate? b = some ⟨ref.date, ref.room, ref.slot⟩ := by
  obtain ⟨k, r, hk, -, -, rfl, -⟩ := cancel_eq_ok h
  exact hk

theorem cancel_index : s'.index = s.index.filter (·.1 ≠ b) := by
  obtain ⟨k, r, -, -, -, -, rfl⟩ := cancel_eq_ok h
  rfl

theorem cancel_ledger : s'.ledger = (s.ledger.decrement u ref.date).1 := by
  obtain ⟨k, r, -, -, -, rfl, rfl⟩ := cancel_eq_ok h
  rfl

/-- After a cancellation the released slot is free, and every other slot is as it was. -/
theorem slot?_cancel (room' : UInt16) (date' : Date) (t' : Timeslot) :
    s'.slot? room' date' t' =
      if room' = ref.room ∧ date' = ref.date ∧ t' = ref.slot then some none else s.slot? room' date' t' := by
  obtain ⟨k, r, -, hr, ht, rfl, rfl⟩ := cancel_eq_ok h
  show (s.putRoom k.date k.room _).slot? room' date' t' = _
  rw [slot?_putRoom hr, Room.find?_set, ht]
  by_cases hk : room' = k.room ∧ date' = k.date
  · obtain ⟨rfl, rfl⟩ := hk
    by_cases ht' : t' = k.slot
    · subst ht'
      simp
    · simp [Ne.symm ht', ht', slot?_eq, hr]
  · have : (k.date, k.room) ≠ (date', room') := by
      intro he
      obtain ⟨rfl, rfl⟩ := Prod.mk.inj he
      exact hk ⟨rfl, rfl⟩
    simp only [if_neg this]
    rw [if_neg (fun h' => hk ⟨h'.1, h'.2.1⟩)]

/-- A cancellation takes one from every count of held bookings that counts its student
and the released slot's date. -/
theorem heldTotal_cancel (hs : s.Shaped) (P : UserId × Date → Bool) :
    s'.heldTotal P + (if P (u, ref.date) then 1 else 0) = s.heldTotal P := by
  obtain ⟨k, r, -, hr, ht, rfl, rfl⟩ := cancel_eq_ok h
  have hroom := heldTotal_putRoom hs hr (r.set k.slot none) P
  have hset := Room.held_set (hs.nodup_of_room? hr) ht none (fun bk => P (bk.student, k.date))
  simp only [Option.any_none, Bool.false_eq_true, if_false, Nat.add_zero, Option.any_some] at hset
  show (s.putRoom k.date k.room _).heldTotal P + (if P (u, k.date) then 1 else 0) = _
  omega

theorem shaped_cancel (hs : s.Shaped) : s'.Shaped := by
  obtain ⟨k, r, -, hr, -, -, rfl⟩ := cancel_eq_ok h
  have hk := Room.map_fst_set r k.slot none
  have hp : (s.putRoom k.date k.room (r.set k.slot none)).Shaped :=
    shaped_putRoom hs (hk ▸ hs.nodup_of_room? hr)
  exact ⟨hp.rooms_nodup, hp.slots_nodup, Ledger.nodup_decrement hs.ledger_nodup u k.date⟩

theorem slotsOf_cancel (room' : UInt16) (date' : Date) : s'.slotsOf room' date' = s.slotsOf room' date' := by
  obtain ⟨k, r, -, hr, -, -, rfl⟩ := cancel_eq_ok h
  exact slotsOf_putRoom hr (Room.map_fst_set r k.slot _) room' date'

end Cancel

/-! ## Opening rooms -/

section Create

variable {slots : List Timeslot}

theorem createRoom_of_room?_none (h : s.room? date room = none) :
    s.createRoom room date slots =
      ({ s with rooms := s.rooms ++ [((date, room), (addAll Room.empty slots).1)] }, .created) := by
  simp [createRoom, h]

theorem createRoom_of_room?_some {r : Room} (h : s.room? date room = some r) :
    s.createRoom room date slots =
      (s.putRoom date room (addAll r slots).1,
        if (addAll r slots).2 = 0 then .unchanged else .extended (addAll r slots).2) := by
  simp [createRoom, h]

/-- Opening a room touches neither the campus, the index nor the ledger. -/
theorem createRoom_fields (s : Store) (room : UInt16) (date : Date) (slots : List Timeslot) :
    (s.createRoom room date slots).1.campus = s.campus ∧ (s.createRoom room date slots).1.index = s.index ∧
      (s.createRoom room date slots).1.ledger = s.ledger := by
  rcases h : s.room? date room with _ | r
  · rw [createRoom_of_room?_none h]
    exact ⟨rfl, rfl, rfl⟩
  · rw [createRoom_of_room?_some h]
    exact ⟨rfl, rfl, rfl⟩

/-- The timeslots asked for that the room lacked become free; every other slot keeps its
state. -/
theorem slot?_createRoom (hs : s.Shaped) (room' : UInt16) (date' : Date) (t' : Timeslot) :
    (s.createRoom room date slots).1.slot? room' date' t' =
      if room' = room ∧ date' = date ∧ t' ∈ slots ∧ s.slot? room date t' = none then some none
      else s.slot? room' date' t' := by
  rcases h : s.room? date room with _ | r
  · rw [createRoom_of_room?_none h]
    show ((Keyed.lookup (s.rooms ++ _) (date', room')).bind _) = _
    rw [Keyed.lookup_append_singleton]
    by_cases hk : room' = room ∧ date' = date
    · obtain ⟨rfl, rfl⟩ := hk
      rw [← room?_eq_lookup, h, if_pos rfl, Option.none_or, Option.bind_some,
        Room.find?_addAll Room.nodup_empty]
      simp [slot?_eq, h, Room.empty, Room.find?]
    · have : (date, room) ≠ (date', room') := fun he => hk ⟨(Prod.mk.inj he).2.symm, (Prod.mk.inj he).1.symm⟩
      simp only [if_neg this, Option.or_none]
      rw [if_neg (fun h' => hk ⟨h'.1, h'.2.1⟩)]
      rfl
  · rw [createRoom_of_room?_some h, slot?_putRoom h]
    by_cases hk : room' = room ∧ date' = date
    · obtain ⟨rfl, rfl⟩ := hk
      rw [Room.find?_addAll (hs.nodup_of_room? h)]
      simp [slot?_eq, h]
    · have : (date, room) ≠ (date', room') := fun he => hk ⟨(Prod.mk.inj he).2.symm, (Prod.mk.inj he).1.symm⟩
      rw [if_neg this, if_neg (fun h' => hk ⟨h'.1, h'.2.1⟩)]

/-- Opening timeslots holds no booking: a slot holds a booking after it exactly when it
held it before. -/
theorem held_createRoom (hs : s.Shaped) (room' : UInt16) (date' : Date) (t' : Timeslot) (bk : Booking) :
    (s.createRoom room date slots).1.slot? room' date' t' = some (some bk) ↔
      s.slot? room' date' t' = some (some bk) := by
  rw [slot?_createRoom hs]
  split
  · -- a new timeslot: it was missing before and is free now
    rename_i hnew
    obtain ⟨rfl, rfl, -, hmissing⟩ := hnew
    rw [hmissing]
    simp
  · rfl

/-- Opening a room holds no booking. -/
theorem heldTotal_createRoom (hs : s.Shaped) (P : UserId × Date → Bool) :
    (s.createRoom room date slots).1.heldTotal P = s.heldTotal P := by
  rcases h : s.room? date room with _ | r
  · rw [createRoom_of_room?_none h]
    simp [heldTotal, Room.held_addAll]
  · rw [createRoom_of_room?_some h]
    dsimp only
    have := heldTotal_putRoom hs h (addAll r slots).1 P
    rw [Room.held_addAll] at this
    omega

theorem shaped_createRoom (hs : s.Shaped) : (s.createRoom room date slots).1.Shaped := by
  rcases h : s.room? date room with _ | r
  · rw [createRoom_of_room?_none h]
    constructor
    · show ((s.rooms ++ [((date, room), _)]).map Prod.fst).Nodup
      rw [List.map_append]
      refine List.nodup_append.mpr ⟨hs.rooms_nodup, by simp, ?_⟩
      intro a ha b hb
      rw [List.map_singleton, List.mem_singleton] at hb
      subst hb
      rintro rfl
      rw [room?_eq_lookup] at h
      exact Keyed.lookup_eq_none_iff.mp h ha
    · intro e he
      rcases List.mem_append.mp he with he | he
      · exact hs.slots_nodup e he
      · rw [List.mem_singleton] at he
        subst he
        exact Room.nodup_addAll Room.nodup_empty slots
    · exact hs.ledger_nodup
  · rw [createRoom_of_room?_some h]
    exact shaped_putRoom hs (Room.nodup_addAll (hs.nodup_of_room? h) slots)

/-- A room that gains no timeslot leaves the store as it was. -/
theorem createRoom_unchanged (hs : s.Shaped) (hu : (s.createRoom room date slots).2 = .unchanged) :
    (s.createRoom room date slots).1 = s := by
  rcases h : s.room? date room with _ | r
  · rw [createRoom_of_room?_none h] at hu
    cases hu
  · rw [createRoom_of_room?_some h] at hu ⊢
    dsimp only at hu ⊢
    have hzero : (addAll r slots).2 = 0 := by
      by_cases hz : (addAll r slots).2 = 0
      · exact hz
      · rw [if_neg hz] at hu
        cases hu
    rw [Room.addAll_eq_self hzero, putRoom_self hs h]

end Create

/-! ## Removing timeslots -/

section Delete

/-- One step of `deleteRoom`: drops a timeslot of a room, releasing the booking it held. -/
def dropSlot (s : Store) (room : UInt16) (date : Date) (t : Timeslot) : Store :=
  match s.room? date room with
  | none => s
  | some r =>
    match r.find? t with
    | some (some b) =>
      { s.putRoom date room (r.remove t).1 with
        index := s.index.filter (·.1 ≠ b.id)
        ledger := (s.ledger.decrement b.student date).1 }
    | _ => s.putRoom date room (r.remove t).1

theorem putRoom_putRoom (s : Store) (date : Date) (room : UInt16) (r r' : Room) :
    (s.putRoom date room r).putRoom date room r' = s.putRoom date room r' := by
  show { s with rooms := Keyed.replace (Keyed.replace s.rooms (date, room) r) (date, room) r' } = _
  rw [Keyed.replace_replace]
  rfl

theorem room?_putRoom_self {r₀ : Room} (h : s.room? date room = some r₀) (r : Room) :
    (s.putRoom date room r).room? date room = some r := by
  rw [room?_putRoom, h, if_pos rfl]
  rfl

theorem dropSlot_of_room?_none (h : s.room? date room = none) (t : Timeslot) : s.dropSlot room date t = s := by
  simp [dropSlot, h]

theorem dropSlot_campus (s : Store) (room : UInt16) (date : Date) (t : Timeslot) :
    (s.dropSlot room date t).campus = s.campus := by
  unfold dropSlot
  split
  · rfl
  · split <;> rfl

section Step

variable {r : Room} (h : s.room? date room = some r) (t : Timeslot)
include h

theorem dropSlot_eq : s.dropSlot room date t =
    match r.find? t with
    | some (some b) =>
      { s.putRoom date room (r.remove t).1 with
        index := s.index.filter (·.1 ≠ b.id)
        ledger := (s.ledger.decrement b.student date).1 }
    | _ => s.putRoom date room (r.remove t).1 := by
  simp only [dropSlot, h]

/-- The dropped timeslot is gone; every other slot is as it was. -/
theorem slot?_dropSlot (room' : UInt16) (date' : Date) (t' : Timeslot) :
    (s.dropSlot room date t).slot? room' date' t' =
      if room' = room ∧ date' = date ∧ t' = t then none else s.slot? room' date' t' := by
  have hput : (s.putRoom date room (r.remove t).1).slot? room' date' t' =
      if room' = room ∧ date' = date ∧ t' = t then none else s.slot? room' date' t' := by
    rw [slot?_putRoom h, Room.find?_remove]
    by_cases hk : room' = room ∧ date' = date
    · obtain ⟨rfl, rfl⟩ := hk
      by_cases ht' : t' = t
      · subst ht'
        simp
      · simp [Ne.symm ht', ht', slot?_eq, h]
    · have : (date, room) ≠ (date', room') := fun he => hk ⟨(Prod.mk.inj he).2.symm, (Prod.mk.inj he).1.symm⟩
      rw [if_neg this, if_neg (fun h' => hk ⟨h'.1, h'.2.1⟩)]
  rw [dropSlot_eq h]
  rcases r.find? t with _ | _ | b
  · exact hput
  · exact hput
  · exact hput

theorem shaped_dropSlot (hs : s.Shaped) : (s.dropSlot room date t).Shaped := by
  have hp : (s.putRoom date room (r.remove t).1).Shaped :=
    shaped_putRoom hs (Room.nodup_remove (hs.nodup_of_room? h) t)
  rw [dropSlot_eq h]
  rcases r.find? t with _ | _ | b
  · exact hp
  · exact hp
  · exact ⟨hp.rooms_nodup, hp.slots_nodup, Ledger.nodup_decrement hs.ledger_nodup b.student date⟩

/-- Dropping a free or missing timeslot changes neither the index, the ledger nor the
count of held bookings. -/
theorem dropSlot_of_not_held (hs : s.Shaped) (hb : ∀ bk, r.find? t ≠ some (some bk)) :
    (s.dropSlot room date t).index = s.index ∧ (s.dropSlot room date t).ledger = s.ledger ∧
      ∀ P, (s.dropSlot room date t).heldTotal P = s.heldTotal P := by
  rw [dropSlot_eq h]
  have hheld : ∀ P, (s.putRoom date room (r.remove t).1).heldTotal P = s.heldTotal P := by
    intro P
    have hroom := heldTotal_putRoom hs h (r.remove t).1 P
    rcases hf : r.find? t with _ | _ | b
    · rw [Room.remove_of_find?_eq_none hf] at hroom ⊢
      omega
    · have := Room.held_remove (hs.nodup_of_room? h) hf (fun bk => P (bk.student, date))
      simp only [Option.any_none, Bool.false_eq_true, if_false, Nat.add_zero] at this
      omega
    · exact absurd hf (hb b)
  rcases hf : r.find? t with _ | _ | b
  · exact ⟨rfl, rfl, hheld⟩
  · exact ⟨rfl, rfl, hheld⟩
  · exact absurd hf (hb b)

/-- Dropping a booked timeslot releases its booking: the id leaves the index, the ledger
loses one for its student and date, and so does every count of held bookings. -/
theorem dropSlot_of_held (hs : s.Shaped) {bk : Booking} (hb : r.find? t = some (some bk)) :
    (s.dropSlot room date t).index = s.index.filter (·.1 ≠ bk.id) ∧
      (s.dropSlot room date t).ledger = (s.ledger.decrement bk.student date).1 ∧
      ∀ P, (s.dropSlot room date t).heldTotal P + (if P (bk.student, date) then 1 else 0) = s.heldTotal P := by
  rw [dropSlot_eq h, hb]
  refine ⟨rfl, rfl, fun P => ?_⟩
  have hroom := heldTotal_putRoom hs h (r.remove t).1 P
  have hr := Room.held_remove (hs.nodup_of_room? h) hb (fun bk => P (bk.student, date))
  simp only [Option.any_some] at hr
  show (s.putRoom date room (r.remove t).1).heldTotal P + _ = _
  omega

end Step

theorem removeAll_cons (s : Store) (room : UInt16) (date : Date) (r : Room) (t : Timeslot)
    (ts : List Timeslot) :
    removeAll s room date r (t :: ts) =
      let s₁ := match r.find? t with
        | some (some b) =>
          { s with
            index := s.index.filter (·.1 ≠ b.id)
            ledger := (s.ledger.decrement b.student date).1 }
        | _ => s
      let p := removeAll s₁ room date (r.remove t).1 ts
      (p.1, p.2.1, p.2.2 + if (r.find? t).isSome then 1 else 0) := by
  rcases hf : r.find? t with _ | _ | b <;> simp [removeAll, Room.remove, hf]

/-- The loop of `deleteRoom`, seen on the store with its working copy of the room put
back, drops one timeslot at a time. -/
theorem removeAll_putRoom {r₀ : Room} (h : s.room? date room = some r₀) (r : Room) (ts : List Timeslot) :
    (removeAll s room date r ts).1.putRoom date room (removeAll s room date r ts).2.1 =
      ts.foldl (fun v t => v.dropSlot room date t) (s.putRoom date room r) := by
  induction ts generalizing s r with
  | nil => rfl
  | cons t ts ih =>
    rw [removeAll_cons, List.foldl_cons]
    have hdrop : (s.putRoom date room r).dropSlot room date t =
        (match r.find? t with
          | some (some b) =>
            { s with
              index := s.index.filter (·.1 ≠ b.id)
              ledger := (s.ledger.decrement b.student date).1 }
          | _ => s).putRoom date room (r.remove t).1 := by
      rw [dropSlot_eq (room?_putRoom_self h r) t]
      rcases r.find? t with _ | _ | b <;> simp only [putRoom_putRoom]
      -- a held slot: updating the index and ledger commutes with putting the room back
      rfl
    rw [hdrop]
    -- the record update keeps the rooms, so the room is found as before
    rcases r.find? t with _ | _ | b <;>
    · dsimp only
      exact ih (by exact h) _

/-- Deleting timeslots drops them one at a time. -/
theorem deleteRoom_eq_foldl (hs : s.Shaped) (ts : List Timeslot) :
    (s.deleteRoom room date ts).1 = ts.foldl (fun v t => v.dropSlot room date t) s := by
  rcases h : s.room? date room with _ | r
  · simp only [deleteRoom, h]
    induction ts with
    | nil => rfl
    | cons t ts ih => rw [List.foldl_cons, dropSlot_of_room?_none h, ← ih]
  · simp only [deleteRoom, h]
    rw [removeAll_putRoom h r ts, putRoom_self hs h]

theorem shaped_foldl_dropSlot (hs : s.Shaped) (ts : List Timeslot) :
    (ts.foldl (fun v t => v.dropSlot room date t) s).Shaped := by
  induction ts generalizing s with
  | nil => exact hs
  | cons t ts ih =>
    apply ih
    show (s.dropSlot room date t).Shaped
    rcases hr : s.room? date room with _ | r
    · rw [dropSlot_of_room?_none hr]
      exact hs
    · exact shaped_dropSlot hr t hs

theorem shaped_deleteRoom (hs : s.Shaped) (ts : List Timeslot) : (s.deleteRoom room date ts).1.Shaped := by
  rw [deleteRoom_eq_foldl hs]
  exact shaped_foldl_dropSlot hs ts

/-- Removing timeslots holds no new booking: what a slot holds after it, it held before. -/
theorem held_of_foldl_dropSlot {room' : UInt16} {date' : Date} {t' : Timeslot} {bk : Booking}
    (ts : List Timeslot) (h : (ts.foldl (fun v t => v.dropSlot room date t) s).slot? room' date' t' = some (some bk)) :
    s.slot? room' date' t' = some (some bk) := by
  induction ts generalizing s with
  | nil => exact h
  | cons t ts ih =>
    have hstep : (s.dropSlot room date t).slot? room' date' t' = some (some bk) := ih h
    rcases hr : s.room? date room with _ | r
    · rwa [dropSlot_of_room?_none hr] at hstep
    · rw [slot?_dropSlot hr] at hstep
      split at hstep
      · cases hstep
      · exact hstep

theorem held_of_deleteRoom (hs : s.Shaped) {ts : List Timeslot} {room' : UInt16} {date' : Date} {t' : Timeslot}
    {bk : Booking} (h : (s.deleteRoom room date ts).1.slot? room' date' t' = some (some bk)) :
    s.slot? room' date' t' = some (some bk) := by
  rw [deleteRoom_eq_foldl hs] at h
  exact held_of_foldl_dropSlot ts h

/-- Removing a timeslot never adds to a total of held bookings. -/
theorem heldTotal_dropSlot_le (hs : s.Shaped) (t : Timeslot) (P : UserId × Date → Bool) :
    (s.dropSlot room date t).heldTotal P ≤ s.heldTotal P := by
  rcases hr : s.room? date room with _ | r
  · rw [dropSlot_of_room?_none hr]
  rcases hf : r.find? t with _ | _ | bk
  case some.some =>
    have hdrop := (dropSlot_of_held hr t hs hf).2.2 P
    omega
  all_goals
    rw [(dropSlot_of_not_held hr t hs (by simp [hf])).2.2 P]

/-- Removing a timeslot never adds to a count of the ledger. -/
theorem count_dropSlot_le (hs : s.Shaped) (t : Timeslot) (v : UserId) (e : Date) :
    (s.dropSlot room date t).ledger.count v e ≤ s.ledger.count v e := by
  rcases hr : s.room? date room with _ | r
  · rw [dropSlot_of_room?_none hr]
  rcases hf : r.find? t with _ | _ | bk
  case some.some =>
    rw [(dropSlot_of_held hr t hs hf).2.1, Ledger.count_decrement hs.ledger_nodup]
    exact Nat.sub_le _ _
  all_goals
    rw [(dropSlot_of_not_held hr t hs (by simp [hf])).2.1]

/-- What no removal of a timeslot from a shaped store raises, no removal of a list of
timeslots raises. -/
theorem foldl_dropSlot_le {f : Store → Nat} (hf : ∀ v : Store, v.Shaped → ∀ t, f (v.dropSlot room date t) ≤ f v)
    (hs : s.Shaped) (ts : List Timeslot) : f (ts.foldl (fun v t => v.dropSlot room date t) s) ≤ f s := by
  induction ts generalizing s with
  | nil => exact le_refl _
  | cons t ts ih => exact (ih (shaped_foldl_dropSlot hs [t])).trans (hf s hs t)

/-- Removing timeslots never adds to a total of held bookings. -/
theorem heldTotal_deleteRoom_le (hs : s.Shaped) (ts : List Timeslot) (P : UserId × Date → Bool) :
    (s.deleteRoom room date ts).1.heldTotal P ≤ s.heldTotal P := by
  rw [deleteRoom_eq_foldl hs]
  exact foldl_dropSlot_le (f := fun s => s.heldTotal P) (fun v hv t => heldTotal_dropSlot_le hv t P) hs ts

/-- Removing timeslots never adds to a count of the ledger. -/
theorem count_deleteRoom_le (hs : s.Shaped) (ts : List Timeslot) (v : UserId) (e : Date) :
    (s.deleteRoom room date ts).1.ledger.count v e ≤ s.ledger.count v e := by
  rw [deleteRoom_eq_foldl hs]
  exact foldl_dropSlot_le (f := fun s => s.ledger.count v e) (fun v hv t => count_dropSlot_le hv t _ _) hs ts

/-- A loop that removes nothing finds none of its timeslots and changes nothing. -/
theorem removeAll_of_count_zero (s : Store) (room : UInt16) (date : Date) (r : Room) (ts : List Timeslot)
    (hn : (removeAll s room date r ts).2.2 = 0) :
    (removeAll s room date r ts).1 = s ∧ (removeAll s room date r ts).2.1 = r := by
  induction ts generalizing s r with
  | nil => exact ⟨rfl, rfl⟩
  | cons t ts ih =>
    rw [removeAll_cons] at hn ⊢
    rcases hf : r.find? t with _ | _ | b
    · simp only [hf, Option.isSome_none, Bool.false_eq_true, if_false, Nat.add_zero] at hn ⊢
      rw [Room.remove_of_find?_eq_none hf] at hn ⊢
      exact ih s r hn
    · simp [hf] at hn
    · simp [hf] at hn

/-- Deleting no timeslot leaves the store as it was. -/
theorem deleteRoom_of_count_zero (hs : s.Shaped) {ts : List Timeslot} (hn : (s.deleteRoom room date ts).2 = 0) :
    (s.deleteRoom room date ts).1 = s := by
  rcases h : s.room? date room with _ | r
  · simp [deleteRoom, h]
  · simp only [deleteRoom, h] at hn ⊢
    obtain ⟨h₁, h₂⟩ := removeAll_of_count_zero s room date r ts hn
    rw [h₁, h₂, putRoom_self hs h]


end Delete

end Store
end CampusBooking
