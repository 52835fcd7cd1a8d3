import CampusBooking.Store.Basic
import CampusBooking.Proofs.Keyed
import CampusBooking.Proofs.Ledger

/-!
# What the operations of a store do to what it shows

A store is read through three views:

* `slot?`, what a timeslot of a room holds on a date (absent, free, or a booking);
* `heldTotal P`, the number of held slots whose booking's student and date pass `P`;
* the ledger's totals (`Proofs.Ledger`).

This module states, for each operation, what it does to these views.  A room is changed
in place: `set` gives one timeslot a new state, `remove` drops one, `add` inserts a free
one in time order.  The rooms of a store are replaced in place by `putRoom`.  Where the
keys are unique (`Shaped`), every change of a slot moves `heldTotal` by exactly the
booking it adds or takes away.

The spec lemmas `commit_eq_ok` and `cancel_eq_ok` say everything a successful booking or
cancellation checked and changed; later proofs use them and never unfold the operations.
-/

namespace CampusBooking

namespace Room

/-- The number of bookings of the room whose holder passes `q`. -/
def held (r : Room) (q : Booking → Bool) : Nat :=
  (r.slots.map fun e => if e.2.any q then 1 else 0).sum

theorem find?_eq_lookup (r : Room) (t : Timeslot) : r.find? t = Keyed.lookup r.slots t := rfl

theorem set_slots (r : Room) (t : Timeslot) (b : Option Booking) :
    (r.set t b).slots = Keyed.replace r.slots t b := rfl

theorem find?_set (r : Room) (t t' : Timeslot) (b : Option Booking) :
    (r.set t b).find? t' = if t = t' then (r.find? t).map (fun _ => b) else r.find? t' :=
  Keyed.lookup_replace r.slots t t' b

theorem map_fst_set (r : Room) (t : Timeslot) (b : Option Booking) :
    (r.set t b).slots.map Prod.fst = r.slots.map Prod.fst :=
  Keyed.map_fst_replace r.slots t b

/-- Changing the state of a slot moves the count of bookings by the two states. -/
theorem held_set {r : Room} (hr : (r.slots.map Prod.fst).Nodup) {t : Timeslot} {o : Option Booking}
    (ht : r.find? t = some o) (b : Option Booking) (q : Booking → Bool) :
    (r.set t b).held q + (if o.any q then 1 else 0) = r.held q + (if b.any q then 1 else 0) :=
  Keyed.sum_replace (fun e => if e.2.any q then 1 else 0) hr ht b

theorem find?_remove (r : Room) (t t' : Timeslot) :
    (r.remove t).1.find? t' = if t = t' then none else r.find? t' :=
  Keyed.lookup_filter_ne r.slots t t'

theorem remove_snd (r : Room) (t : Timeslot) : (r.remove t).2 = r.find? t := rfl

theorem held_remove {r : Room} (hr : (r.slots.map Prod.fst).Nodup) {t : Timeslot} {o : Option Booking}
    (ht : r.find? t = some o) (q : Booking → Bool) :
    (r.remove t).1.held q + (if o.any q then 1 else 0) = r.held q :=
  Keyed.sum_filter_ne (fun e => if e.2.any q then 1 else 0) hr ht

/-- Removing a timeslot the room does not have changes nothing. -/
theorem remove_of_find?_eq_none {r : Room} {t : Timeslot} (ht : r.find? t = none) : (r.remove t).1 = r := by
  show (⟨r.slots.filter (·.1 ≠ t)⟩ : Room) = r
  rw [Keyed.filter_ne_of_not_mem (Keyed.lookup_eq_none_iff.mp ht)]

theorem nodup_remove {r : Room} (hr : (r.slots.map Prod.fst).Nodup) (t : Timeslot) :
    ((r.remove t).1.slots.map Prod.fst).Nodup :=
  Keyed.nodup_filter_ne hr t

/-! ## Adding free timeslots -/

/-- Inserting in time order puts the new entry among the others. -/
theorem insertFree_perm (t : Timeslot) (l : List (Timeslot × Option Booking)) :
    (insertFree t l).Perm ((t, none) :: l) := by
  induction l with
  | nil => exact List.Perm.refl _
  | cons e l ih =>
    obtain ⟨u, b⟩ := e
    unfold insertFree
    split
    · exact List.Perm.refl _
    · exact (ih.cons _).trans (List.Perm.swap _ _ _)

theorem lookup_perm {l l' : List (Timeslot × Option Booking)} (hp : l.Perm l')
    (hl : (l.map Prod.fst).Nodup) (t : Timeslot) : Keyed.lookup l t = Keyed.lookup l' t := by
  have hl' : (l'.map Prod.fst).Nodup := (hp.map Prod.fst).nodup_iff.mp hl
  rcases h : Keyed.lookup l t with _ | o
  · symm
    rw [Keyed.lookup_eq_none_iff] at h ⊢
    exact fun hmem => h ((hp.map Prod.fst).mem_iff.mpr hmem)
  · symm
    rw [Keyed.lookup_eq_some_iff hl] at h
    exact (Keyed.lookup_eq_some_iff hl').mpr (hp.mem_iff.mp h)

theorem add_of_find?_eq_some {r : Room} {t : Timeslot} {o : Option Booking} (ht : r.find? t = some o) :
    r.add t = (r, false) := by
  simp [add, ht]

theorem add_of_find?_eq_none {r : Room} {t : Timeslot} (ht : r.find? t = none) :
    r.add t = (⟨insertFree t r.slots⟩, true) := by
  simp [add, ht]

theorem nodup_add {r : Room} (hr : (r.slots.map Prod.fst).Nodup) (t : Timeslot) :
    ((r.add t).1.slots.map Prod.fst).Nodup := by
  rcases ht : r.find? t with _ | o
  · rw [add_of_find?_eq_none ht]
    refine (((insertFree_perm t r.slots).map Prod.fst).nodup_iff).mpr ?_
    exact List.nodup_cons.mpr ⟨Keyed.lookup_eq_none_iff.mp ht, hr⟩
  · rw [add_of_find?_eq_some ht]
    exact hr

theorem find?_add {r : Room} (hr : (r.slots.map Prod.fst).Nodup) (t t' : Timeslot) :
    (r.add t).1.find? t' = if t = t' ∧ r.find? t = none then some none else r.find? t' := by
  rcases ht : r.find? t with _ | o
  · rw [add_of_find?_eq_none ht]
    have hnew : ((t, none) :: r.slots).map Prod.fst |>.Nodup :=
      List.nodup_cons.mpr ⟨Keyed.lookup_eq_none_iff.mp ht, hr⟩
    show Keyed.lookup (insertFree t r.slots) t' = _
    rw [← lookup_perm (insertFree_perm t r.slots).symm hnew t', Keyed.lookup_cons]
    by_cases h : t = t' <;> simp [h, find?_eq_lookup]
  · rw [add_of_find?_eq_some ht]
    simp

theorem held_add {r : Room} (t : Timeslot) (q : Booking → Bool) : (r.add t).1.held q = r.held q := by
  rcases ht : r.find? t with _ | o
  · rw [add_of_find?_eq_none ht]
    unfold held
    rw [(((insertFree_perm t r.slots).map _).sum_nat)]
    simp
  · rw [add_of_find?_eq_some ht]

/-- Adding timeslots one by one: those the room lacked become free, the rest keep their
state, and the count says how many were new. -/
theorem find?_addAll {r : Room} (hr : (r.slots.map Prod.fst).Nodup) (ts : List Timeslot) (t' : Timeslot) :
    (Store.addAll r ts).1.find? t' = if t' ∈ ts ∧ r.find? t' = none then some none else r.find? t' := by
  induction ts generalizing r with
  | nil => simp [Store.addAll]
  | cons t ts ih =>
    simp only [Store.addAll]
    rw [ih (nodup_add hr t), find?_add hr]
    by_cases h₁ : t = t'
    · subst h₁
      cases r.find? t <;> simp
    · simp [h₁, Ne.symm h₁]

theorem nodup_addAll {r : Room} (hr : (r.slots.map Prod.fst).Nodup) (ts : List Timeslot) :
    ((Store.addAll r ts).1.slots.map Prod.fst).Nodup := by
  induction ts generalizing r with
  | nil => exact hr
  | cons t ts ih => exact ih (nodup_add hr t)

theorem held_addAll (r : Room) (ts : List Timeslot) (q : Booking → Bool) :
    (Store.addAll r ts).1.held q = r.held q := by
  induction ts generalizing r with
  | nil => rfl
  | cons t ts ih =>
    simp only [Store.addAll]
    rw [ih, held_add]

/-- When no timeslot was new, the room is as it was. -/
theorem addAll_eq_self {r : Room} {ts : List Timeslot} (h : (Store.addAll r ts).2 = 0) :
    (Store.addAll r ts).1 = r := by
  induction ts generalizing r with
  | nil => rfl
  | cons t ts ih =>
    simp only [Store.addAll] at h ⊢
    rcases ht : r.find? t with _ | o
    · rw [add_of_find?_eq_none ht] at h
      simp at h
    · rw [add_of_find?_eq_some ht] at h ⊢
      exact ih (by simpa using h)

@[simp] theorem held_empty (q : Booking → Bool) : Room.empty.held q = 0 := rfl

theorem nodup_empty : (Room.empty.slots.map Prod.fst).Nodup := List.nodup_nil

/-- A slot that holds a booking passing `q` is counted. -/
theorem held_pos {r : Room} {t : Timeslot} {bk : Booking} (h : r.find? t = some (some bk))
    {q : Booking → Bool} (hq : q bk = true) : 0 < r.held q := by
  have hmem : (t, some bk) ∈ r.slots := Keyed.mem_of_lookup_eq_some h
  have : 1 ≤ r.held q := List.le_sum_of_mem (List.mem_map.mpr ⟨_, hmem, by simp [hq]⟩)
  omega

end Room

namespace Store

theorem room?_eq_lookup (s : Store) (date : Date) (room : UInt16) :
    s.room? date room = Keyed.lookup s.rooms (date, room) := rfl

theorem putRoom_rooms (s : Store) (date : Date) (room : UInt16) (r : Room) :
    (s.putRoom date room r).rooms = Keyed.replace s.rooms (date, room) r := rfl

theorem slot?_eq (s : Store) (room : UInt16) (date : Date) (t : Timeslot) :
    s.slot? room date t = (s.room? date room).bind (·.find? t) := rfl

/-- The number of bookings held in the store whose student and date pass `P`. -/
def heldTotal (s : Store) (P : UserId × Date → Bool) : Nat :=
  (s.rooms.map fun e => e.2.held fun bk => P (bk.student, e.1.1)).sum

/-- A slot that holds a booking whose student and date pass `P` is counted. -/
theorem heldTotal_pos {s : Store} {room : UInt16} {date : Date} {t : Timeslot} {bk : Booking}
    (h : s.slot? room date t = some (some bk)) {P : UserId × Date → Bool} (hP : P (bk.student, date) = true) :
    0 < s.heldTotal P := by
  rw [slot?_eq] at h
  obtain ⟨r, hr, ht⟩ := Option.bind_eq_some_iff.mp h
  have hmem : ((date, room), r) ∈ s.rooms := Keyed.mem_of_lookup_eq_some hr
  have hroom : r.held (fun bk => P (bk.student, date)) ≤ s.heldTotal P :=
    List.le_sum_of_mem (List.mem_map.mpr ⟨_, hmem, rfl⟩)
  have : 0 < r.held (fun bk => P (bk.student, date)) := Room.held_pos ht hP
  omega

/-- Each open room once, each timeslot once in its room, and each (student, date) once in
the ledger. -/
structure Shaped (s : Store) : Prop where
  rooms_nodup : (s.rooms.map Prod.fst).Nodup
  slots_nodup : ∀ e ∈ s.rooms, (e.2.slots.map Prod.fst).Nodup
  ledger_nodup : (s.ledger.entries.map Prod.fst).Nodup

theorem shaped_empty (c : Campus) : (Store.empty c).Shaped :=
  ⟨List.nodup_nil, fun _ h => (nomatch h), List.nodup_nil⟩

variable {s : Store} {date : Date} {room : UInt16}

theorem Shaped.nodup_of_room? (hs : s.Shaped) {r : Room} (h : s.room? date room = some r) :
    (r.slots.map Prod.fst).Nodup :=
  hs.slots_nodup _ (Keyed.mem_of_lookup_eq_some h)

/-! ## Replacing a room -/

theorem room?_putRoom (r : Room) (date' : Date) (room' : UInt16) :
    (s.putRoom date room r).room? date' room' =
      if (date, room) = (date', room') then (s.room? date room).map (fun _ => r) else s.room? date' room' :=
  Keyed.lookup_replace s.rooms (date, room) (date', room') r

theorem slot?_putRoom {r₀ : Room} (h : s.room? date room = some r₀) (r : Room) (room' : UInt16)
    (date' : Date) (t : Timeslot) :
    (s.putRoom date room r).slot? room' date' t =
      if (date, room) = (date', room') then r.find? t else s.slot? room' date' t := by
  rw [slot?_eq, room?_putRoom, h]
  by_cases hk : (date, room) = (date', room')
  · simp [hk]
  · simp [hk, slot?_eq]

theorem heldTotal_putRoom (hs : s.Shaped) {r₀ : Room} (h : s.room? date room = some r₀) (r : Room)
    (P : UserId × Date → Bool) :
    (s.putRoom date room r).heldTotal P + r₀.held (fun bk => P (bk.student, date)) =
      s.heldTotal P + r.held (fun bk => P (bk.student, date)) :=
  Keyed.sum_replace (fun e => e.2.held fun bk => P (bk.student, e.1.1)) hs.rooms_nodup h r

theorem shaped_putRoom (hs : s.Shaped) {r : Room} (hr : (r.slots.map Prod.fst).Nodup) :
    (s.putRoom date room r).Shaped := by
  constructor
  · rw [putRoom_rooms, Keyed.map_fst_replace]
    exact hs.rooms_nodup
  · intro e he
    rcases Keyed.mem_replace he with he | rfl
    · exact hs.slots_nodup e he
    · exact hr
  · exact hs.ledger_nodup

/-- Putting back the room a store has changes nothing. -/
theorem putRoom_self (hs : s.Shaped) {r : Room} (h : s.room? date room = some r) :
    s.putRoom date room r = s := by
  show { s with rooms := Keyed.replace s.rooms (date, room) r } = s
  rw [Keyed.replace_self hs.rooms_nodup h]

theorem slotsOf_putRoom {r₀ : Room} (h : s.room? date room = some r₀) {r : Room}
    (hk : r.slots.map Prod.fst = r₀.slots.map Prod.fst) (room' : UInt16) (date' : Date) :
    (s.putRoom date room r).slotsOf room' date' = s.slotsOf room' date' := by
  unfold slotsOf
  rw [room?_putRoom, h]
  by_cases he : (date, room) = (date', room')
  · obtain ⟨rfl, rfl⟩ := Prod.mk.inj he
    simp [h, hk]
  · simp [he]

end Store

end CampusBooking
