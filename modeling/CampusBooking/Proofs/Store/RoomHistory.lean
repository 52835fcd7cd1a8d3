import CampusBooking.Proofs.Store.Operations

/-!
# The timeslots of a room over a history of calls

A store is changed by four calls: opening timeslots (`createRoom`), removing them
(`deleteRoom`), booking and cancelling.  Read as sets, the timeslots of a room on a date
follow the openings and removals alone: an opening adds its list, a removal takes its list
away, in the order of the calls (`timeslotsAfter`); bookings and cancellations change no
set.  Over every history of calls from an empty store (`room_timeslots_follow_history`):

* `slotsOf` lists exactly that set, in time order (by start, then end);
* `createRoom` answers `created` exactly when no earlier call opened that room on that date
  (a room stays open when all its timeslots are removed), and otherwise the number of
  timeslots of its list that the set lacked, or `unchanged` when there is none;
* `deleteRoom` answers the number of timeslots of its list that the set held;
* neither changes a slot that it does not add or remove: a free slot stays free, a booked
  one keeps its booking.

Lists may repeat a timeslot; a repeat counts once.
-/

namespace CampusBooking

namespace Timeslot

theorem eq_of_start_stop {a b : Timeslot} (h₁ : a.start = b.start) (h₂ : a.stop = b.stop) : a = b := by
  obtain ⟨_, _, _, _⟩ := a
  obtain ⟨_, _, _, _⟩ := b
  simp only at h₁ h₂
  subst h₁ h₂
  rfl

theorem before_trans {a b c : Timeslot} (hab : a.before b = true) (hbc : b.before c = true) :
    a.before c = true := by
  simp only [before, Bool.or_eq_true, decide_eq_true_eq, Bool.and_eq_true, beq_iff_eq] at *
  omega

/-- Of two different timeslots one comes before the other. -/
theorem before_total {a b : Timeslot} (h : a ≠ b) : a.before b = true ∨ b.before a = true := by
  have hne : ¬ (a.start = b.start ∧ a.stop = b.stop) := fun he => h (eq_of_start_stop he.1 he.2)
  simp only [before, Bool.or_eq_true, decide_eq_true_eq, Bool.and_eq_true, beq_iff_eq]
  omega

end Timeslot

/-- Counting the members of `t :: L` that pass a test: `t` itself, and the other members of
`L` that pass. -/
theorem card_filter_toFinset_cons {α : Type} [DecidableEq α] (p : α → Prop) [DecidablePred p] (t : α)
    (L : List α) :
    ((t :: L).toFinset.filter p).card = (L.toFinset.filter fun x => p x ∧ x ≠ t).card + if p t then 1 else 0 := by
  have herase : (L.toFinset.filter fun x => p x ∧ x ≠ t) = (L.toFinset.filter p).erase t := by
    ext x
    simp only [Finset.mem_filter, Finset.mem_erase]
    tauto
  rw [herase, List.toFinset_cons, Finset.filter_insert]
  by_cases hp : p t
  · rw [if_pos hp, if_pos hp, Finset.card_insert_eq_ite]
    by_cases hm : t ∈ L.toFinset.filter p
    · rw [if_pos hm, Finset.card_erase_add_one hm]
    · rw [if_neg hm, Finset.erase_eq_of_notMem hm]
  · rw [if_neg hp, if_neg hp, Nat.add_zero, Finset.erase_eq_of_notMem (by simp [hp])]

namespace Room

/-- The timeslots of a room, in time order. -/
def Ordered (r : Room) : Prop := (r.slots.map Prod.fst).Pairwise (·.before · = true)

theorem ordered_empty : Room.empty.Ordered := List.Pairwise.nil

theorem mem_map_fst_insertFree (t x : Timeslot) (l : List (Timeslot × Option Booking)) :
    x ∈ (insertFree t l).map Prod.fst ↔ x = t ∨ x ∈ l.map Prod.fst := by
  rw [((insertFree_perm t l).map Prod.fst).mem_iff]
  simp

/-- Inserting a new timeslot keeps the time order. -/
theorem pairwise_insertFree (t : Timeslot) {l : List (Timeslot × Option Booking)}
    (ht : t ∉ l.map Prod.fst) (hl : (l.map Prod.fst).Pairwise (·.before · = true)) :
    ((insertFree t l).map Prod.fst).Pairwise (·.before · = true) := by
  induction l with
  | nil => simp [insertFree]
  | cons e l ih =>
    obtain ⟨u, b⟩ := e
    simp only [List.map_cons, List.mem_cons, not_or] at ht
    rw [List.map_cons, List.pairwise_cons] at hl
    unfold insertFree
    split
    · -- `t` goes first: it comes before `u`, and so before every later timeslot
      rename_i htu
      rw [List.map_cons, List.map_cons, List.pairwise_cons, List.pairwise_cons]
      refine ⟨fun x hx => ?_, hl.1, hl.2⟩
      rcases List.mem_cons.mp hx with rfl | hx
      · exact htu
      · exact Timeslot.before_trans htu (hl.1 x hx)
    · -- `u` stays first: it comes before `t`
      rename_i htu
      have hut : u.before t = true := ((Timeslot.before_total ht.1).resolve_left htu)
      rw [List.map_cons, List.pairwise_cons]
      refine ⟨fun x hx => ?_, ih ht.2 hl.2⟩
      rcases (mem_map_fst_insertFree t x l).mp hx with rfl | hx
      · exact hut
      · exact hl.1 x hx

theorem ordered_add {r : Room} (hr : r.Ordered) (t : Timeslot) : (r.add t).1.Ordered := by
  rcases ht : r.find? t with _ | o
  · rw [add_of_find?_eq_none ht]
    exact pairwise_insertFree t (Keyed.lookup_eq_none_iff.mp ht) hr
  · rw [add_of_find?_eq_some ht]
    exact hr

theorem ordered_addAll {r : Room} (hr : r.Ordered) (ts : List Timeslot) : (Store.addAll r ts).1.Ordered := by
  induction ts generalizing r with
  | nil => exact hr
  | cons t ts ih => exact ih (ordered_add hr t)

/-- Adding timeslots counts those of the list that the room lacked, each once. -/
theorem addAll_snd {r : Room} (hr : (r.slots.map Prod.fst).Nodup) (ts : List Timeslot) :
    (Store.addAll r ts).2 = (ts.toFinset.filter fun t => r.find? t = none).card := by
  induction ts generalizing r with
  | nil => rfl
  | cons t ts ih =>
    simp only [Store.addAll]
    rw [ih (nodup_add hr t), card_filter_toFinset_cons]
    -- after `t` is added, the room lacks what it lacked before, but `t`
    have hlacks : ∀ x, (r.add t).1.find? x = none ↔ r.find? x = none ∧ x ≠ t := by
      intro x
      rw [find?_add hr]
      by_cases hx : x = t
      · subst hx
        cases r.find? x <;> simp
      · simp [hx, Ne.symm hx]
    rw [Finset.filter_congr fun x _ => hlacks x]
    congr 1
    rcases ht : r.find? t with _ | o
    · simp [add_of_find?_eq_none ht]
    · simp [add_of_find?_eq_some ht]

/-- Removing timeslots one by one counts those of the list that the room had, each once. -/
theorem removeAll_count (s : Store) (room : UInt16) (date : Date) (r : Room) (ts : List Timeslot) :
    (Store.removeAll s room date r ts).2.2 = (ts.toFinset.filter fun t => (r.find? t).isSome).card := by
  induction ts generalizing s r with
  | nil => rfl
  | cons t ts ih =>
    rw [Store.removeAll_cons]
    dsimp only
    rw [ih, card_filter_toFinset_cons]
    -- after `t` is removed, the room has what it had before, but `t`
    have hhas : ∀ x, ((r.remove t).1.find? x).isSome ↔ (r.find? x).isSome ∧ x ≠ t := by
      intro x
      rw [find?_remove]
      by_cases hx : x = t
      · subst hx
        simp
      · simp [hx, Ne.symm hx]
    rw [Finset.filter_congr fun x _ => hhas x]

end Room

namespace Store

variable {s : Store} {room : UInt16} {date : Date}

/-! ## The timeslots a store lists -/

theorem slotsOf_of_room? {r : Room} (h : s.room? date room = some r) : s.slotsOf room date = r.slots.map Prod.fst := by
  simp [slotsOf, h]

theorem slotsOf_of_room?_eq_none (h : s.room? date room = none) : s.slotsOf room date = [] := by
  simp [slotsOf, h]

/-- A store lists a timeslot of a room exactly when the slot is open. -/
theorem mem_slotsOf_iff (s : Store) (room : UInt16) (date : Date) (t : Timeslot) :
    t ∈ s.slotsOf room date ↔ (s.slot? room date t).isSome := by
  rcases hr : s.room? date room with _ | r
  · simp [slotsOf_of_room?_eq_none hr, slot?_eq, hr]
  · rw [slotsOf_of_room? hr, slot?_eq, hr, Option.bind_some, Room.find?_eq_lookup, Option.isSome_iff_ne_none,
      Ne, Keyed.lookup_eq_none_iff, not_not]

theorem room?_isSome_putRoom (r : Room) (room' : UInt16) (date' : Date) :
    ((s.putRoom date room r).room? date' room').isSome = (s.room? date' room').isSome := by
  rw [room?_putRoom]
  split
  · rename_i he
    obtain ⟨rfl, rfl⟩ := Prod.mk.inj he
    simp
  · rfl

theorem slotsOf_eq (s : Store) (room : UInt16) (date : Date) :
    s.slotsOf room date = ((s.room? date room).map fun r => r.slots.map Prod.fst).getD [] := by
  unfold slotsOf
  cases s.room? date room <;> rfl

/-- Opening timeslots puts them into the open room, or into a new one; every other room
stays as it was. -/
theorem room?_createRoom (slots : List Timeslot) (room' : UInt16) (date' : Date) :
    (s.createRoom room date slots).1.room? date' room' =
      if room' = room ∧ date' = date then some (addAll ((s.room? date room).getD Room.empty) slots).1
      else s.room? date' room' := by
  have hne : ¬ (room' = room ∧ date' = date) → (date, room) ≠ (date', room') :=
    fun hk he => hk ⟨(Prod.mk.inj he).2.symm, (Prod.mk.inj he).1.symm⟩
  rcases h : s.room? date room with _ | r
  · rw [createRoom_of_room?_none h]
    show Keyed.lookup (s.rooms ++ _) (date', room') = _
    rw [Keyed.lookup_append_singleton, ← room?_eq_lookup]
    by_cases hk : room' = room ∧ date' = date
    · obtain ⟨rfl, rfl⟩ := hk
      simp [h]
    · simp [hne hk, hk]
  · rw [createRoom_of_room?_some h, room?_putRoom, h]
    by_cases hk : room' = room ∧ date' = date
    · obtain ⟨rfl, rfl⟩ := hk
      simp
    · rw [if_neg (hne hk), if_neg hk]

theorem room?_isSome_createRoom (slots : List Timeslot) (room' : UInt16) (date' : Date) :
    ((s.createRoom room date slots).1.room? date' room').isSome =
      (decide (room' = room ∧ date' = date) || (s.room? date' room').isSome) := by
  rw [room?_createRoom]
  by_cases hk : room' = room ∧ date' = date <;> simp [hk]

/-- After opening timeslots, the room lists its old timeslots with the new ones inserted in
time order; every other room lists what it listed. -/
theorem slotsOf_createRoom (slots : List Timeslot) (room' : UInt16) (date' : Date) :
    (s.createRoom room date slots).1.slotsOf room' date' =
      if room' = room ∧ date' = date then
        (addAll ((s.room? date room).getD Room.empty) slots).1.slots.map Prod.fst
      else s.slotsOf room' date' := by
  rw [slotsOf_eq, room?_createRoom]
  split
  · rfl
  · rw [slotsOf_eq]

/-! ## Removing timeslots -/

/-- Dropping a timeslot drops it from the room's list, in place. -/
theorem slotsOf_dropSlot (t : Timeslot) (room' : UInt16) (date' : Date) :
    (s.dropSlot room date t).slotsOf room' date' =
      if room' = room ∧ date' = date then (s.slotsOf room date).filter (· ≠ t) else s.slotsOf room' date' := by
  rcases hr : s.room? date room with _ | r
  · rw [dropSlot_of_room?_none hr]
    by_cases hk : room' = room ∧ date' = date
    · obtain ⟨rfl, rfl⟩ := hk
      simp [slotsOf_of_room?_eq_none hr]
    · rw [if_neg hk]
  -- the index and the ledger that a dropped booking changes are not read by `slotsOf`
  have hput : (s.dropSlot room date t).slotsOf room' date' = (s.putRoom date room (r.remove t).1).slotsOf room' date' := by
    rw [dropSlot_eq hr]
    rcases r.find? t with _ | _ | b <;> rfl
  rw [hput]
  unfold slotsOf
  rw [room?_putRoom, hr]
  by_cases hk : room' = room ∧ date' = date
  · obtain ⟨rfl, rfl⟩ := hk
    simp only [if_true, and_self, Option.map_some]
    simp only [Room.remove, List.filter_map]
    rfl
  · have hne : (date, room) ≠ (date', room') := fun he => hk ⟨(Prod.mk.inj he).2.symm, (Prod.mk.inj he).1.symm⟩
    rw [if_neg hne, if_neg hk]

theorem slotsOf_foldl_dropSlot (ts : List Timeslot) (room' : UInt16) (date' : Date) :
    (ts.foldl (fun v t => v.dropSlot room date t) s).slotsOf room' date' =
      if room' = room ∧ date' = date then (s.slotsOf room date).filter (· ∉ ts) else s.slotsOf room' date' := by
  induction ts generalizing s with
  | nil => split <;> simp_all
  | cons t ts ih =>
    rw [List.foldl_cons, ih, slotsOf_dropSlot, slotsOf_dropSlot]
    by_cases hk : room' = room ∧ date' = date
    · simp only [hk, and_self, if_true, List.filter_filter, List.mem_cons, not_or]
      congr 1
      funext x
      simp [Bool.and_comm]
    · simp only [if_neg hk]

/-- Removing timeslots drops them from the room's list, in place. -/
theorem slotsOf_deleteRoom (hs : s.Shaped) (slots : List Timeslot) (room' : UInt16) (date' : Date) :
    (s.deleteRoom room date slots).1.slotsOf room' date' =
      if room' = room ∧ date' = date then (s.slotsOf room date).filter (· ∉ slots) else s.slotsOf room' date' := by
  rw [deleteRoom_eq_foldl hs, slotsOf_foldl_dropSlot]

/-- The removed timeslots are gone; every other slot is as it was. -/
theorem slot?_deleteRoom (hs : s.Shaped) (slots : List Timeslot) (room' : UInt16) (date' : Date) (t' : Timeslot) :
    (s.deleteRoom room date slots).1.slot? room' date' t' =
      if room' = room ∧ date' = date ∧ t' ∈ slots then none else s.slot? room' date' t' := by
  rw [deleteRoom_eq_foldl hs]
  induction slots generalizing s with
  | nil => simp
  | cons t ts ih =>
    have hs' : (s.dropSlot room date t).Shaped := shaped_foldl_dropSlot hs [t]
    rw [List.foldl_cons, ih hs']
    have hstep : (s.dropSlot room date t).slot? room' date' t' =
        if room' = room ∧ date' = date ∧ t' = t then none else s.slot? room' date' t' := by
      rcases hr : s.room? date room with _ | r
      · rw [dropSlot_of_room?_none hr]
        split
        · rename_i hk
          obtain ⟨rfl, rfl, -⟩ := hk
          simp [slot?_eq, hr]
        · rfl
      · exact slot?_dropSlot hr t room' date' t'
    rw [hstep]
    by_cases hr : room' = room
    · by_cases hd : date' = date
      · subst hr hd
        by_cases ht : t' = t <;> simp [ht]
      · simp [hd]
    · simp [hr]

/-- The loop of `deleteRoom` changes only the index and the ledger of the store it carries. -/
theorem removeAll_rooms (s : Store) (room : UInt16) (date : Date) (r : Room) (ts : List Timeslot) :
    (removeAll s room date r ts).1.rooms = s.rooms := by
  induction ts generalizing s r with
  | nil => rfl
  | cons t ts ih =>
    rw [removeAll_cons]
    dsimp only
    rw [ih]
    rcases r.find? t with _ | _ | b <;> rfl

/-- Removing timeslots leaves every room open that was open. -/
theorem room?_isSome_deleteRoom (slots : List Timeslot) (room' : UInt16) (date' : Date) :
    ((s.deleteRoom room date slots).1.room? date' room').isSome = (s.room? date' room').isSome := by
  rcases h : s.room? date room with _ | r
  · simp [deleteRoom, h]
  · simp only [deleteRoom, h]
    rw [room?_isSome_putRoom, room?_eq_lookup, removeAll_rooms, ← room?_eq_lookup]

/-- `deleteRoom` counts the timeslots of its list that the room had, each once. -/
theorem deleteRoom_snd (slots : List Timeslot) :
    (s.deleteRoom room date slots).2 = (slots.toFinset.filter fun t => (s.slot? room date t).isSome).card := by
  rcases h : s.room? date room with _ | r
  · simp [deleteRoom, h, slot?_eq]
  · simp only [deleteRoom, h]
    rw [Room.removeAll_count]
    simp [slot?_eq, h]

/-! ## Histories of calls -/

/-- A call on a store. -/
inductive Call where
  | createRoom (room : UInt16) (date : Date) (slots : List Timeslot)
  | deleteRoom (room : UInt16) (date : Date) (slots : List Timeslot)
  | commit (student : UserId) (room : UInt16) (date : Date) (slot : Timeslot) (peer limit : UInt32)
      (fresh : Uuid)
  | cancel (student : UserId) (booking : BookingId)

/-- The store after a call; a refused or halted booking and a refused cancellation leave it
as it was. -/
def call (s : Store) : Call → Store
  | .createRoom room date slots => (s.createRoom room date slots).1
  | .deleteRoom room date slots => (s.deleteRoom room date slots).1
  | .commit u room date t peer limit fresh =>
    match s.commit u room date t peer limit fresh with
    | .ok (.ok (s', _)) => s'
    | _ => s
  | .cancel u b =>
    match s.cancel u b with
    | .ok (s', _) => s'
    | .error _ => s

/-- The store reached by calls made one after another. -/
def run (s : Store) (cs : List Call) : Store := cs.foldl call s

/-- Whether a call opens timeslots in the room `room` on `date`. -/
def Call.creates (room : UInt16) (date : Date) : Call → Bool
  | .createRoom r d _ => r = room ∧ d = date
  | _ => false

/-- The timeslots of the room `room` on `date` after a call, as a set: an opening adds its
timeslots, a removal takes its timeslots away, and no other call changes the set. -/
def Call.timeslots (room : UInt16) (date : Date) (S : Timeslot → Bool) : Call → Timeslot → Bool
  | .createRoom r d slots => if r = room ∧ d = date then fun t => S t || decide (t ∈ slots) else S
  | .deleteRoom r d slots => if r = room ∧ d = date then fun t => S t && !decide (t ∈ slots) else S
  | _ => S

/-- The timeslots that a history of calls leaves in the room `room` on `date`. -/
def timeslotsAfter (room : UInt16) (date : Date) (cs : List Call) : Timeslot → Bool :=
  cs.foldl (fun S c => c.timeslots room date S) fun _ => false

theorem timeslotsAfter_snoc (room : UInt16) (date : Date) (cs : List Call) (c : Call) :
    timeslotsAfter room date (cs ++ [c]) = c.timeslots room date (timeslotsAfter room date cs) := by
  simp [timeslotsAfter]

/-- A store that keeps up with a history of calls: it has opened the rooms the history
opened, and each room lists, in time order, the timeslots the history left in it. -/
structure Follows (s : Store) (cs : List Call) : Prop where
  shaped : s.Shaped
  opened : ∀ room date, (s.room? date room).isSome = cs.any (·.creates room date)
  ordered : ∀ room date, (s.slotsOf room date).Pairwise (·.before · = true)
  mem_slotsOf : ∀ room date t, t ∈ s.slotsOf room date ↔ timeslotsAfter room date cs t = true

theorem follows_empty (c : Campus) : Follows (empty c) [] where
  shaped := shaped_empty c
  opened _ _ := rfl
  ordered _ _ := List.Pairwise.nil
  mem_slotsOf _ _ _ := by simp [slotsOf, room?, empty, timeslotsAfter]

section Step

variable {cs : List Call} (hf : Follows s cs)
include hf

/-- The room that a history opened lists its timeslots in time order. -/
theorem Follows.ordered_room {r : Room} (h : s.room? date room = some r) : r.Ordered := by
  have := hf.ordered room date
  rwa [slotsOf_of_room? h] at this

theorem Follows.createRoom (room : UInt16) (date : Date) (slots : List Timeslot) :
    Follows (s.createRoom room date slots).1 (cs ++ [.createRoom room date slots]) := by
  -- the room the timeslots go into: the open one, or a new empty one
  have hbase : ((s.room? date room).getD Room.empty).Ordered := by
    rcases h : s.room? date room with _ | r
    · exact Room.ordered_empty
    · exact hf.ordered_room h
  refine ⟨shaped_createRoom hf.shaped, fun room' date' => ?_, fun room' date' => ?_, fun room' date' t => ?_⟩
  · rw [room?_isSome_createRoom, hf.opened, List.any_append, Bool.or_comm]
    rcases eq_or_ne room' room with rfl | hr <;> rcases eq_or_ne date' date with rfl | hd <;>
      simp [Call.creates, *, Ne.symm]
  · rw [slotsOf_createRoom]
    split
    · exact Room.ordered_addAll hbase slots
    · exact hf.ordered room' date'
  · rw [mem_slotsOf_iff, slot?_createRoom hf.shaped, timeslotsAfter_snoc]
    have hold : timeslotsAfter room' date' cs t = true ↔ (s.slot? room' date' t).isSome = true :=
      (hf.mem_slotsOf room' date' t).symm.trans (mem_slotsOf_iff s room' date' t)
    by_cases hk : room = room' ∧ date = date'
    · obtain ⟨rfl, rfl⟩ := hk
      rcases ho : s.slot? room date t with _ | o <;> simp [Call.timeslots, hold, ho]
    · have hk' : ¬ (room' = room ∧ date' = date ∧ t ∈ slots ∧ s.slot? room date t = none) :=
        fun h => hk ⟨h.1.symm, h.2.1.symm⟩
      rw [if_neg hk']
      simp [Call.timeslots, hk, hold]

theorem Follows.deleteRoom (room : UInt16) (date : Date) (slots : List Timeslot) :
    Follows (s.deleteRoom room date slots).1 (cs ++ [.deleteRoom room date slots]) := by
  refine ⟨shaped_deleteRoom hf.shaped slots, fun room' date' => ?_, fun room' date' => ?_,
    fun room' date' t => ?_⟩
  · rw [room?_isSome_deleteRoom, hf.opened, List.any_append]
    simp [Call.creates]
  · rw [slotsOf_deleteRoom hf.shaped]
    split
    · exact (hf.ordered room date).filter _
    · exact hf.ordered room' date'
  · rw [slotsOf_deleteRoom hf.shaped, timeslotsAfter_snoc]
    by_cases hk : room' = room ∧ date' = date
    · obtain ⟨rfl, rfl⟩ := hk
      simp [Call.timeslots, hf.mem_slotsOf]
    · have hk' : ¬ (room = room' ∧ date = date') := fun h => hk ⟨h.1.symm, h.2.symm⟩
      simp [Call.timeslots, hk, hk', hf.mem_slotsOf]

/-- A booking or a cancellation changes no room's timeslots. -/
theorem Follows.of_same_rooms {s' : Store} {c : Call} (hc : ∀ room date, c.creates room date = false)
    (ht : ∀ room date S, c.timeslots room date S = S) (hshaped : s'.Shaped)
    (hroom : ∀ room date, (s'.room? date room).isSome = (s.room? date room).isSome)
    (hslots : ∀ room date, s'.slotsOf room date = s.slotsOf room date) : Follows s' (cs ++ [c]) := by
  refine ⟨hshaped, fun room date => ?_, fun room date => ?_, fun room date t => ?_⟩
  · simp [hroom, hf.opened, List.any_append, hc]
  · rw [hslots]
    exact hf.ordered room date
  · rw [hslots, timeslotsAfter_snoc, ht]
    exact hf.mem_slotsOf room date t

theorem Follows.call (c : Call) : Follows (s.call c) (cs ++ [c]) := by
  cases c with
  | createRoom room date slots => exact hf.createRoom room date slots
  | deleteRoom room date slots => exact hf.deleteRoom room date slots
  | commit u room date t peer limit fresh =>
    simp only [Store.call]
    split
    · rename_i s' id hcommit
      obtain ⟨r, hr, -, -, -, rfl⟩ := commit_eq_ok hcommit
      exact hf.of_same_rooms (fun _ _ => rfl) (fun _ _ _ => rfl) (shaped_commit hcommit hf.shaped)
        (fun room' date' => room?_isSome_putRoom _ room' date') (slotsOf_commit hcommit)
    · exact hf.of_same_rooms (fun _ _ => rfl) (fun _ _ _ => rfl) hf.shaped (fun _ _ => rfl) (fun _ _ => rfl)
  | cancel u b =>
    simp only [Store.call]
    split
    · rename_i s' ref hcancel
      obtain ⟨k, r, -, hr, -, -, rfl⟩ := cancel_eq_ok hcancel
      exact hf.of_same_rooms (fun _ _ => rfl) (fun _ _ _ => rfl) (shaped_cancel hcancel hf.shaped)
        (fun room' date' => room?_isSome_putRoom _ room' date') (slotsOf_cancel hcancel)
    · exact hf.of_same_rooms (fun _ _ => rfl) (fun _ _ _ => rfl) hf.shaped (fun _ _ => rfl) (fun _ _ => rfl)

end Step

/-- Calls made one after another keep the store up with the whole history. -/
theorem Follows.run {s : Store} {pre : List Call} (hf : Follows s pre) (cs : List Call) :
    Follows (s.run cs) (pre ++ cs) := by
  induction cs generalizing s pre with
  | nil => simpa [Store.run] using hf
  | cons c cs ih =>
    have hrest := ih (hf.call c)
    simpa [Store.run, List.foldl_cons, List.append_assoc] using hrest

/-- Opening timeslots changes no slot but those of its room and date that were not open. -/
theorem slot?_createRoom_of_not_added {s : Store} {room room' : UInt16} {date date' : Date}
    {slots : List Timeslot} {t' : Timeslot} (hs : s.Shaped)
    (hnew : ¬ (room' = room ∧ date' = date ∧ t' ∈ slots ∧ s.slot? room' date' t' = none)) :
    (s.createRoom room date slots).1.slot? room' date' t' = s.slot? room' date' t' := by
  rw [slot?_createRoom hs]
  split
  · rename_i hk
    obtain ⟨rfl, rfl, hmem, hnone⟩ := hk
    exact absurd ⟨rfl, rfl, hmem, hnone⟩ hnew
  · rfl

/-- Removing timeslots changes no slot but the open ones of its room and date. -/
theorem slot?_deleteRoom_of_not_removed {s : Store} {room room' : UInt16} {date date' : Date}
    {slots : List Timeslot} {t' : Timeslot} (hs : s.Shaped)
    (hgone : ¬ (room' = room ∧ date' = date ∧ t' ∈ slots ∧ s.slot? room' date' t' ≠ none)) :
    (s.deleteRoom room date slots).1.slot? room' date' t' = s.slot? room' date' t' := by
  rw [slot?_deleteRoom hs]
  split
  · rename_i hk
    obtain ⟨rfl, rfl, hmem⟩ := hk
    by_contra hne
    exact hgone ⟨rfl, rfl, hmem, fun h => hne (h ▸ rfl)⟩
  · rfl

section Outcomes

variable {s : Store} {cs : List Call} (hf : Follows s cs)
include hf

/-- The timeslots a history leaves in a room are those the store holds open there. -/
theorem Follows.timeslotsAfter_eq (room : UInt16) (date : Date) (t : Timeslot) :
    timeslotsAfter room date cs t = (s.slot? room date t).isSome := by
  rw [Bool.eq_iff_iff, ← hf.mem_slotsOf, mem_slotsOf_iff]

/-- Opening timeslots answers `created` for a room the history never opened, and otherwise
counts the timeslots of its list that the history left out of the room. -/
theorem Follows.createRoom_snd (room : UInt16) (date : Date) (slots : List Timeslot) :
    (s.createRoom room date slots).2 =
      if cs.any (·.creates room date) then
        if (slots.toFinset.filter fun t => timeslotsAfter room date cs t = false).card = 0 then .unchanged
        else .extended (slots.toFinset.filter fun t => timeslotsAfter room date cs t = false).card
      else .created := by
  rcases h : s.room? date room with _ | r
  · -- never opened: the room is opened now
    have hnever : cs.any (·.creates room date) = false := by
      rw [← hf.opened, h]
      rfl
    rw [createRoom_of_room?_none h, hnever]
    rfl
  · have hopened : cs.any (·.creates room date) = true := by
      rw [← hf.opened, h]
      rfl
    have hcount : (addAll r slots).2 =
        (slots.toFinset.filter fun t => timeslotsAfter room date cs t = false).card := by
      rw [Room.addAll_snd (hf.shaped.nodup_of_room? h)]
      congr 1
      apply Finset.filter_congr
      intro t _
      rw [hf.timeslotsAfter_eq, slot?_eq, h, Option.bind_some]
      rcases r.find? t with _ | o <;> simp
    rw [createRoom_of_room?_some h, hopened, if_pos rfl, hcount]

/-- Removing timeslots counts those of its list that the history left in the room. -/
theorem Follows.deleteRoom_snd (room : UInt16) (date : Date) (slots : List Timeslot) :
    (s.deleteRoom room date slots).2 = (slots.toFinset.filter fun t => timeslotsAfter room date cs t = true).card := by
  rw [Store.deleteRoom_snd]
  congr 1
  apply Finset.filter_congr
  intro t _
  rw [hf.timeslotsAfter_eq]

end Outcomes

/-- Over every history of calls made on an empty store, each room lists, in time order,
exactly the timeslots that the history's openings and removals leave in it.  Opening
timeslots answers `created` exactly when no earlier call opened that room on that date, and
otherwise counts the timeslots of its list that the room lacked (`unchanged` for none);
removing them counts those the room had.  Neither changes a slot it does not add or
remove. -/
theorem room_timeslots_follow_history (c : Campus) (cs : List Call) (room : UInt16) (date : Date) :
    ((empty c).run cs |>.slotsOf room date).Pairwise (·.before · = true) ∧
    (∀ t, t ∈ ((empty c).run cs).slotsOf room date ↔ timeslotsAfter room date cs t = true) ∧
    (∀ slots, (((empty c).run cs).createRoom room date slots).2 =
      if cs.any (·.creates room date) then
        if (slots.toFinset.filter fun t => timeslotsAfter room date cs t = false).card = 0 then .unchanged
        else .extended (slots.toFinset.filter fun t => timeslotsAfter room date cs t = false).card
      else .created) ∧
    (∀ slots, (((empty c).run cs).deleteRoom room date slots).2 =
      (slots.toFinset.filter fun t => timeslotsAfter room date cs t = true).card) ∧
    (∀ slots room' date' t', ¬ (room' = room ∧ date' = date ∧ t' ∈ slots ∧
        ((empty c).run cs).slot? room' date' t' = none) →
      (((empty c).run cs).createRoom room date slots).1.slot? room' date' t' =
        ((empty c).run cs).slot? room' date' t') ∧
    (∀ slots room' date' t', ¬ (room' = room ∧ date' = date ∧ t' ∈ slots ∧
        ((empty c).run cs).slot? room' date' t' ≠ none) →
      (((empty c).run cs).deleteRoom room date slots).1.slot? room' date' t' =
        ((empty c).run cs).slot? room' date' t') := by
  have hf : Follows ((empty c).run cs) cs := by simpa using (follows_empty c).run cs
  exact ⟨hf.ordered room date, hf.mem_slotsOf room date, hf.createRoom_snd room date,
    hf.deleteRoom_snd room date, fun _ _ _ _ hnew => slot?_createRoom_of_not_added hf.shaped hnew,
    fun _ _ _ _ hgone => slot?_deleteRoom_of_not_removed hf.shaped hgone⟩

/-- Room 201 of KKL on 2021-01-01 opened with 9:00-9:30 and 9:30-10:00, then with 9:30-10:00
and 10:00-10:30, and 9:30-10:00 booked: removing 9:00-9:30 leaves the booking where it was. -/
theorem removal_keeps_booked_neighbour :
    ¬ ((201 : UInt16) = 201 ∧ (⟨18628, by decide, by decide⟩ : Date) = ⟨18628, by decide, by decide⟩ ∧
        (⟨570, 600, by decide, by decide⟩ : Timeslot) ∈ [(⟨540, 570, by decide, by decide⟩ : Timeslot)] ∧
        ((empty .kkl).run
          [.createRoom 201 ⟨18628, by decide, by decide⟩ [⟨540, 570, by decide, by decide⟩, ⟨570, 600, by decide, by decide⟩],
            .createRoom 201 ⟨18628, by decide, by decide⟩ [⟨570, 600, by decide, by decide⟩, ⟨600, 630, by decide, by decide⟩],
            .commit ⟨.kkl, .student, 1⟩ 201 ⟨18628, by decide, by decide⟩ ⟨570, 600, by decide, by decide⟩ 0 3
              (Uuid.serial 1)]).slot? 201 ⟨18628, by decide, by decide⟩ ⟨570, 600, by decide, by decide⟩ ≠ none) ∧
      (((empty .kkl).run
          [.createRoom 201 ⟨18628, by decide, by decide⟩ [⟨540, 570, by decide, by decide⟩, ⟨570, 600, by decide, by decide⟩],
            .createRoom 201 ⟨18628, by decide, by decide⟩ [⟨570, 600, by decide, by decide⟩, ⟨600, 630, by decide, by decide⟩],
            .commit ⟨.kkl, .student, 1⟩ 201 ⟨18628, by decide, by decide⟩ ⟨570, 600, by decide, by decide⟩ 0 3
              (Uuid.serial 1)]).deleteRoom 201 ⟨18628, by decide, by decide⟩
          [⟨540, 570, by decide, by decide⟩]).1.slot? 201 ⟨18628, by decide, by decide⟩ ⟨570, 600, by decide, by decide⟩ =
        ((empty .kkl).run
          [.createRoom 201 ⟨18628, by decide, by decide⟩ [⟨540, 570, by decide, by decide⟩, ⟨570, 600, by decide, by decide⟩],
            .createRoom 201 ⟨18628, by decide, by decide⟩ [⟨570, 600, by decide, by decide⟩, ⟨600, 630, by decide, by decide⟩],
            .commit ⟨.kkl, .student, 1⟩ 201 ⟨18628, by decide, by decide⟩ ⟨570, 600, by decide, by decide⟩ 0 3
              (Uuid.serial 1)]).slot? 201 ⟨18628, by decide, by decide⟩ ⟨570, 600, by decide, by decide⟩ := by
  refine ⟨by decide, (room_timeslots_follow_history _ _ _ _).2.2.2.2.2 _ _ _ _ ?_⟩
  decide

end Store

end CampusBooking
