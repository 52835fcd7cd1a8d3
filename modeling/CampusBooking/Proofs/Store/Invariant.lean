import CampusBooking.Proofs.Ledger
import CampusBooking.Proofs.Store.Operations

/-!
# The invariant of a store

A store keeps three records of one set of bookings: the slots of its rooms, the index
from booking ids to slots, and the ledger of bookings per student and date.  Every store
a campus reaches keeps them in step:

* `Store.Indexed` — the index lists exactly the held bookings, at their slots, each id
  once, and every held id carries the store's campus;
* `Store.Counted` — the ledger has one positive entry per key, and its total over any set
  of (student, date) keys is the number of held bookings with such a key.

Each operation keeps both (`Indexed.commit`, `Indexed.cancel`, `Counted.commit`,
`Counted.deleteRoom`, …), with one proviso: the ledger's counts are 32-bit words, so a booking
keeps the ledger in step only while it leaves its student fewer than `2 ^ 32` bookings on its
date.  A booking needs an id that no slot holds: that is what the id generator promises, and
the only thing about it the invariant uses.

`Store.Reaches c Fits` collects the stores reached from the empty one by runs whose every
booking leaves a store that `Fits`; `Store.Reachable` takes every run.  Every reachable store
keeps its index in step (`Reaches.indexed`), and every store reached while no student holds
`2 ^ 32` bookings on one date keeps all three records in step
(`reachable_store_consistent`).
-/

namespace CampusBooking
namespace Store

/-- The index lists exactly the held bookings, each id once, and each held id carries the
store's campus. -/
structure Indexed (s : Store) : Prop where
  index_nodup : (s.index.map Prod.fst).Nodup
  mem_index : ∀ b k, (b, k) ∈ s.index ↔ ∃ u, s.slot? k.room k.date k.slot = some (some ⟨u, b⟩)
  campus_held : ∀ room date t bk, s.slot? room date t = some (some bk) → bk.id.campus = s.campus

/-- The ledger counts the held bookings: one positive entry per key, and every total of it
is the number of held bookings it counts. -/
structure Counted (s : Store) : Prop extends s.Shaped where
  ledger_pos : ∀ e ∈ s.ledger.entries, e.2 ≠ 0
  ledger_total : ∀ P, s.ledger.total P = s.heldTotal P

theorem Counted.ledger_tidy {s : Store} (hc : s.Counted) : s.ledger.Tidy := ⟨hc.ledger_nodup, hc.ledger_pos⟩

/-- No student holds `n` or more bookings dated on one day. -/
def HeldBelow (n : Nat) (s : Store) : Prop := ∀ u d, s.heldTotal (· = (u, d)) < n

/-- A store whose three records agree. -/
structure Sound (s : Store) : Prop extends s.Counted, s.Indexed

/-- Some slot holds a booking under this id. -/
def Holds (s : Store) (b : BookingId) : Prop :=
  ∃ room date t u, s.slot? room date t = some (some ⟨u, b⟩)

theorem slot?_empty (c : Campus) (room : UInt16) (date : Date) (t : Timeslot) :
    (Store.empty c).slot? room date t = none := rfl

theorem sound_empty (c : Campus) : (Store.empty c).Sound where
  toShaped := shaped_empty c
  ledger_pos _ h := nomatch h
  ledger_total _ := rfl
  index_nodup := List.nodup_nil
  mem_index b k := by
    simp only [slot?_empty]
    simp [Store.empty]
  campus_held room date t bk h := by simp [slot?_empty] at h

/-- A slot set to a state that holds no booking: the held slots are the old ones but that
one. -/
theorem held_of_release {s s' : Store} (k : SlotKey) {o : Option (Option Booking)}
    (ho : ∀ bk, o ≠ some (some bk))
    (hslot : ∀ room date t, s'.slot? room date t =
      if room = k.room ∧ date = k.date ∧ t = k.slot then o else s.slot? room date t)
    (room : UInt16) (date : Date) (t : Timeslot) (bk : Booking) :
    s'.slot? room date t = some (some bk) ↔
      s.slot? room date t = some (some bk) ∧ ¬ (room = k.room ∧ date = k.date ∧ t = k.slot) := by
  rw [hslot]
  by_cases hk : room = k.room ∧ date = k.date ∧ t = k.slot
  · rw [if_pos hk]
    exact ⟨fun h => absurd h (ho bk), fun h => absurd hk h.2⟩
  · rw [if_neg hk]
    exact ⟨fun h => ⟨h, hk⟩, And.left⟩

/-! ## The index -/

namespace Indexed

variable {s s' : Store} (hi : s.Indexed)
include hi

/-- An id lies at one key of the index. -/
theorem key_unique {b : BookingId} {k k' : SlotKey} (h : (b, k) ∈ s.index) (h' : (b, k') ∈ s.index) :
    k = k' := by
  have e := Keyed.lookup_eq_some_of_mem hi.index_nodup h
  rw [Keyed.lookup_eq_some_of_mem hi.index_nodup h'] at e
  exact (Option.some.inj e).symm

/-- No booking id is held by two slots. -/
theorem slot_unique {b : BookingId} {k k' : SlotKey} {u u' : UserId}
    (h : s.slot? k.room k.date k.slot = some (some ⟨u, b⟩))
    (h' : s.slot? k'.room k'.date k'.slot = some (some ⟨u', b⟩)) : k = k' :=
  hi.key_unique ((hi.mem_index b k).mpr ⟨u, h⟩) ((hi.mem_index b k').mpr ⟨u', h'⟩)

theorem holds_iff {b : BookingId} : s.Holds b ↔ ∃ k, (b, k) ∈ s.index := by
  constructor
  · rintro ⟨room, date, t, u, h⟩
    exact ⟨⟨date, room, t⟩, (hi.mem_index b _).mpr ⟨u, h⟩⟩
  · rintro ⟨k, hk⟩
    obtain ⟨u, h⟩ := (hi.mem_index b k).mp hk
    exact ⟨k.room, k.date, k.slot, u, h⟩

/-- A change that keeps the campus, the index and the held bookings keeps the invariant. -/
theorem of_held_iff (hc : s'.campus = s.campus) (hidx : s'.index = s.index)
    (hheld : ∀ room date t bk, s'.slot? room date t = some (some bk) ↔ s.slot? room date t = some (some bk)) :
    s'.Indexed where
  index_nodup := by
    rw [hidx]
    exact hi.index_nodup
  mem_index b k := by
    rw [hidx, hi.mem_index]
    simp only [hheld]
  campus_held room date t bk h := by
    rw [hc]
    exact hi.campus_held room date t bk ((hheld room date t bk).mp h)

/-- Releasing the slot `k` of booking `b`: the slot is freed or dropped, and `b` leaves the
index. -/
theorem release (k : SlotKey) {u : UserId} {b : BookingId} {o : Option (Option Booking)}
    (hk : s.slot? k.room k.date k.slot = some (some ⟨u, b⟩)) (ho : ∀ bk, o ≠ some (some bk))
    (hc : s'.campus = s.campus) (hidx : s'.index = s.index.filter (·.1 ≠ b))
    (hslot : ∀ room date t, s'.slot? room date t =
      if room = k.room ∧ date = k.date ∧ t = k.slot then o else s.slot? room date t) :
    s'.Indexed where
  index_nodup := by
    rw [hidx]
    exact Keyed.nodup_filter_ne hi.index_nodup b
  mem_index b' k' := by
    simp only [hidx, List.mem_filter, hi.mem_index, held_of_release k ho hslot, decide_eq_true_eq]
    constructor
    · -- the slot of an indexed id other than `b` is not `k`, which holds `b`
      rintro ⟨⟨u', h'⟩, hb'⟩
      refine ⟨u', h', ?_⟩
      rintro ⟨h₁, h₂, h₃⟩
      rw [h₁, h₂, h₃, hk] at h'
      cases h'
      exact hb' rfl
    · -- a slot other than `k` holds an id other than `b`, since `b` is held at `k` alone
      rintro ⟨u', h', hne⟩
      refine ⟨⟨u', h'⟩, ?_⟩
      rintro rfl
      obtain rfl := hi.slot_unique h' hk
      exact hne ⟨rfl, rfl, rfl⟩
  campus_held room date t bk h := by
    rw [hc]
    exact hi.campus_held room date t bk ((held_of_release k ho hslot room date t bk).mp h).1

section Commit

variable {u : UserId} {room : UInt16} {date : Date} {t : Timeslot} {peer limit : UInt32}
  {fresh : Uuid} {id : BookingId}

/-- A booking under an id that no slot holds keeps the index in step. -/
theorem commit (h : s.commit u room date t peer limit fresh = .ok (.ok (s', id)))
    (hfresh : ¬ s.Holds ⟨s.campus, fresh⟩) : s'.Indexed := by
  have hid := commit_id h
  have hfree := slot?_of_commit h
  have hnew : id ∉ s.index.map Prod.fst := by
    intro hmem
    obtain ⟨⟨b, k⟩, hk, rfl⟩ := List.mem_map.mp hmem
    exact hfresh ((hi.holds_iff).mpr ⟨k, hid ▸ hk⟩)
  refine ⟨?_, fun b k => ?_, fun room' date' t' bk hb => ?_⟩
  · rw [commit_index h, List.map_append, List.nodup_append]
    refine ⟨hi.index_nodup, by simp, ?_⟩
    intro a ha a' ha'
    rw [List.map_singleton, List.mem_singleton] at ha'
    subst ha'
    rintro rfl
    exact hnew ha
  · obtain ⟨kd, kr, kt⟩ := k
    rw [commit_index h, List.mem_append, hi.mem_index, List.mem_singleton, slot?_commit h]
    by_cases hk : kr = room ∧ kd = date ∧ kt = t
    · -- the booked slot was free, so only the new entry lies there
      obtain ⟨rfl, rfl, rfl⟩ := hk
      simp [hfree, eq_comm]
    · have hne : ¬ (kd = date ∧ kr = room ∧ kt = t) := fun h' => hk ⟨h'.2.1, h'.1, h'.2.2⟩
      simp [hk, hne]
  · rw [commit_campus h]
    rw [slot?_commit h] at hb
    split at hb
    · cases hb
      rw [hid]
    · exact hi.campus_held room' date' t' bk hb

end Commit

end Indexed

/-! ## The ledger -/

namespace Counted

variable {s s' : Store} (hc : s.Counted)
include hc

/-- The count of a student on a date is the number of their held bookings on that date. -/
theorem count_eq (u : UserId) (d : Date) : s.ledger.count u d = s.heldTotal (· = (u, d)) := by
  rw [Ledger.count_eq_total hc.ledger_nodup, hc.ledger_total]

/-- A decrement for the student and date of some held booking finds its entry. -/
theorem decrement_found {u : UserId} {d : Date} (hpos : 0 < s.heldTotal (· = (u, d))) :
    (s.ledger.decrement u d).2 = true := by
  rw [Ledger.decrement_snd_iff, hc.count_eq]
  exact hpos

/-- A booking that leaves its student fewer than `2 ^ 32` bookings on its date keeps the
ledger in step. -/
theorem commit {u : UserId} {room : UInt16} {date : Date} {t : Timeslot} {peer limit : UInt32}
    {fresh : Uuid} {id : BookingId} (h : s.commit u room date t peer limit fresh = .ok (.ok (s', id)))
    (hroom : s'.heldTotal (· = (u, date)) < 2 ^ 32) : s'.Counted := by
  have hheld : s'.heldTotal (· = (u, date)) = s.ledger.count u date + 1 := by
    rw [heldTotal_commit h hc.toShaped, hc.count_eq]
    simp
  have hcount : s.ledger.count u date + 1 < 2 ^ 32 := hheld ▸ hroom
  refine ⟨shaped_commit h hc.toShaped, ?_, fun P => ?_⟩
  · rw [commit_ledger h]
    exact (Ledger.tidy_increment hc.ledger_tidy hcount).pos
  · rw [commit_ledger h, Ledger.total_increment _ hcount, hc.ledger_total, heldTotal_commit h hc.toShaped]

/-- Releasing one held booking of `u` dated `d`, from the slots and from the ledger, keeps
the ledger in step. -/
theorem release {u : UserId} {d : Date} (hs' : s'.Shaped) (hl : s'.ledger = (s.ledger.decrement u d).1)
    (hheld : ∀ P, s'.heldTotal P + (if P (u, d) then 1 else 0) = s.heldTotal P) : s'.Counted where
  toShaped := hs'
  ledger_pos := by
    rw [hl]
    exact (Ledger.tidy_decrement hc.ledger_tidy u d).pos
  ledger_total P := by
    have hfound : (s.ledger.decrement u d).2 = true := by
      apply hc.decrement_found
      have := hheld (· = (u, d))
      simp only [decide_true, if_true] at this
      omega
    have hdec := Ledger.total_decrement hfound P
    have hrel := hheld P
    rw [hl]
    rw [hc.ledger_total] at hdec
    omega

theorem cancel {u : UserId} {b : BookingId} {ref : SlotRef} (h : s.cancel u b = .ok (s', ref)) : s'.Counted :=
  hc.release (shaped_cancel h hc.toShaped) (cancel_ledger h) (heldTotal_cancel h hc.toShaped)

theorem createRoom (room : UInt16) (date : Date) (slots : List Timeslot) :
    (s.createRoom room date slots).1.Counted := by
  obtain ⟨-, -, hledger⟩ := createRoom_fields s room date slots
  refine ⟨shaped_createRoom hc.toShaped, ?_, fun P => ?_⟩
  · rw [hledger]
    exact hc.ledger_pos
  · rw [hledger, heldTotal_createRoom hc.toShaped, hc.ledger_total]

theorem dropSlot (room : UInt16) (date : Date) (t : Timeslot) : (s.dropSlot room date t).Counted := by
  rcases hr : s.room? date room with _ | r
  · rw [dropSlot_of_room?_none hr]
    exact hc
  have hshaped := shaped_dropSlot hr t hc.toShaped
  rcases hf : r.find? t with _ | _ | ⟨u, b⟩
  case some.some =>
    obtain ⟨-, hl, hheld⟩ := dropSlot_of_held hr t hc.toShaped hf
    exact hc.release hshaped hl hheld
  all_goals
    -- a free or missing timeslot: the ledger and the held bookings stay
    obtain ⟨-, hl, hheld⟩ := dropSlot_of_not_held hr t hc.toShaped (by simp [hf])
    refine ⟨hshaped, ?_, fun P => ?_⟩
    · rw [hl]
      exact hc.ledger_pos
    · rw [hl, hheld, hc.ledger_total]

end Counted

theorem Counted.foldl_dropSlot {s : Store} (hc : s.Counted) (room : UInt16) (date : Date) (ts : List Timeslot) :
    (ts.foldl (fun v t => v.dropSlot room date t) s).Counted := by
  induction ts generalizing s with
  | nil => exact hc
  | cons t ts ih => exact ih (hc.dropSlot room date t)

theorem Counted.deleteRoom {s : Store} (hc : s.Counted) (room : UInt16) (date : Date) (ts : List Timeslot) :
    (s.deleteRoom room date ts).1.Counted := by
  rw [deleteRoom_eq_foldl hc.toShaped]
  exact hc.foldl_dropSlot room date ts

/-! ## Every operation keeps the index in step -/

namespace Indexed

theorem cancel {s s' : Store} (hi : s.Indexed) {u : UserId} {b : BookingId} {ref : SlotRef}
    (h : s.cancel u b = .ok (s', ref)) : s'.Indexed :=
  hi.release ⟨ref.date, ref.room, ref.slot⟩ (slot?_of_cancel h) (by simp) (cancel_campus h).1 (cancel_index h)
    (slot?_cancel h)

variable {s : Store} (hs : s.Shaped) (hi : s.Indexed)
include hs hi

theorem createRoom (room : UInt16) (date : Date) (slots : List Timeslot) :
    (s.createRoom room date slots).1.Indexed := by
  obtain ⟨hcampus, hidx, -⟩ := createRoom_fields s room date slots
  exact hi.of_held_iff hcampus hidx (held_createRoom hs)

theorem dropSlot (room : UInt16) (date : Date) (t : Timeslot) : (s.dropSlot room date t).Indexed := by
  rcases hr : s.room? date room with _ | r
  · rw [dropSlot_of_room?_none hr]
    exact hi
  have hslot := slot?_dropSlot hr t
  rcases hf : r.find? t with _ | _ | ⟨u, b⟩
  case some.some =>
    obtain ⟨hidx, -, -⟩ := dropSlot_of_held hr t hs hf
    have hk : s.slot? room date t = some (some ⟨u, b⟩) := by simp [slot?_eq, hr, hf]
    exact hi.release ⟨date, room, t⟩ hk (by simp) (dropSlot_campus s room date t) hidx hslot
  all_goals
    -- a free or missing timeslot: nothing held is dropped
    obtain ⟨hidx, -, -⟩ := dropSlot_of_not_held hr t hs (by simp [hf])
    have hkeep : ∀ room' date' t' bk, (s.dropSlot room date t).slot? room' date' t' = some (some bk) ↔
        s.slot? room' date' t' = some (some bk) := by
      intro room' date' t' bk
      rw [held_of_release ⟨date, room, t⟩ (by simp) hslot]
      constructor
      · exact fun h => h.1
      · intro h
        refine ⟨h, ?_⟩
        rintro ⟨rfl, rfl, rfl⟩
        simp [slot?_eq, hr, hf] at h
    exact hi.of_held_iff (dropSlot_campus s room date t) hidx hkeep

end Indexed

theorem Indexed.foldl_dropSlot {s : Store} (hs : s.Shaped) (hi : s.Indexed) (room : UInt16) (date : Date)
    (ts : List Timeslot) : (ts.foldl (fun v t => v.dropSlot room date t) s).Indexed := by
  induction ts generalizing s with
  | nil => exact hi
  | cons t ts ih => exact ih (shaped_foldl_dropSlot hs [t]) (hi.dropSlot hs room date t)

theorem Indexed.deleteRoom {s : Store} (hs : s.Shaped) (hi : s.Indexed) (room : UInt16) (date : Date)
    (ts : List Timeslot) : (s.deleteRoom room date ts).1.Indexed := by
  rw [deleteRoom_eq_foldl hs]
  exact hi.foldl_dropSlot hs room date ts

theorem foldl_dropSlot_campus (s : Store) (room : UInt16) (date : Date) (ts : List Timeslot) :
    (ts.foldl (fun v t => v.dropSlot room date t) s).campus = s.campus := by
  induction ts generalizing s with
  | nil => rfl
  | cons t ts ih => rw [List.foldl_cons, ih, dropSlot_campus]

theorem deleteRoom_campus {s : Store} (hs : s.Shaped) (room : UInt16) (date : Date) (ts : List Timeslot) :
    (s.deleteRoom room date ts).1.campus = s.campus := by
  rw [deleteRoom_eq_foldl hs, foldl_dropSlot_campus]

/-! ## Reachable stores -/

/-- The stores of campus `c` reached from the empty store by runs whose every booking leaves
a store that `Fits`: the empty store, and what its operations make of such a store.  A
booking takes an id that no slot holds. -/
inductive Reaches (c : Campus) (Fits : Store → Prop) : Store → Prop
  | empty : Reaches c Fits (Store.empty c)
  | createRoom {s : Store} (room : UInt16) (date : Date) (slots : List Timeslot) :
      Reaches c Fits s → Reaches c Fits (s.createRoom room date slots).1
  | deleteRoom {s : Store} (room : UInt16) (date : Date) (slots : List Timeslot) :
      Reaches c Fits s → Reaches c Fits (s.deleteRoom room date slots).1
  | commit {s s' : Store} {u : UserId} {room : UInt16} {date : Date} {t : Timeslot}
      {peer limit : UInt32} {fresh : Uuid} {id : BookingId} :
      Reaches c Fits s → ¬ s.Holds ⟨s.campus, fresh⟩ →
      s.commit u room date t peer limit fresh = .ok (.ok (s', id)) → Fits s' → Reaches c Fits s'
  | cancel {s s' : Store} {u : UserId} {b : BookingId} {ref : SlotRef} :
      Reaches c Fits s → s.cancel u b = .ok (s', ref) → Reaches c Fits s'

/-- The stores of campus `c` that some run reaches. -/
abbrev Reachable (c : Campus) : Store → Prop := Reaches c fun _ => True

/-- A store reached while no booking left its student `2 ^ 32` bookings on one date keeps its
ledger in step too. -/
theorem Reaches.counted {c : Campus} {s : Store} (h : s.Reaches c (HeldBelow (2 ^ 32))) : s.Counted := by
  induction h with
  | empty => exact (sound_empty c).toCounted
  | createRoom room date slots _ ih => exact ih.createRoom room date slots
  | deleteRoom room date slots _ ih => exact ih.deleteRoom room date slots
  | @commit _ _ u _ date _ _ _ _ _ _ _ hcommit hfits ih => exact ih.commit hcommit (hfits u date)
  | cancel _ hcancel ih => exact ih.cancel hcancel

end Store
end CampusBooking
