import CampusBooking.Proofs.Cluster.Handlers
import CampusBooking.Proofs.Store.Invariant

/-!
# Reachable clusters and what they keep

A request changes the cluster by a few store operations, one after another (`Change`):
opening or removing timeslots at the node's campus, a booking committed at a slot's campus
under the next id of the cluster's source, or a cancellation at a booking's campus.  An
answered request makes at most one booking, and makes it last (`Made`, `handle_made`).

`Cluster.Reaches Fits` collects the clusters that running nodes reach while every request is
handled in a cluster that `Fits`: a start with empty stores, any change of the link's rules
or of the running campuses, and any request a node answered.  `Cluster.Reachable` takes
every run.  In every reachable cluster each store belongs to its campus and is shaped
(`Reaches.shaped`).  While the ids drawn from the source are different, every store also
keeps its index in step and holds only ids already drawn (`Reaches.sound`).  The ledgers
count in 32-bit words: while no request meets a student with `2 ^ 32 - 1` bookings on one
date at one campus, every ledger counts its store's bookings (`Reaches.counted`).
-/

namespace CampusBooking
namespace Cluster

open Node Relation

/-- One change a request makes to the cluster: a store operation at one campus. -/
inductive Change : Cluster → Cluster → Prop
  | createRoom (w : Cluster) (c : Campus) (room : UInt16) (date : Date) (slots : List Timeslot) :
      Change w (w.withStore c ((w.stores c).createRoom room date slots).1)
  | deleteRoom (w : Cluster) (c : Campus) (room : UInt16) (date : Date) (slots : List Timeslot) :
      Change w (w.withStore c ((w.stores c).deleteRoom room date slots).1)
  | book {w w' : Cluster} {k : Nat} {u : UserId} {t : SlotRef} {b : BookingId} :
      BookedAt k u t w b w' → Change w w'
  | cancel {w w' : Cluster} {u : UserId} {b : BookingId} {ref : SlotRef} :
      CancelledAt u b w ref w' → Change w w'

/-- What an answered request did to the cluster, its booking made over links on which calls
may still nest `k` deep: nothing, opening or removing timeslots at one campus, a booking, a
cancellation, or a cancellation and then a booking. -/
inductive Made (k : Nat) : Cluster → Cluster → Prop
  | keep (w : Cluster) : Made k w w
  | createRoom (w : Cluster) (c : Campus) (room : UInt16) (date : Date) (slots : List Timeslot) :
      Made k w (w.withStore c ((w.stores c).createRoom room date slots).1)
  | deleteRoom (w : Cluster) (c : Campus) (room : UInt16) (date : Date) (slots : List Timeslot) :
      Made k w (w.withStore c ((w.stores c).deleteRoom room date slots).1)
  | book {w w' : Cluster} {u : UserId} {t : SlotRef} {b : BookingId} :
      BookedAt k u t w b w' → Made k w w'
  | cancel {w w' : Cluster} {u : UserId} {b : BookingId} {ref : SlotRef} :
      CancelledAt u b w ref w' → Made k w w'
  | cancelThenBook {w w₁ w' : Cluster} {u : UserId} {b nb : BookingId} {ref t : SlotRef} :
      CancelledAt u b w ref w₁ → BookedAt k u t w₁ nb w' → Made k w w'

section Made

variable {n : Nat} {own : Campus} {ch : Channel} {req : Request} {w w' : Cluster} {r : Response}

theorem changeReservation_made {u : UserId} {old : BookingId} {t : SlotRef}
    (h : runOn (changeReservation (deliver (handle n) own) own u old t) w = (.ok r, w')) : Made (n - 1) w w' := by
  rcases changeReservation_spec h with ⟨⟨-, -, rfl⟩, -⟩ | ⟨ref, w₁, b, hc, hb, -⟩ | ⟨ref, w₁, b, hc, hb, -⟩ |
    ⟨ref, hc, -⟩
  · exact .keep _
  · exact .cancelThenBook hc hb
  · exact .cancelThenBook hc hb
  · exact .cancel hc

theorem dispatch_made (h : runOn (dispatch (deliver (handle n) own) own ch req) w = (.ok r, w')) :
    Made (n - 1) w w' := by
  rcases dispatch_spec h with rfl | ⟨room, date, slots, -, -, rfl, -⟩ | ⟨room, date, slots, -, -, rfl, -⟩ |
    ⟨-, u, t, b, -, hb⟩ | ⟨-, u, b, ref, -, hc⟩ | ⟨u, old, t, -, -, hch⟩
  · exact .keep _
  · exact .createRoom w own room date slots
  · exact .deleteRoom w own room date slots
  · exact .book hb
  · exact .cancel hc
  · exact changeReservation_made hch

/-- Every answered request made one of the changes `Made` lists, its booking asking over
links two levels shallower than the request. -/
theorem handle_made (h : runOn (handle n own ch req) w = (.ok r, w')) : Made (n - 2) w w' := by
  cases n with
  | zero =>
    rw [eq_of_refused (handle_zero_refused h)]
    exact .keep w
  | succ n =>
    obtain ⟨r₀, hd, -⟩ := handle_succ_spec h
    exact dispatch_made hd

theorem Made.changes {k : Nat} (h : Made k w w') : ReflTransGen Change w w' := by
  cases h with
  | keep => exact .refl
  | createRoom c room date slots => exact .single (.createRoom w c room date slots)
  | deleteRoom c room date slots => exact .single (.deleteRoom w c room date slots)
  | book hb => exact .single (.book hb)
  | cancel hc => exact .single (.cancel hc)
  | cancelThenBook hc hb => exact .head (.cancel hc) (.single (.book hb))

/-- Every answered request is made by a sequence of changes. -/
theorem handle_changes (h : runOn (handle n own ch req) w = (.ok r, w')) : ReflTransGen Change w w' :=
  (handle_made h).changes

end Made

/-! ## What a change keeps -/

section Frame

variable {w w' : Cluster}

/-- A change touches the stores and the count of drawn ids only. -/
theorem Change.settings_eq (h : Change w w') : w'.rules = w.rules ∧ w'.up = w.up ∧ w'.quota = w.quota := by
  cases h with
  | createRoom => exact ⟨rfl, rfl, rfl⟩
  | deleteRoom => exact ⟨rfl, rfl, rfl⟩
  | book hb =>
    obtain ⟨_, _, _, s, _, _, rfl⟩ := hb
    exact ⟨rfl, rfl, rfl⟩
  | cancel hc =>
    obtain ⟨s, _, rfl⟩ := hc
    exact ⟨rfl, rfl, rfl⟩

theorem settings_eq_of_changes (h : ReflTransGen Change w w') :
    w'.rules = w.rules ∧ w'.up = w.up ∧ w'.quota = w.quota := by
  induction h with
  | refl => exact ⟨rfl, rfl, rfl⟩
  | tail _ step ih =>
    obtain ⟨hr, hu, hq⟩ := step.settings_eq
    exact ⟨hr.trans ih.1, hu.trans ih.2.1, hq.trans ih.2.2⟩

/-- A change keeps the id source, and draws from it at most once. -/
theorem Change.source (h : Change w w') : w'.ids = w.ids ∧ w.drawn ≤ w'.drawn := by
  cases h with
  | createRoom => exact ⟨rfl, le_refl _⟩
  | deleteRoom => exact ⟨rfl, le_refl _⟩
  | book hb =>
    obtain ⟨_, _, _, s, _, _, rfl⟩ := hb
    exact ⟨rfl, Nat.le_succ _⟩
  | cancel hc =>
    obtain ⟨s, _, rfl⟩ := hc
    exact ⟨rfl, le_refl _⟩

/-- Ids that are different after a change were different before it. -/
theorem Change.injOn (h : Change w w') (hids : Set.InjOn w'.ids (Set.Iio w'.drawn)) :
    Set.InjOn w.ids (Set.Iio w.drawn) := by
  obtain ⟨hsrc, hle⟩ := h.source
  rw [hsrc] at hids
  exact hids.mono (Set.Iio_subset_Iio hle)

theorem injOn_of_changes (h : ReflTransGen Change w w') (hids : Set.InjOn w'.ids (Set.Iio w'.drawn)) :
    Set.InjOn w.ids (Set.Iio w.drawn) := by
  induction h with
  | refl => exact hids
  | tail _ step ih => exact ih (step.injOn hids)

/-- A property that every campus's store has, and the new store has at its campus, holds of
every store after the replacement. -/
theorem forall_withStore {P : Campus → Store → Prop} {c : Campus} {s : Store} (hw : ∀ d, P d (w.stores d))
    (hs : P c s) (d : Campus) : P d ((w.withStore c s).stores d) := by
  rw [withStore_stores]
  split
  · rename_i hd
    subst hd
    exact hs
  · exact hw d

end Frame

/-! ## Shaped clusters -/

/-- Every store of the cluster belongs to its campus, and has each room once, each timeslot
once in its room and each ledger key once. -/
structure Shaped (w : Cluster) : Prop where
  store_shaped : ∀ c, (w.stores c).Shaped
  campus_eq : ∀ c, (w.stores c).campus = c

section Shaped

variable {w w' : Cluster}

/-- Replacing a store by a shaped store of the same campus keeps the cluster shaped, whatever
the count of drawn ids. -/
theorem Shaped.withStore (hw : w.Shaped) {c : Campus} {s : Store} (k : Nat) (hs : s.Shaped)
    (hc : s.campus = c) : { w.withStore c s with drawn := k }.Shaped :=
  ⟨forall_withStore hw.store_shaped hs, forall_withStore (P := fun d s => s.campus = d) hw.campus_eq hc⟩

theorem Change.shaped (h : Change w w') (hw : w.Shaped) : w'.Shaped := by
  cases h with
  | createRoom c room date slots =>
    refine hw.withStore w.drawn (Store.shaped_createRoom (hw.store_shaped c)) ?_
    rw [(Store.createRoom_fields _ room date slots).1, hw.campus_eq]
  | deleteRoom c room date slots =>
    refine hw.withStore w.drawn (Store.shaped_deleteRoom (hw.store_shaped c) slots) ?_
    rw [Store.deleteRoom_campus (hw.store_shaped c), hw.campus_eq]
  | book hb =>
    obtain ⟨_, _, _, s, _, hc, rfl⟩ := hb
    refine hw.withStore _ (Store.shaped_commit hc (hw.store_shaped _)) ?_
    rw [Store.commit_campus hc, hw.campus_eq]
  | cancel hc =>
    obtain ⟨s, hc, rfl⟩ := hc
    refine hw.withStore w.drawn (Store.shaped_cancel hc (hw.store_shaped _)) ?_
    rw [(Store.cancel_campus hc).1, hw.campus_eq]

theorem Shaped.changes (hw : w.Shaped) (h : ReflTransGen Change w w') : w'.Shaped := by
  induction h with
  | refl => exact hw
  | tail _ step ih => exact step.shaped ih

end Shaped

/-! ## Counted clusters -/

/-- Every store keeps its ledger in step with the bookings it holds, and belongs to its
campus. -/
structure Counted (w : Cluster) : Prop where
  store_counted : ∀ c, (w.stores c).Counted
  campus_eq : ∀ c, (w.stores c).campus = c

/-- No store holds `n` or more bookings of one student dated on one day. -/
def HeldBelow (n : Nat) (w : Cluster) : Prop := ∀ c, (w.stores c).HeldBelow n

section Counted

variable {w w' : Cluster}

theorem Counted.shaped (hw : w.Counted) : w.Shaped := ⟨fun c => (hw.store_counted c).toShaped, hw.campus_eq⟩

/-- Replacing a store by a counted store of the same campus keeps the cluster counted,
whatever the count of drawn ids. -/
theorem Counted.withStore (hw : w.Counted) {c : Campus} {s : Store} (k : Nat) (hs : s.Counted)
    (hc : s.campus = c) : { w.withStore c s with drawn := k }.Counted :=
  ⟨forall_withStore hw.store_counted hs, forall_withStore (P := fun d s => s.campus = d) hw.campus_eq hc⟩

end Counted

end Cluster

namespace Node

open Cluster

section Counted

variable {w w' : Cluster} {k : Nat} {u : UserId} {t ref : SlotRef} {b : BookingId}

theorem CancelledAt.counted (hw : w.Counted) (h : CancelledAt u b w ref w') : w'.Counted := by
  obtain ⟨s, hc, rfl⟩ := h
  refine hw.withStore w.drawn ((hw.store_counted _).cancel hc) ?_
  rw [(Store.cancel_campus hc).1, hw.campus_eq]

/-- A cancellation holds no more bookings of anyone than before. -/
theorem CancelledAt.heldBelow {n : Nat} (hw : w.Shaped) (h : CancelledAt u b w ref w') (hfit : w.HeldBelow n) :
    w'.HeldBelow n := by
  obtain ⟨s, hc, rfl⟩ := h
  intro d v e
  refine forall_withStore (P := fun _ s => s.heldTotal (· = (v, e)) < n) (fun d => hfit d v e) ?_ d
  have hrel := Store.heldTotal_cancel hc (hw.store_shaped b.campus) (· = (v, e))
  have hbefore := hfit b.campus v e
  omega

/-- A booking keeps the cluster counted when its student had fewer than `2 ^ 32 - 1` bookings
on the slot's date at the slot's campus: that count goes up by one and stays a word. -/
theorem BookedAt.counted (hw : w.Counted) (h : BookedAt k u t w b w')
    (hroom : (w.stores t.campus).heldTotal (· = (u, t.date)) < 2 ^ 32 - 1) : w'.Counted := by
  obtain ⟨_, _, _, s, _, hc, rfl⟩ := h
  have hheld := Store.heldTotal_commit hc (hw.store_counted t.campus).toShaped (· = (u, t.date))
  simp only [decide_true, if_true] at hheld
  refine hw.withStore _ ((hw.store_counted _).commit hc (by omega)) ?_
  rw [Store.commit_campus hc, hw.campus_eq]

end Counted

end Node

namespace Cluster

open Node Relation

/-- What a request makes keeps the cluster counted, as long as it meets no student with
`2 ^ 32 - 1` bookings on one date at one campus: its one booking comes after any
cancellation, which only lowers the counts. -/
theorem Made.counted {w w' : Cluster} {k : Nat} (h : Made k w w') (hw : w.Counted)
    (hroom : w.HeldBelow (2 ^ 32 - 1)) : w'.Counted := by
  cases h with
  | keep => exact hw
  | createRoom c room date slots =>
    refine hw.withStore w.drawn ((hw.store_counted c).createRoom room date slots) ?_
    rw [(Store.createRoom_fields _ room date slots).1, hw.campus_eq]
  | deleteRoom c room date slots =>
    refine hw.withStore w.drawn ((hw.store_counted c).deleteRoom room date slots) ?_
    rw [Store.deleteRoom_campus (hw.store_counted c).toShaped, hw.campus_eq]
  | book hb => exact hb.counted hw (hroom _ _ _)
  | cancel hc => exact hc.counted hw
  | cancelThenBook hc hb => exact hb.counted (hc.counted hw) (hc.heldBelow hw.shaped hroom _ _ _)

/-! ## Sound clusters -/

/-- Every store is shaped, belongs to its campus and keeps its index in step, and every held
id is one the cluster already drew from its source. -/
structure Sound (w : Cluster) : Prop extends w.Shaped where
  store_indexed : ∀ c, (w.stores c).Indexed
  issued : ∀ c room date t bk, (w.stores c).slot? room date t = some (some bk) →
    ∃ m < w.drawn, bk.id.uuid = w.ids m

section Sound

variable {w w' : Cluster}

theorem sound_start (up : List Campus) (quota : UInt32) (peerTimeout : Nat) (ids : Nat → Uuid) :
    (Cluster.start up quota peerTimeout ids).Sound where
  store_shaped c := (Store.sound_empty c).toShaped
  campus_eq _ := rfl
  store_indexed c := (Store.sound_empty c).toIndexed
  issued c room date t bk h := by simp [Cluster.start, Store.slot?_empty] at h

/-- Replacing a store by a shaped and indexed store of the same campus, whose held ids were
all drawn before `k`, keeps the cluster sound with `k` ids drawn. -/
theorem Sound.withStore (hw : w.Sound) {c : Campus} {s : Store} {k : Nat} (hk : w.drawn ≤ k) (hs : s.Shaped)
    (hi : s.Indexed) (hc : s.campus = c)
    (hheld : ∀ room date t bk, s.slot? room date t = some (some bk) → ∃ m < k, bk.id.uuid = w.ids m) :
    { w.withStore c s with drawn := k }.Sound where
  toShaped := hw.toShaped.withStore k hs hc
  store_indexed := forall_withStore hw.store_indexed hi
  issued d room date t bk h := by
    change (if d = c then s else w.stores d).slot? room date t = some (some bk) at h
    split at h
    · exact hheld room date t bk h
    · obtain ⟨m, hm, he⟩ := hw.issued d room date t bk h
      exact ⟨m, by simp only; omega, he⟩

/-- While the next id differs from every id drawn before it, no store holds it. -/
theorem Sound.fresh (hw : w.Sound) (hids : Set.InjOn w.ids (Set.Iic w.drawn)) (c : Campus) :
    ¬ (w.stores c).Holds ⟨c, w.ids w.drawn⟩ := by
  rintro ⟨room, date, t, u, h⟩
  obtain ⟨m, hm, he⟩ := hw.issued c room date t _ h
  have hsame : w.drawn = m := hids (Set.mem_Iic.mpr le_rfl) (Set.mem_Iic.mpr hm.le) he
  omega

/-- A change keeps the cluster sound, as long as the ids drawn after it are different. -/
theorem Change.sound (h : Change w w') (hw : w.Sound) (hids : Set.InjOn w'.ids (Set.Iio w'.drawn)) :
    w'.Sound := by
  cases h with
  | createRoom c room date slots =>
    refine hw.withStore (le_refl _) (Store.shaped_createRoom (hw.store_shaped c))
      ((hw.store_indexed c).createRoom (hw.store_shaped c) room date slots) ?_ ?_
    · rw [(Store.createRoom_fields _ room date slots).1, hw.campus_eq]
    · intro room' date' t' bk hb
      exact hw.issued c room' date' t' bk ((Store.held_createRoom (hw.store_shaped c) _ _ _ bk).mp hb)
  | deleteRoom c room date slots =>
    refine hw.withStore (le_refl _) (Store.shaped_deleteRoom (hw.store_shaped c) slots)
      ((hw.store_indexed c).deleteRoom (hw.store_shaped c) room date slots) ?_ ?_
    · rw [Store.deleteRoom_campus (hw.store_shaped c), hw.campus_eq]
    · intro room' date' t' bk hb
      exact hw.issued c room' date' t' bk (Store.held_of_deleteRoom (hw.store_shaped c) hb)
  | @book _ k u t b hb =>
    obtain ⟨_, _, _, s, _, hc, rfl⟩ := hb
    -- the id drawn now differs from those drawn before it
    have hnext : Set.InjOn w.ids (Set.Iic w.drawn) := hids.mono (Set.Iic_subset_Iio.mpr (Nat.lt_succ_self _))
    have hcampus := hw.campus_eq t.campus
    have hfresh : ¬ (w.stores t.campus).Holds ⟨(w.stores t.campus).campus, w.ids w.drawn⟩ := by
      rw [hcampus]
      exact hw.fresh hnext t.campus
    refine hw.withStore (Nat.le_succ _) (Store.shaped_commit hc (hw.store_shaped _))
      ((hw.store_indexed _).commit hc hfresh) ?_ ?_
    · rw [Store.commit_campus hc, hcampus]
    · intro room' date' t' bk hbk
      rw [Store.slot?_commit hc] at hbk
      split at hbk
      · -- the new booking holds the id just drawn
        cases hbk
        exact ⟨w.drawn, Nat.lt_succ_self _, by rw [Store.commit_id hc]⟩
      · obtain ⟨m, hm, he⟩ := hw.issued _ room' date' t' bk hbk
        exact ⟨m, by omega, he⟩
  | cancel hc =>
    obtain ⟨s, hc, rfl⟩ := hc
    refine hw.withStore (le_refl _) (Store.shaped_cancel hc (hw.store_shaped _))
      ((hw.store_indexed _).cancel hc) ?_ ?_
    · rw [(Store.cancel_campus hc).1, hw.campus_eq]
    · intro room' date' t' bk hbk
      rw [Store.slot?_cancel hc] at hbk
      split at hbk
      · cases hbk
      · exact hw.issued _ room' date' t' bk hbk

theorem Sound.changes (hw : w.Sound) (h : ReflTransGen Change w w') (hids : Set.InjOn w'.ids (Set.Iio w'.drawn)) :
    w'.Sound := by
  induction h with
  | refl => exact hw
  | tail _ step ih => exact step.sound (ih (step.injOn hids)) hids

end Sound

/-! ## Reachable clusters -/

/-- The clusters that running nodes reach while every request is handled in a cluster that
`Fits`: a start with empty stores, any change of the link's rules or of the running
campuses, and any request that a node answered. -/
inductive Reaches (Fits : Cluster → Prop) : Cluster → Prop
  | start (up : List Campus) (quota : UInt32) (peerTimeout : Nat) (ids : Nat → Uuid) :
      Reaches Fits (Cluster.start up quota peerTimeout ids)
  | rules {w : Cluster} (rules : List LinkRule) : Reaches Fits w → Reaches Fits { w with rules }
  | up {w : Cluster} (up : List Campus) : Reaches Fits w → Reaches Fits { w with up }
  | handle {w w' : Cluster} {n : Nat} {own : Campus} {ch : Channel} {req : Request} {r : Response} :
      Reaches Fits w → Fits w → runOn (handle n own ch req) w = (.ok r, w') → Reaches Fits w'

/-- The clusters that running nodes reach. -/
abbrev Reachable : Cluster → Prop := Reaches fun _ => True

section Reaches

variable {Fits : Cluster → Prop} {w : Cluster}

/-- In every reached cluster each store belongs to its campus and is shaped. -/
theorem Reaches.shaped (h : w.Reaches Fits) : w.Shaped := by
  induction h with
  | start up quota peerTimeout ids => exact (sound_start up quota peerTimeout ids).toShaped
  | rules _ _ ih => exact ⟨ih.store_shaped, ih.campus_eq⟩
  | up _ _ ih => exact ⟨ih.store_shaped, ih.campus_eq⟩
  | handle _ _ hrun ih => exact ih.changes (handle_changes hrun)

/-- A reached cluster whose drawn ids are different is sound. -/
theorem Reaches.sound (h : w.Reaches Fits) (hids : Set.InjOn w.ids (Set.Iio w.drawn)) : w.Sound := by
  induction h with
  | start up quota peerTimeout ids => exact sound_start up quota peerTimeout ids
  | rules _ _ ih =>
    have hw := ih hids
    exact ⟨⟨hw.store_shaped, hw.campus_eq⟩, hw.store_indexed, hw.issued⟩
  | up _ _ ih =>
    have hw := ih hids
    exact ⟨⟨hw.store_shaped, hw.campus_eq⟩, hw.store_indexed, hw.issued⟩
  | handle _ _ hrun ih =>
    have hchanges := handle_changes hrun
    exact (ih (injOn_of_changes hchanges hids)).changes hchanges hids

/-- A cluster reached while no request met a student with `2 ^ 32 - 1` bookings on one date
at one campus is counted. -/
theorem Reaches.counted (h : w.Reaches (HeldBelow (2 ^ 32 - 1))) : w.Counted := by
  induction h with
  | start => exact ⟨fun c => (Store.sound_empty c).toCounted, fun _ => rfl⟩
  | rules _ _ ih => exact ⟨ih.store_counted, ih.campus_eq⟩
  | up _ _ ih => exact ⟨ih.store_counted, ih.campus_eq⟩
  | handle _ hfit hrun ih => exact (handle_made hrun).counted ih hfit

/-- A request answered in a reached cluster that fits leads to a reached cluster. -/
theorem Reaches.next (hw : w.Reaches Fits) (hfit : Fits w) (n : Nat) (own : Campus) (ch : Channel)
    (req : Request) (h : (runOn (CampusBooking.handle n own ch req) w).1.isOk = true) :
    (runOn (CampusBooking.handle n own ch req) w).2.Reaches Fits := by
  rcases hr : runOn (CampusBooking.handle n own ch req) w with ⟨_ | r, w'⟩
  · rw [hr] at h
    cases h
  · exact Reaches.handle hw hfit hr

end Reaches

end Cluster

namespace Node

open Cluster

/-! ## A cluster that holds a booking -/

/-- 2021-01-10, day 18637, lies within the calendar. -/
theorem januaryTenth_first_le : firstDay ≤ 18637 := by decide

theorem januaryTenth_le_last : (18637 : Int) ≤ lastDay := by decide

/-- 9:30-10:00, minutes 570 to 600, is a timeslot of the day. -/
theorem nineThirty_start_lt_stop : 570 < 600 := by decide

theorem nineThirty_stop_lt : 600 < minutesPerDay := by decide

/-- 1234 is a four-digit user number. -/
theorem number1234_lt : 1234 < 10000 := by decide

/-- The cluster after room 201 of DVL is opened at 9:30 on 2021-01-10 and `dvls1234` books it. -/
def bookedInJanuary : Cluster :=
  (runOn (handle Node.depth .dvl .client (.bookRoom ⟨.dvl, .student, ⟨1234, number1234_lt⟩⟩
      ⟨.dvl, 201, ⟨18637, januaryTenth_first_le, januaryTenth_le_last⟩,
        ⟨570, 600, nineThirty_start_lt_stop, nineThirty_stop_lt⟩⟩))
    (runOn (handle Node.depth .dvl .client
        (.createRoom 201 ⟨18637, januaryTenth_first_le, januaryTenth_le_last⟩
          [⟨570, 600, nineThirty_start_lt_stop, nineThirty_stop_lt⟩]))
      (Cluster.start Campus.all 3 1000 Uuid.serial)).2).2

/-- Opening a room and booking it are answered, so the cluster they lead to is reachable. -/
theorem bookedInJanuary_reachable : bookedInJanuary.Reachable :=
  (Reaches.start _ _ _ _ |>.next trivial _ _ _ _ (by decide +kernel)).next trivial _ _ _ _ (by decide +kernel)

end Node

end CampusBooking
