import CampusBooking.Store.Ledger
import CampusBooking.Proofs.Keyed

/-!
# Counts and totals of the weekly ledger

Every question asked of the ledger is a sum of counts over the entries whose key passes a
test: the count of one student on one date, and the bookings of a student in a week.
`Ledger.total` is that sum, for any test on `(student, date)`, taken over the counts as
numbers.

The counts are 32-bit words, and the two operations act on them as words:

* `increment` adds one to the count of its key modulo `2 ^ 32` (`count_increment`), so it
  adds one to every total that counts the key as long as the count is below `2 ^ 32 - 1`
  (`total_increment`);
* `decrement` finds a booking exactly when the count is positive (`decrement_snd_iff`), and
  then takes one away from the count and from every total that counts the key; it never
  goes below zero (`count_decrement`).

A ledger is `Tidy` when each key has one entry and no count is zero; a wrapped increment is
the one step that can leave a zero count behind.  In a tidy ledger a count is the total of
its key alone, and `weeklyCount` is the total of the seven days that end on the anchor,
taken as a 32-bit word.

Since the ledger is one flat list of `(student, date)` entries, "a student with an empty
map of dates" is not a state it can be in: a student appears only through an entry.
-/

namespace CampusBooking

theorem UInt32.toNat_eq_zero_iff {n : UInt32} : n.toNat = 0 ↔ n = 0 := by
  rw [← UInt32.toNat_zero, UInt32.toNat_inj]

theorem UInt32.toNat_sub_one {n : UInt32} (h : n ≠ 0) : (n - 1).toNat = n.toNat - 1 := by
  have hn : 1 ≤ n.toNat := Nat.one_le_iff_ne_zero.mpr fun h0 => h (UInt32.toNat_eq_zero_iff.mp h0)
  rw [UInt32.toNat_sub_of_le _ _ (by rw [UInt32.le_iff_toNat_le, UInt32.toNat_one]; exact hn), UInt32.toNat_one]

namespace Ledger

/-- The sum of the counts whose `(student, date)` passes `P`. -/
def total (l : Ledger) (P : UserId × Date → Bool) : Nat :=
  (l.entries.map fun e => if P e.1 then e.2.toNat else 0).sum

/-- The test of the seven days that end on `anchor`, for one student; `first` is the
first day of the week. -/
def window (student : UserId) (first anchor : Date) (k : UserId × Date) : Bool :=
  k.1 = student ∧ first ≤ k.2 ∧ k.2 ≤ anchor

/-- Each key has one entry, and no count is zero. -/
structure Tidy (l : Ledger) : Prop where
  nodup : (l.entries.map Prod.fst).Nodup
  pos : ∀ e ∈ l.entries, e.2 ≠ 0

theorem tidy_empty : Ledger.empty.Tidy := ⟨List.nodup_nil, fun _ h => nomatch h⟩

section Entries

variable (k k' : UserId × Date) (n : UInt32) (es : List ((UserId × Date) × UInt32)) (u : UserId) (d : Date)

@[simp] theorem count_nil : (⟨[]⟩ : Ledger).count u d = 0 := rfl

theorem count_cons : (⟨(k', n) :: es⟩ : Ledger).count u d =
    if k' = (u, d) then n.toNat else (⟨es⟩ : Ledger).count u d := by
  by_cases h : k' = (u, d) <;> simp [count, h]

@[simp] theorem total_nil (P : UserId × Date → Bool) : (⟨[]⟩ : Ledger).total P = 0 := rfl

@[simp] theorem total_cons (P : UserId × Date → Bool) :
    (⟨(k', n) :: es⟩ : Ledger).total P = (if P k' then n.toNat else 0) + (⟨es⟩ : Ledger).total P := by
  simp [total]

theorem bump_cons : bump k ((k', n) :: es) = if k' = k then (k', n + 1) :: es else (k', n) :: bump k es := rfl

theorem drop_cons : drop k ((k', n) :: es) =
    if k' = k then (if n = 0 then none else some (if n = 1 then es else (k', n - 1) :: es))
    else ((k', n) :: ·) <$> drop k es := rfl

end Entries

/-- An increment adds one to the count of its key, as a 32-bit word. -/
theorem count_increment (l : Ledger) (u : UserId) (d : Date) (v : UserId) (e : Date) :
    (l.increment u d).count v e = if (u, d) = (v, e) then (l.count v e + 1) % 2 ^ 32 else l.count v e := by
  obtain ⟨es⟩ := l
  show (⟨bump (u, d) es⟩ : Ledger).count v e = _
  induction es with
  | nil =>
    by_cases h : (u, d) = (v, e) <;> simp [bump, count_cons, h]
  | cons x es ih =>
    obtain ⟨k', n⟩ := x
    rw [bump_cons]
    by_cases hk : k' = (u, d)
    · subst hk
      by_cases h : (u, d) = (v, e)
      · simp [count_cons, h, UInt32.toNat_add]
      · simp [count_cons, h]
    · rw [if_neg hk, count_cons, count_cons, ih]
      by_cases hv : k' = (v, e)
      · subst hv
        simp [Ne.symm hk]
      · simp [hv]

theorem map_fst_bump (k : UserId × Date) (es : List ((UserId × Date) × UInt32)) :
    (bump k es).map Prod.fst = if k ∈ es.map Prod.fst then es.map Prod.fst else es.map Prod.fst ++ [k] := by
  induction es with
  | nil => simp [bump]
  | cons e es ih =>
    obtain ⟨k', n⟩ := e
    by_cases h : k' = k
    · subst h
      simp [bump]
    · by_cases hk : k ∈ es.map Prod.fst <;> simp [bump, h, ih, hk, Ne.symm h]

/-- Recording a booking adds one to every total that counts its key, as long as the key's
count stays below `2 ^ 32`. -/
theorem total_increment (l : Ledger) {u : UserId} {d : Date} (hroom : l.count u d + 1 < 2 ^ 32)
    (P : UserId × Date → Bool) : (l.increment u d).total P = l.total P + if P (u, d) then 1 else 0 := by
  obtain ⟨es⟩ := l
  show (⟨bump (u, d) es⟩ : Ledger).total P = _
  induction es with
  | nil => simp [bump]
  | cons x es ih =>
    obtain ⟨k', n⟩ := x
    rw [bump_cons]
    rw [count_cons] at hroom
    by_cases hk : k' = (u, d)
    · -- the first entry of the key takes the booking, and does not wrap
      rw [if_pos hk] at hroom
      have hn : (n + 1).toNat = n.toNat + 1 := by rw [UInt32.toNat_add, UInt32.toNat_one, Nat.mod_eq_of_lt hroom]
      rw [if_pos hk, total_cons, total_cons, hk]
      by_cases hp : P (u, d)
      · simp [hp, hn]
        omega
      · simp [hp]
    · rw [if_neg hk] at hroom
      rw [if_neg hk, total_cons, total_cons, ih hroom]
      omega

/-- An increment keeps each key entered once: it adds to the key's entry, or enters the key
last. -/
theorem nodup_increment {l : Ledger} (hl : (l.entries.map Prod.fst).Nodup) (u : UserId) (d : Date) :
    ((l.increment u d).entries.map Prod.fst).Nodup := by
  show ((bump (u, d) l.entries).map Prod.fst).Nodup
  rw [map_fst_bump]
  by_cases hk : (u, d) ∈ l.entries.map Prod.fst
  · rw [if_pos hk]
    exact hl
  · rw [if_neg hk]
    refine List.nodup_append.mpr ⟨hl, by simp, ?_⟩
    intro a ha b hb
    rw [List.mem_singleton] at hb
    subst hb
    exact fun h => hk (h ▸ ha)

theorem tidy_increment {l : Ledger} (hl : l.Tidy) {u : UserId} {d : Date} (hroom : l.count u d + 1 < 2 ^ 32) :
    (l.increment u d).Tidy := by
  refine ⟨nodup_increment hl.nodup u d, ?_⟩
  · -- the count that went up is the only one that changed, and it did not wrap to zero
    obtain ⟨es⟩ := l
    have hpos : ∀ e ∈ es, e.2 ≠ 0 := hl.pos
    show ∀ e ∈ bump (u, d) es, e.2 ≠ 0
    clear hl
    induction es with
    | nil => simp [bump]
    | cons x es ih =>
      obtain ⟨k', n⟩ := x
      have hrest : ∀ e ∈ es, e.2 ≠ 0 := fun e he => hpos e (List.mem_cons_of_mem _ he)
      rw [count_cons] at hroom
      intro e he
      rw [bump_cons] at he
      by_cases hk : k' = (u, d)
      · rw [if_pos hk] at hroom he
        rcases List.mem_cons.mp he with rfl | he
        · intro h0
          have := congrArg UInt32.toNat h0
          rw [UInt32.toNat_add, UInt32.toNat_one, Nat.mod_eq_of_lt hroom] at this
          simp at this
        · exact hrest e he
      · rw [if_neg hk] at hroom he
        rcases List.mem_cons.mp he with rfl | he
        · exact hpos _ List.mem_cons_self
        · exact ih hroom hrest e he

/-! ## Removing a booking -/

/-- A key has no count to take from exactly when its count is zero. -/
theorem drop_eq_none_iff (k : UserId × Date) (es : List ((UserId × Date) × UInt32)) :
    drop k es = none ↔ (⟨es⟩ : Ledger).count k.1 k.2 = 0 := by
  induction es with
  | nil => simp [drop]
  | cons x es ih =>
    obtain ⟨k', n⟩ := x
    rw [drop_cons, count_cons]
    by_cases hk : k' = k
    · subst hk
      by_cases hn : n = 0 <;> simp [hn, UInt32.toNat_eq_zero_iff]
    · rw [if_neg hk, if_neg (by simpa using hk), ← ih]
      simp

/-- A decrement finds a booking exactly when the count of its key is positive. -/
theorem decrement_snd_iff (l : Ledger) (u : UserId) (d : Date) :
    (l.decrement u d).2 = true ↔ 0 < l.count u d := by
  obtain ⟨es⟩ := l
  have h := drop_eq_none_iff (u, d) es
  unfold decrement
  rcases hd : drop (u, d) es with _ | es
  · simp only [hd, true_iff] at h
    simp [h]
  · simp only [hd, reduceCtorEq, false_iff] at h
    simp only [true_iff]
    omega

/-- A decrement that finds no booking leaves the ledger as it was. -/
theorem decrement_fst_of_snd_false {l : Ledger} {u : UserId} {d : Date}
    (h : (l.decrement u d).2 = false) : (l.decrement u d).1 = l := by
  unfold decrement at h ⊢
  rcases hd : drop (u, d) l.entries with _ | es
  · rfl
  · rw [hd] at h
    cases h

theorem count_eq_zero_of_not_mem {es : List ((UserId × Date) × UInt32)} {u : UserId} {d : Date}
    (h : (u, d) ∉ es.map Prod.fst) : (⟨es⟩ : Ledger).count u d = 0 := by
  rw [← drop_eq_none_iff (u, d)]
  induction es with
  | nil => rfl
  | cons x es ih =>
    obtain ⟨k', n⟩ := x
    have hk : k' ≠ (u, d) := fun he => h (by simp [he])
    rw [drop_cons, if_neg hk, ih (fun hm => h (List.mem_cons_of_mem _ hm))]
    rfl

/-- Taking one booking from the entries of a key, each key entered once, takes one from its
count and leaves the others. -/
theorem count_drop {k : UserId × Date} {es es' : List ((UserId × Date) × UInt32)}
    (hnd : (es.map Prod.fst).Nodup) (h : drop k es = some es') (v : UserId) (e : Date) :
    (⟨es'⟩ : Ledger).count v e = (⟨es⟩ : Ledger).count v e - if k = (v, e) then 1 else 0 := by
  induction es generalizing es' with
  | nil => cases h
  | cons x es ih =>
    obtain ⟨k', n⟩ := x
    rw [List.map_cons, List.nodup_cons] at hnd
    rw [drop_cons] at h
    by_cases hk : k' = k
    · subst hk
      have hn : n ≠ 0 := fun h0 => by simp [h0] at h
      rw [if_pos rfl, if_neg hn, Option.some.injEq] at h
      subst h
      by_cases hv : k' = (v, e)
      · -- the key's entry loses one, or goes when it held one; the rest has no entry of it
        subst hv
        have hrest := count_eq_zero_of_not_mem hnd.1
        by_cases h1 : n = 1
        · subst h1
          simp [count_cons, hrest]
        · rw [if_neg h1, count_cons, count_cons, if_pos rfl, if_pos rfl, if_pos rfl, UInt32.toNat_sub_one hn]
      · rw [if_neg hv, Nat.sub_zero, count_cons, if_neg hv]
        split
        · rfl
        · rw [count_cons, if_neg hv]
    · rw [if_neg hk] at h
      obtain ⟨es'', h', rfl⟩ := Option.map_eq_some_iff.mp h
      rw [count_cons, count_cons, ih hnd.2 h']
      by_cases hv : k' = (v, e)
      · subst hv
        have hne : ¬ k = (v, e) := fun h => hk h.symm
        simp [hne]
      · rw [if_neg hv, if_neg hv]

/-- A decrement takes one from the count of its key and never goes below zero, in a ledger
that enters each key once. -/
theorem count_decrement {l : Ledger} (hl : (l.entries.map Prod.fst).Nodup) (u : UserId) (d : Date)
    (v : UserId) (e : Date) :
    (l.decrement u d).1.count v e = l.count v e - if (u, d) = (v, e) then 1 else 0 := by
  unfold decrement
  rcases hd : drop (u, d) l.entries with _ | es
  · -- nothing was taken, since the key's count is zero
    have hzero := (drop_eq_none_iff (u, d) l.entries).mp hd
    by_cases h : (u, d) = (v, e)
    · obtain ⟨rfl, rfl⟩ := Prod.mk.inj h
      simp [hzero]
    · simp [h]
  · exact count_drop hl hd v e

/-- Where a key's first entry is positive, taking one booking of it out of the entries takes
one out of every total that counts the key. -/
theorem total_drop (P : UserId × Date → Bool) {k : UserId × Date} {es es' : List ((UserId × Date) × UInt32)}
    (h : drop k es = some es') :
    (⟨es'⟩ : Ledger).total P + (if P k then 1 else 0) = (⟨es⟩ : Ledger).total P := by
  induction es generalizing es' with
  | nil => cases h
  | cons x es ih =>
    obtain ⟨k', n⟩ := x
    rw [drop_cons] at h
    by_cases hk : k' = k
    · subst hk
      have hn : n ≠ 0 := fun h0 => by simp [h0] at h
      rw [if_pos rfl, if_neg hn, Option.some.injEq] at h
      subst h
      have hn1 : 1 ≤ n.toNat := Nat.one_le_iff_ne_zero.mpr fun h0 => hn (UInt32.toNat_eq_zero_iff.mp h0)
      by_cases h1 : n = 1
      · subst h1
        by_cases hp : P k'
        · simp [hp]
          omega
        · simp [hp]
      · by_cases hp : P k'
        · simp [h1, hp, UInt32.toNat_sub_one hn]
          omega
        · simp [h1, hp]
    · rw [if_neg hk] at h
      obtain ⟨es'', h', rfl⟩ := Option.map_eq_some_iff.mp h
      have := ih h'
      simp only [total_cons] at this ⊢
      omega

/-- A decrement that finds a booking takes one from every total that counts its key. -/
theorem total_decrement {l : Ledger} {u : UserId} {d : Date} (h : (l.decrement u d).2 = true)
    (P : UserId × Date → Bool) :
    (l.decrement u d).1.total P + (if P (u, d) then 1 else 0) = l.total P := by
  unfold decrement at h ⊢
  rcases hd : drop (u, d) l.entries with _ | es
  · rw [hd] at h
    cases h
  · exact total_drop P hd

theorem map_fst_drop_sublist {k : UserId × Date} {es es' : List ((UserId × Date) × UInt32)}
    (h : drop k es = some es') : (es'.map Prod.fst).Sublist (es.map Prod.fst) := by
  induction es generalizing es' with
  | nil => cases h
  | cons e es ih =>
    obtain ⟨k', n⟩ := e
    rw [drop_cons] at h
    by_cases hk : k' = k
    · have hn : n ≠ 0 := fun h0 => by simp [hk, h0] at h
      rw [if_pos hk, if_neg hn, Option.some.injEq] at h
      subst h
      split
      · exact List.sublist_cons_self _ _
      · exact List.Sublist.refl _
    · rw [if_neg hk] at h
      obtain ⟨es'', h', rfl⟩ := Option.map_eq_some_iff.mp h
      exact (ih h').cons_cons _

/-- A decrement keeps each key entered once. -/
theorem nodup_decrement {l : Ledger} (hl : (l.entries.map Prod.fst).Nodup) (u : UserId) (d : Date) :
    ((l.decrement u d).1.entries.map Prod.fst).Nodup := by
  unfold decrement
  rcases hd : drop (u, d) l.entries with _ | es
  · exact hl
  · exact (map_fst_drop_sublist hd).nodup hl

theorem pos_drop {k : UserId × Date} {es es' : List ((UserId × Date) × UInt32)} (hpos : ∀ e ∈ es, e.2 ≠ 0)
    (h : drop k es = some es') : ∀ e ∈ es', e.2 ≠ 0 := by
  induction es generalizing es' with
  | nil => cases h
  | cons e es ih =>
    obtain ⟨k', n⟩ := e
    have hrest : ∀ e ∈ es, e.2 ≠ 0 := fun e he => hpos e (List.mem_cons_of_mem _ he)
    rw [drop_cons] at h
    by_cases hk : k' = k
    · have hn : n ≠ 0 := fun h0 => by simp [hk, h0] at h
      rw [if_pos hk, if_neg hn, Option.some.injEq] at h
      subst h
      split
      · exact hrest
      · rename_i h1
        intro e he
        rcases List.mem_cons.mp he with rfl | he
        · -- a count of two or more stays positive
          intro h0
          have hsub := UInt32.toNat_sub_one hn
          have hn1 : n.toNat ≠ 0 := fun h' => hn (UInt32.toNat_eq_zero_iff.mp h')
          change n - 1 = 0 at h0
          rw [h0, UInt32.toNat_zero] at hsub
          apply h1
          apply UInt32.toNat_inj.mp
          rw [UInt32.toNat_one]
          omega
        · exact hrest e he
    · rw [if_neg hk] at h
      obtain ⟨es'', h', rfl⟩ := Option.map_eq_some_iff.mp h
      intro e he
      rcases List.mem_cons.mp he with rfl | he
      · exact hpos _ List.mem_cons_self
      · exact ih hrest h' e he

theorem tidy_decrement {l : Ledger} (hl : l.Tidy) (u : UserId) (d : Date) : (l.decrement u d).1.Tidy := by
  refine ⟨nodup_decrement hl.nodup u d, ?_⟩
  unfold decrement
  rcases hd : drop (u, d) l.entries with _ | es
  · exact hl.pos
  · exact pos_drop hl.pos hd

/-! ## Counts and weeks -/

/-- A count is at most the total of its key: the first entry of the key is one of those the
total adds. -/
theorem count_le_total (l : Ledger) (u : UserId) (d : Date) : l.count u d ≤ l.total (· = (u, d)) := by
  obtain ⟨es⟩ := l
  induction es with
  | nil => simp
  | cons x es ih =>
    obtain ⟨k', n⟩ := x
    rw [count_cons, total_cons]
    by_cases hk : k' = (u, d)
    · simp [hk]
    · rw [if_neg hk]
      omega

/-- In a ledger that enters each key once, the count of a key is the total of that key alone. -/
theorem count_eq_total {l : Ledger} (hl : (l.entries.map Prod.fst).Nodup) (u : UserId) (d : Date) :
    l.count u d = l.total (· = (u, d)) := by
  obtain ⟨es⟩ := l
  induction es with
  | nil => rfl
  | cons x es ih =>
    obtain ⟨k', n⟩ := x
    simp only [List.map_cons, List.nodup_cons] at hl
    rw [count_cons, total_cons, ← ih hl.2]
    by_cases hk : k' = (u, d)
    · subst hk
      simp [count_eq_zero_of_not_mem hl.1]
    · simp [hk]

/-- A positive count means an entry. -/
theorem mem_of_count_pos {l : Ledger} {u : UserId} {d : Date} (h : 0 < l.count u d) :
    (u, d) ∈ l.entries.map Prod.fst := by
  by_contra hk
  rw [count_eq_zero_of_not_mem hk] at h
  exact Nat.lt_irrefl 0 h

/-- The 32-bit sum of the counts in the seven days from `first` to `last`. -/
theorem countBetween_eq (l : Ledger) (u : UserId) (first last : Date) :
    l.countBetween u first last = (l.total (window u first last)).toUInt32 := by
  unfold countBetween total
  suffices h : ∀ (acc : UInt32) (es : List ((UserId × Date) × UInt32)),
      es.foldl (fun (acc : UInt32) (e : (UserId × Date) × UInt32) =>
        if e.1.1 = u ∧ first ≤ e.1.2 ∧ e.1.2 ≤ last then acc + e.2 else acc) acc =
        acc + (es.map fun (e : (UserId × Date) × UInt32) =>
          if window u first last e.1 then e.2.toNat else 0).sum.toUInt32 by
    simpa using h 0 l.entries
  intro acc es
  induction es generalizing acc with
  | nil => simp
  | cons e es ih =>
    rw [List.foldl_cons, ih, List.map_cons, List.sum_cons]
    by_cases hw : e.1.1 = u ∧ first ≤ e.1.2 ∧ e.1.2 ≤ last
    · have : window u first last e.1 = true := by simpa [window] using hw
      simp only [if_pos hw, this, if_true, Nat.toUInt32_eq, UInt32.ofNat_add, UInt32.ofNat_toNat]
      ac_rfl
    · have : window u first last e.1 = false := by simpa [window] using hw
      simp [if_neg hw, this]

/-- A student holds some booking exactly when some total of theirs is not zero. -/
theorem total_window_eq_zero_of_not_holds {l : Ledger} {u : UserId} (h : l.holds u = false)
    (first last : Date) : l.total (window u first last) = 0 := by
  unfold holds at h
  unfold total
  refine List.sum_eq_zero_iff_forall_eq_nat.mpr ?_
  intro x hx
  obtain ⟨e, he, rfl⟩ := List.mem_map.mp hx
  have : e.1.1 ≠ u := by
    intro heq
    have := List.any_eq_false.mp h e he
    simp [heq] at this
  simp [window, this]

/-- The week that ends on an anchor with a first day: its count is the 32-bit total of
the student's counts from the first day to the anchor. -/
theorem weeklyCount_eq (l : Ledger) (u : UserId) {anchor first : Date}
    (h : anchor.weekStart? = some first) :
    l.weeklyCount u anchor = .ok (l.total (window u first anchor)).toUInt32 := by
  unfold weeklyCount
  cases hh : l.holds u
  · simp [total_window_eq_zero_of_not_holds hh]
  · simp [h, countBetween_eq]

end Ledger

/-! ## The days of a week -/

namespace Date

/-- The seven days that end on `anchor`, latest first, as far as they are representable. -/
def weekDays (anchor : Date) : List Date := (List.range 7).filterMap anchor.subDays?

theorem length_weekDays_le (anchor : Date) : anchor.weekDays.length ≤ 7 := by
  have := List.length_filterMap_le anchor.subDays? (List.range 7)
  rw [List.length_range] at this
  exact this

theorem weekStart_epochDay {anchor first : Date} (h : anchor.weekStart? = some first) :
    first.epochDay = anchor.epochDay - 6 :=
  subDays?_epochDay h

/-- Every day from the first day of a week to its anchor is one of its `weekDays`. -/
theorem mem_weekDays {anchor first e : Date} (h : anchor.weekStart? = some first) (hfe : first ≤ e)
    (hea : e ≤ anchor) : e ∈ anchor.weekDays := by
  have hfirst := weekStart_epochDay h
  have hfe' : first.epochDay ≤ e.epochDay := hfe
  have hea' : e.epochDay ≤ anchor.epochDay := hea
  -- `e` is `anchor` moved back by the days between them, fewer than seven
  refine List.mem_filterMap.mpr ⟨(anchor.epochDay - e.epochDay).toNat, List.mem_range.mpr (by omega), ?_⟩
  have hback : anchor.epochDay - ((anchor.epochDay - e.epochDay).toNat : Int) = e.epochDay := by omega
  unfold subDays? ofEpochDay?
  rw [dif_pos ⟨by rw [hback]; exact e.first_le, by rw [hback]; exact e.le_last⟩]
  obtain ⟨n, h1, h2⟩ := e
  simp only at hback
  simp only [hback]

end Date

namespace Ledger

/-- The bookings of a student in the week that ends on `anchor`, as a natural number; a
week that would start before the first representable day counts none. -/
def weekTotal (l : Ledger) (u : UserId) (anchor : Date) : Nat :=
  match anchor.weekStart? with
  | some first => l.total (window u first anchor)
  | none => 0

theorem total_mono (l : Ledger) {P Q : UserId × Date → Bool} (h : ∀ k, P k = true → Q k = true) :
    l.total P ≤ l.total Q := by
  unfold total
  apply List.sum_le_sum
  intro e _
  by_cases hp : P e.1 = true
  · simp [hp, h e.1 hp]
  · simp [hp]

/-- A total is at most the sum of the totals of tests that together take every key it
takes. -/
theorem total_le_sum {ι : Type} (l : Ledger) {P : UserId × Date → Bool} {Q : ι → UserId × Date → Bool}
    {D : List ι} (h : ∀ k, P k = true → ∃ i ∈ D, Q i k = true) :
    l.total P ≤ (D.map fun i => l.total (Q i)).sum := by
  obtain ⟨es⟩ := l
  unfold total
  dsimp only
  induction es with
  | nil => simp
  | cons e es ih =>
    -- the first entry is taken by one of the tests; the rest by induction
    have hhead : (if P e.1 then e.2.toNat else 0) ≤ (D.map fun i => if Q i e.1 then e.2.toNat else 0).sum := by
      by_cases hp : P e.1 = true
      · obtain ⟨i, hi, hq⟩ := h e.1 hp
        have hle : (if Q i e.1 then e.2.toNat else 0) ≤ (D.map fun i => if Q i e.1 then e.2.toNat else 0).sum :=
          List.le_sum_of_mem (List.mem_map.mpr ⟨i, hi, rfl⟩)
        rw [if_pos hq] at hle
        rw [if_pos hp]
        exact hle
      · simp [hp]
    simp only [List.map_cons, List.sum_cons, List.sum_map_add]
    omega

theorem holds_of_count_pos {l : Ledger} {u : UserId} {d : Date} (h : 0 < l.count u d) : l.holds u = true := by
  obtain ⟨e, he, hk⟩ := List.mem_map.mp (mem_of_count_pos h)
  unfold holds
  exact List.any_eq_true.mpr ⟨e, he, by simp [hk]⟩

/-- A week with no first day is answered only for a student who holds nothing, and with
none. -/
theorem weeklyCount_of_weekStart_none {l : Ledger} {u : UserId} {anchor : Date} {x : UInt32}
    (h : l.weeklyCount u anchor = .ok x) (hs : anchor.weekStart? = none) : l.holds u = false ∧ x = 0 := by
  cases hh : l.holds u <;> simp [weeklyCount, hh, hs] at h
  exact ⟨rfl, h.symm⟩

/-- A week that the ledger answers is the 32-bit word of the week's total. -/
theorem weeklyCount_eq_weekTotal {l : Ledger} {u : UserId} {anchor : Date} {x : UInt32}
    (h : l.weeklyCount u anchor = .ok x) : x = (l.weekTotal u anchor).toUInt32 := by
  unfold weekTotal
  rcases hs : anchor.weekStart? with _ | first
  · obtain ⟨-, rfl⟩ := weeklyCount_of_weekStart_none h hs
    rfl
  · rw [weeklyCount_eq l u hs] at h
    cases h
    rfl

/-- The anchor's own count is part of a week that the ledger answers. -/
theorem count_le_weekTotal {l : Ledger} {u : UserId} {anchor : Date} {x : UInt32}
    (h : l.weeklyCount u anchor = .ok x) : l.count u anchor ≤ l.weekTotal u anchor := by
  unfold weekTotal
  rcases hs : anchor.weekStart? with _ | first
  · -- the student holds nothing, so the anchor counts none
    have hholds := (weeklyCount_of_weekStart_none h hs).1
    have hzero : ¬ 0 < l.count u anchor := fun hpos => by
      rw [holds_of_count_pos hpos] at hholds
      cases hholds
    omega
  · have hfirst := Date.weekStart_epochDay hs
    refine (count_le_total l u anchor).trans ?_
    apply total_mono
    intro k hk
    simp only [decide_eq_true_eq] at hk
    subst hk
    simp only [window, decide_eq_true_eq, true_and]
    exact ⟨show first.epochDay ≤ anchor.epochDay by omega, le_refl anchor.epochDay⟩

/-- A week holds at most the counts of its seven days. -/
theorem weekTotal_le {l : Ledger} (hl : (l.entries.map Prod.fst).Nodup) (u : UserId) (anchor : Date) :
    l.weekTotal u anchor ≤ (anchor.weekDays.map fun e => l.count u e).sum := by
  unfold weekTotal
  rcases hs : anchor.weekStart? with _ | first
  · exact Nat.zero_le _
  · have hcover : ∀ k, window u first anchor k = true → ∃ e ∈ anchor.weekDays, decide (k = (u, e)) = true := by
      rintro ⟨v, e⟩ hk
      simp only [window, decide_eq_true_eq] at hk
      obtain ⟨rfl, hfe, hea⟩ := hk
      exact ⟨e, Date.mem_weekDays hs hfe hea, by simp⟩
    refine (total_le_sum l hcover).trans (le_of_eq ?_)
    congr 1
    apply List.map_congr_left
    intro e _
    rw [count_eq_total hl]

end Ledger
end CampusBooking
