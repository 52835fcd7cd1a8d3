import CampusBooking.Proofs.Ledger

/-!
# The weekly ledger over a history of calls

A ledger is used through three calls: `increment`, `decrement` and `weeklyCount`.  Take any
history of calls made one after another from the empty ledger, and let `net h u d` be the
increments of `(u, d)` in it less the decrements of `(u, d)` that found a booking.  Then the
ledger holds exactly these numbers (`ledger_follows_its_history`):

* the count of `(u, d)` is `net h u d`, so the next decrement of `(u, d)` finds a booking
  exactly when that number is positive, and one that finds none changes nothing;
* every entry's count is positive, and a student appears in the ledger exactly when some date
  of theirs has a positive number, so no student is kept with no bookings;
* the week that ends on an anchor whose first day exists counts the sum of the numbers of its
  seven days, as a 32-bit word.

The counts are 32-bit words, so all of this holds while every number of the history stays
below 2³² at every point of it; a count that reached 2³² would wrap to zero.  The week's sum
is a word too, and so the exact sum as long as that stays below 2³².
-/

namespace CampusBooking

namespace Date

/-- A day is one of the seven days that end on `anchor` exactly when it lies between the
week's first day and the anchor. -/
theorem mem_weekDays_iff {anchor first e : Date} (h : anchor.weekStart? = some first) :
    e ∈ anchor.weekDays ↔ first ≤ e ∧ e ≤ anchor := by
  refine ⟨fun he => ?_, fun he => mem_weekDays h he.1 he.2⟩
  obtain ⟨i, hi, hsub⟩ := List.mem_filterMap.mp he
  have hback := subDays?_epochDay hsub
  have hfirst := weekStart_epochDay h
  have hi7 : i < 7 := List.mem_range.mp hi
  exact ⟨show first.epochDay ≤ e.epochDay by omega, show e.epochDay ≤ anchor.epochDay by omega⟩

/-- The days of a week are different days. -/
theorem nodup_weekDays (anchor : Date) : anchor.weekDays.Nodup := by
  refine List.Nodup.filterMap ?_ List.nodup_range
  intro i j e hi hj
  have hi' := subDays?_epochDay hi
  have hj' := subDays?_epochDay hj
  omega

end Date

namespace Ledger

/-! ## Sums of counts -/

theorem total_congr (l : Ledger) {P Q : UserId × Date → Bool} (h : ∀ k, P k = Q k) :
    l.total P = l.total Q := by
  rw [funext h]

/-- Two tests that share no key: the total of either is the sum of their totals. -/
theorem total_or (l : Ledger) {P Q : UserId × Date → Bool} (h : ∀ k, ¬ (P k = true ∧ Q k = true)) :
    l.total (fun k => P k || Q k) = l.total P + l.total Q := by
  unfold total
  rw [← List.sum_map_add]
  congr 1
  apply List.map_congr_left
  intro e _
  by_cases hp : P e.1 = true <;> by_cases hq : Q e.1 = true
  · exact absurd ⟨hp, hq⟩ (h e.1)
  all_goals simp [hp, hq]

/-- The total of a student's bookings on a list of different days is the sum of the
counts of those days. -/
theorem total_mem_eq_sum {l : Ledger} (hl : l.Tidy) (u : UserId) {D : List Date} (hD : D.Nodup) :
    l.total (fun k => decide (k.1 = u ∧ k.2 ∈ D)) = (D.map (l.count u)).sum := by
  induction D with
  | nil => simp [total]
  | cons d D ih =>
    rw [List.nodup_cons] at hD
    -- the first day is counted by its own key, the others by induction
    have hsplit : ∀ k : UserId × Date,
        decide (k.1 = u ∧ k.2 ∈ d :: D) = (decide (k = (u, d)) || decide (k.1 = u ∧ k.2 ∈ D)) := by
      rintro ⟨v, e⟩
      by_cases hv : v = u <;> by_cases he : e = d <;> simp [hv, he]
    have hdisjoint : ∀ k : UserId × Date, ¬ (decide (k = (u, d)) = true ∧ decide (k.1 = u ∧ k.2 ∈ D) = true) := by
      rintro k ⟨hk, hkD⟩
      simp only [decide_eq_true_eq] at hk hkD
      subst hk
      exact hD.1 hkD.2
    rw [total_congr l hsplit, total_or l hdisjoint, ih hD.2, ← count_eq_total hl.nodup, List.map_cons,
      List.sum_cons]

/-- In a tidy ledger a week whose first day exists counts the sum of its seven days. -/
theorem weeklyCount_eq_sum {l : Ledger} (hl : l.Tidy) (u : UserId) {anchor first : Date}
    (h : anchor.weekStart? = some first) :
    l.weeklyCount u anchor = .ok (anchor.weekDays.map (l.count u)).sum.toUInt32 := by
  have hweek : l.total (window u first anchor) = l.total (fun k => decide (k.1 = u ∧ k.2 ∈ anchor.weekDays)) :=
    total_congr l fun k => by simp only [window, Date.mem_weekDays_iff h]
  rw [weeklyCount_eq l u h, hweek, total_mem_eq_sum hl u (Date.nodup_weekDays anchor)]

/-- An entry of a tidy ledger is a positive count of its key. -/
theorem count_pos_of_mem {l : Ledger} (hl : l.Tidy) {e : (UserId × Date) × UInt32} (he : e ∈ l.entries) :
    0 < l.count e.1.1 e.1.2 := by
  obtain ⟨⟨v, d⟩, n⟩ := e
  have hle : (if decide ((v, d) = (v, d)) then n.toNat else 0) ≤ l.total (· = (v, d)) :=
    List.le_sum_of_mem (List.mem_map.mpr ⟨_, he, rfl⟩)
  have hpos : 0 < n.toNat := Nat.pos_of_ne_zero fun h0 => hl.pos _ he (UInt32.toNat_eq_zero_iff.mp h0)
  show 0 < l.count v d
  rw [count_eq_total hl.nodup]
  simp only [decide_true, if_true] at hle
  omega

/-- A student appears in a tidy ledger exactly when some date of theirs has a positive count. -/
theorem holds_iff {l : Ledger} (hl : l.Tidy) (u : UserId) :
    l.holds u = true ↔ ∃ d, 0 < l.count u d := by
  constructor
  · intro hu
    obtain ⟨e, he, hk⟩ := List.any_eq_true.mp hu
    simp only [beq_iff_eq] at hk
    exact ⟨e.1.2, hk ▸ count_pos_of_mem hl he⟩
  · rintro ⟨d, hd⟩
    exact holds_of_count_pos hd

/-! ## Histories of calls -/

/-- A call on the ledger. -/
inductive Call where
  | increment (student : UserId) (date : Date)
  | decrement (student : UserId) (date : Date)
  | weeklyCount (student : UserId) (anchor : Date)

/-- What a call answers. -/
inductive Reply where
  /-- An increment answers nothing. -/
  | done
  /-- Whether a decrement found a booking to take away. -/
  | found (removed : Bool)
  /-- The count of a week, or the halt of asking for it. -/
  | week (count : Except Halt UInt32)

/-- Makes one call. -/
def call (l : Ledger) : Call → Ledger × Reply
  | .increment u d => (l.increment u d, .done)
  | .decrement u d => ((l.decrement u d).1, .found (l.decrement u d).2)
  | .weeklyCount u a => (l, .week (l.weeklyCount u a))

/-- Makes calls one after another: the ledger reached, and each call with its reply. -/
def replay (l : Ledger) : List Call → Ledger × List (Call × Reply)
  | [] => (l, [])
  | c :: cs =>
    let (l', r) := l.call c
    let (l'', h) := l'.replay cs
    (l'', (c, r) :: h)

/-- The ledger that calls made from the empty ledger reach. -/
def after (cs : List Call) : Ledger := (empty.replay cs).1

/-- The calls made from the empty ledger, each with its reply. -/
def history (cs : List Call) : List (Call × Reply) := (empty.replay cs).2

/-- Whether a call recorded a booking of `u` on `d`. -/
def Call.adds (u : UserId) (d : Date) : Call → Bool
  | .increment v e => v = u ∧ e = d
  | _ => false

/-- Whether a call, by its reply, took away a booking of `u` on `d`. -/
def removes (u : UserId) (d : Date) : Call × Reply → Bool
  | (.decrement v e, .found true) => v = u ∧ e = d
  | _ => false

/-- The increments of `(u, d)` in a history, less the decrements of it that found a booking. -/
def net (h : List (Call × Reply)) (u : UserId) (d : Date) : Int :=
  (h.countP fun x => x.1.adds u d : Nat) - (h.countP (removes u d) : Nat)

@[simp] theorem net_nil (u : UserId) (d : Date) : net [] u d = 0 := rfl

theorem net_snoc (h : List (Call × Reply)) (x : Call × Reply) (u : UserId) (d : Date) :
    net (h ++ [x]) u d =
      net h u d + (if x.1.adds u d then 1 else 0) - (if removes u d x then 1 else 0) := by
  unfold net
  rw [List.countP_append, List.countP_append, List.countP_singleton, List.countP_singleton]
  split <;> split <;> simp <;> omega

/-- A history's numbers are at most its length. -/
theorem net_le_length (h : List (Call × Reply)) (u : UserId) (d : Date) : net h u d ≤ h.length := by
  have := List.countP_le_length (p := fun x : Call × Reply => x.1.adds u d) (l := h)
  unfold net
  omega

/-- The ledger holds, for each student and date, the net of a history, in tidy entries. -/
structure Tracks (l : Ledger) (h : List (Call × Reply)) : Prop where
  tidy : l.Tidy
  count_eq_net : ∀ u d, (l.count u d : Int) = net h u d

theorem tracks_empty : Tracks empty [] := ⟨tidy_empty, fun _ _ => rfl⟩

/-- One call keeps the ledger in step with the history that it extends, as long as no
number of the longer history reaches 2³². -/
theorem Tracks.call {l : Ledger} {h : List (Call × Reply)} (ht : Tracks l h) (c : Call)
    (hroom : ∀ u d, net (h ++ [(c, (l.call c).2)]) u d < 2 ^ 32) :
    Tracks (l.call c).1 (h ++ [(c, (l.call c).2)]) := by
  cases c with
  | increment u d =>
    -- the count went up by one and stayed below 2³², so the word did not wrap
    have hcount : l.count u d + 1 < 2 ^ 32 := by
      have : net (h ++ [(Call.increment u d, Reply.done)]) u d < 2 ^ 32 := hroom u d
      rw [net_snoc, ← ht.count_eq_net] at this
      simp [Call.adds, removes] at this
      omega
    refine ⟨tidy_increment ht.tidy hcount, fun v e => ?_⟩
    rw [net_snoc, ← ht.count_eq_net]
    simp only [Ledger.call, count_increment, Call.adds, removes, Prod.mk.injEq]
    by_cases hk : u = v ∧ d = e
    · obtain ⟨rfl, rfl⟩ := hk
      rw [if_pos ⟨rfl, rfl⟩, Nat.mod_eq_of_lt hcount]
      simp
    · simp [hk]
  | decrement u d =>
    cases hfound : (l.decrement u d).2
    · -- nothing found: the ledger and the history's numbers stay
      have hsame := decrement_fst_of_snd_false hfound
      refine ⟨?_, fun v e => ?_⟩
      · simpa only [Ledger.call, hsame] using ht.tidy
      · simp only [Ledger.call, hsame, net_snoc, Call.adds, removes, hfound, ← ht.count_eq_net]
        simp
    · have hpos := (decrement_snd_iff l u d).mp hfound
      refine ⟨tidy_decrement ht.tidy u d, fun v e => ?_⟩
      rw [net_snoc, ← ht.count_eq_net]
      simp only [Ledger.call, count_decrement ht.tidy.nodup, Call.adds, removes, hfound, Prod.mk.injEq]
      by_cases hk : u = v ∧ d = e
      · obtain ⟨rfl, rfl⟩ := hk
        simp only [and_self, if_true]
        simp
        omega
      · simp [hk]
  | weeklyCount u a =>
    refine ⟨ht.tidy, fun v e => ?_⟩
    simp [Ledger.call, net_snoc, Call.adds, removes, ht.count_eq_net]

/-- Calls made one after another keep the ledger in step with the whole history, as long as
no number of the history reaches 2³² at any point of it. -/
theorem Tracks.replay {l : Ledger} {h : List (Call × Reply)} (ht : Tracks l h) (cs : List Call)
    (hbound : ∀ n u d, net (h ++ (l.replay cs).2.take n) u d < 2 ^ 32) :
    Tracks (l.replay cs).1 (h ++ (l.replay cs).2) := by
  induction cs generalizing l h with
  | nil => simpa [Ledger.replay] using ht
  | cons c cs ih =>
    -- the first call's point of the history, then the rest from the ledger it leaves
    have hfirst : Tracks (l.call c).1 (h ++ [(c, (l.call c).2)]) :=
      ht.call c fun u d => by simpa [Ledger.replay] using hbound 1 u d
    have hrest := ih hfirst fun n u d => by
      simpa [Ledger.replay, List.append_assoc] using hbound (n + 1) u d
    simpa [Ledger.replay, List.append_assoc] using hrest

theorem tracks_after (cs : List Call) (hbound : ∀ n u d, net ((history cs).take n) u d < 2 ^ 32) :
    Tracks (after cs) (history cs) := by
  have ht := tracks_empty.replay cs fun n u d => by
    rw [List.nil_append]
    exact hbound n u d
  rw [List.nil_append] at ht
  exact ht

/-- A tracked ledger's count of the week that ends on `anchor` is the sum of the history's
numbers for the week's seven days, as a 32-bit word. -/
theorem Tracks.weeklyCount_eq {l : Ledger} {h : List (Call × Reply)} (ht : Tracks l h) (u : UserId)
    {anchor first : Date} (hfirst : anchor.weekStart? = some first) :
    l.weeklyCount u anchor = .ok (anchor.weekDays.map (net h u)).sum.toNat.toUInt32 := by
  rw [weeklyCount_eq_sum ht.tidy u hfirst]
  have hsum : (anchor.weekDays.map (net h u)).sum = ((anchor.weekDays.map (l.count u)).sum : Int) := by
    rw [Nat.cast_list_sum, List.map_map]
    congr 1
    apply List.map_congr_left
    intro e _
    exact (ht.count_eq_net u e).symm
  rw [hsum, Int.toNat_natCast]

/-- Over every history of calls made from the empty ledger in which no number of a student
and date reaches 2³² at any point, the ledger holds the net of the history for each student
and date.  So a decrement finds a booking exactly when that number is positive, and one that
finds none changes nothing; every stored count is positive, and a student is kept exactly
while some date of theirs has bookings; and the week that ends on an anchor whose first day
exists counts the sum of its seven days' numbers (as a 32-bit word, so exactly while that
sum is below 2³²). -/
theorem ledger_follows_its_history (cs : List Call)
    (hbound : ∀ n u d, net ((history cs).take n) u d < 2 ^ 32) :
    (∀ u d, ((after cs).count u d : Int) = net (history cs) u d) ∧
    (∀ u d, ((after cs).call (.decrement u d)).2 = .found (decide (0 < net (history cs) u d))) ∧
    (∀ u d, ((after cs).call (.decrement u d)).2 = .found false →
      ((after cs).call (.decrement u d)).1 = after cs) ∧
    (after cs).Tidy ∧
    (∀ u, (after cs).holds u = true ↔ ∃ d, 0 < net (history cs) u d) ∧
    ∀ u anchor first, anchor.weekStart? = some first →
      (after cs).weeklyCount u anchor = .ok (anchor.weekDays.map (net (history cs) u)).sum.toNat.toUInt32 := by
  have ht := tracks_after cs hbound
  refine ⟨ht.count_eq_net, fun u d => ?_, fun u d hnone => ?_, ht.tidy, fun u => ?_,
    fun u anchor first hfirst => ht.weeklyCount_eq u hfirst⟩
  · -- the reply is whether the count, which is the net, is positive
    have hpos : (0 < (after cs).count u d) ↔ 0 < net (history cs) u d := by
      rw [← ht.count_eq_net]
      omega
    have hreply : ((after cs).decrement u d).2 = decide (0 < (after cs).count u d) := by
      rw [Bool.eq_iff_iff, decrement_snd_iff, decide_eq_true_iff]
    simp only [Ledger.call, hreply, hpos]
  · have hfalse : ((after cs).decrement u d).2 = false := by
      simpa [Ledger.call] using hnone
    exact decrement_fst_of_snd_false hfalse
  · rw [holds_iff ht.tidy]
    refine exists_congr fun d => ?_
    rw [← ht.count_eq_net]
    omega

/-- The calls of the example below: three bookings of `dvls1234`, on 2021-01-01, 01-05 and
01-09, and one of them taken away again. -/
def januaryCalls : List Call :=
  [.increment ⟨.dvl, .student, 1234⟩ ⟨18628, by decide, by decide⟩,
    .increment ⟨.dvl, .student, 1234⟩ ⟨18632, by decide, by decide⟩,
    .increment ⟨.dvl, .student, 1234⟩ ⟨18636, by decide, by decide⟩,
    .decrement ⟨.dvl, .student, 1234⟩ ⟨18632, by decide, by decide⟩]

/-- In `januaryCalls` no number comes near 2³², and the week that ends on 01-07 counts the
bookings left on its days. -/
theorem week_ending_seventh_counts_its_days :
    (∀ n u d, net ((history januaryCalls).take n) u d < 2 ^ 32) ∧
      (⟨18634, by decide, by decide⟩ : Date).weekStart? = some (⟨18628, by decide, by decide⟩ : Date) ∧
      (after januaryCalls).weeklyCount ⟨.dvl, .student, 1234⟩ ⟨18634, by decide, by decide⟩ =
        .ok ((⟨18634, by decide, by decide⟩ : Date).weekDays.map
          (net (history januaryCalls) ⟨.dvl, .student, 1234⟩)).sum.toNat.toUInt32 := by
  have hbound : ∀ n u d, net ((history januaryCalls).take n) u d < 2 ^ 32 := by
    intro n u d
    have hlen : ((history januaryCalls).take n).length ≤ 4 :=
      (List.length_take_le' _ _).trans (by decide)
    have := net_le_length ((history januaryCalls).take n) u d
    omega
  exact ⟨hbound, by decide,
    (ledger_follows_its_history januaryCalls hbound).2.2.2.2.2 _ _ ⟨18628, by decide, by decide⟩ (by decide)⟩

end Ledger

end CampusBooking
