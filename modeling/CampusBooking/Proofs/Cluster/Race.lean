import CampusBooking.Proofs.Cluster.Admission

/-!
# Bookings that race at their campus

A booking at its own campus is made in three steps: the slot is checked, the other campuses
are asked for the student's week, and the store commits the booking, reading the student's
week once more and adding one to it in the same step.  Only the last step is atomic: while
one booking waits for its answers, others of the same student may commit.

A `Race` runs any number of bookings of one student for one date at one campus, each as
these steps, with the questions to the other campuses and their answers in flight and
delivered in any order, and the other campuses' counts staying as they are.  An interleaving
is a list of events; an event whose booking is not at that point does nothing.

The commit's second reading keeps the count: every booking that succeeds found the week,
with the other campuses' total `P` added, below the quota `q`.  So from a week of `L`
bookings at most `q - P - L` succeed, the week holds `L` more than the successes, and it never
holds more than `q - P` bookings unless it held more at the start
(`racing_bookings_within_quota`).  It can hold more at the start: a booking on an earlier day
checks an earlier week (`window_over_quota_before_race`).
-/

namespace CampusBooking

namespace Race

/-- The bookings of one student for one date at one campus, with the quota, what the other
campuses answer about the student's week, and the ids the bookings take. -/
structure Setting where
  student : UserId
  date : Date
  quota : UInt32
  /-- The room and timeslot of each booking. -/
  attempts : List (UInt16 × Timeslot)
  /-- What each other campus answers; its count stays as it is while the bookings run. -/
  peerCount : Campus → UInt32
  /-- The id each booking takes when it commits. -/
  ids : Nat → Uuid

/-- Where one booking stands. -/
inductive Phase where
  /-- Not yet checked. -/
  | waiting
  /-- Checked, and asking the other campuses: the questions their campus has not answered
  yet, the answers on their way back, and the tally of the answers received. -/
  | asking (questions : List Campus) (answers : List (Campus × UInt32)) (tally : Tally)
  | booked
  | refused

/-- Whether a booking succeeded. -/
def Phase.isBooked : Phase → Bool
  | .booked => true
  | _ => false

/-- The campus's store, and where each booking stands. -/
structure State where
  store : Store
  phase : Nat → Phase

/-- One step of one booking. -/
inductive Event where
  /-- Booking `i` checks its slot. -/
  | check (i : Nat)
  /-- Campus `c` answers booking `i`'s question. -/
  | answer (i : Nat) (c : Campus)
  /-- The answer of campus `c` reaches booking `i`. -/
  | receive (i : Nat) (c : Campus)
  /-- Booking `i`, with every answer in, commits. -/
  | commit (i : Nat)

namespace State

/-- A store, with no booking checked yet. -/
def start (s : Store) : State := ⟨s, fun _ => .waiting⟩

/-- Moves booking `i` on to `p`. -/
def setPhase (σ : State) (i : Nat) (p : Phase) : State := { σ with phase := Function.update σ.phase i p }

@[simp] theorem setPhase_store (σ : State) (i : Nat) (p : Phase) : (σ.setPhase i p).store = σ.store := rfl

@[simp] theorem setPhase_phase (σ : State) (i : Nat) (p : Phase) :
    (σ.setPhase i p).phase = Function.update σ.phase i p := rfl

end State

variable (S : Setting)

/-- What an event does; an event whose booking is not at that point does nothing. -/
def step (σ : State) : Event → State
  | .check i =>
    match S.attempts[i]?, σ.phase i with
    | some (room, slot), .waiting =>
      σ.setPhase i (match σ.store.checkBookable room S.date slot with
        | .ok () => .asking σ.store.campus.peers [] Tally.empty
        | .error _ => .refused)
    | _, _ => σ
  | .answer i c =>
    match σ.phase i with
    | .asking qs as T =>
      if c ∈ qs then σ.setPhase i (.asking (qs.erase c) (as ++ [(c, S.peerCount c)]) T) else σ
    | _ => σ
  | .receive i c =>
    match σ.phase i with
    | .asking qs as T =>
      match Keyed.lookup as c with
      | some x => σ.setPhase i (.asking qs (as.filter (·.1 ≠ c)) (T.insert c (some x)))
      | none => σ
    | _ => σ
  | .commit i =>
    match S.attempts[i]?, σ.phase i with
    | some (room, slot), .asking [] [] T =>
      match σ.store.commit S.student room S.date slot T.total S.quota (S.ids i) with
      | .ok (.ok (s, _)) => { σ.setPhase i .booked with store := s }
      | _ => σ.setPhase i .refused
    | _, _ => σ

/-- The state after the events, in order. -/
def run (σ : State) (es : List Event) : State := es.foldl (step S) σ

/-- The number of bookings that succeeded. -/
def successes (σ : State) : Nat :=
  (List.range S.attempts.length).countP fun i => (σ.phase i).isBooked

/-- The other campuses' total, as a number. -/
def Setting.peerTotal (own : Campus) : Nat := (own.peers.map fun c => (S.peerCount c).toNat).sum

/-! ## What one step changes -/

/-- Moving one entry of a sequence that did not pass a test to a new value changes how many
of the first `n` entries pass by one exactly when the new value passes and lies among them. -/
theorem countP_range_update {α : Type} (f : Nat → α) (P : α → Bool) {i : Nat} (v : α) (h : P (f i) = false)
    (n : Nat) : (List.range n).countP (fun j => P (Function.update f i v j)) =
      (List.range n).countP (fun j => P (f j)) + if i < n ∧ P v = true then 1 else 0 := by
  induction n with
  | zero => simp
  | succ n ih =>
    rw [List.range_succ, List.countP_append, List.countP_append, ih]
    by_cases hin : i = n
    · subst hin
      simp [h]
    · have hn : Function.update f i v n = f n := Function.update_of_ne (Ne.symm hin) v f
      have hlt : i < n + 1 ↔ i < n := by omega
      rw [List.countP_singleton, List.countP_singleton, hn]
      simp only [hlt]
      omega

variable {S}

theorem successes_setPhase {σ : State} {i : Nat} {p : Phase} (h : (σ.phase i).isBooked = false) :
    successes S (σ.setPhase i p) = successes S σ + if i < S.attempts.length ∧ p.isBooked = true then 1 else 0 :=
  countP_range_update σ.phase Phase.isBooked p h _

end Race

namespace Tally

@[simp] theorem get_empty (c : Campus) : Tally.empty.get c = none := rfl

theorem get_insert (T : Tally) (c d : Campus) (x : Option UInt32) :
    (T.insert c x).get d = if d = c then x else T.get d := by
  by_cases h : d = c <;> simp [get, insert, h]

end Tally

namespace Ledger

/-- A booking adds one to the week that ends on its own date. -/
theorem weekTotal_increment_self (l : Ledger) (u : UserId) {d first : Date} (h : d.weekStart? = some first)
    (hroom : l.count u d + 1 < 2 ^ 32) : (l.increment u d).weekTotal u d = l.weekTotal u d + 1 := by
  have hfirst : first ≤ d := by
    show first.epochDay ≤ d.epochDay
    have := Date.weekStart_epochDay h
    omega
  have hd : d ≤ d := Int.le_refl d.epochDay
  simp only [weekTotal, h, total_increment _ hroom, window, hfirst, hd, and_self, decide_true, if_true]

end Ledger

namespace Race

variable {S : Setting}

/-! ## The questions to the other campuses -/

variable (S) in
/-- A booking of `own` asking the other campuses: its questions go to other campuses, the
answers on their way carry those campuses' counts, `own` is not in the tally, and every other
campus is still asked, answering, or in the tally with its count. -/
structure FanOut (own : Campus) (qs : List Campus) (as : List (Campus × UInt32)) (T : Tally) : Prop where
  questions_ne : ∀ c ∈ qs, c ≠ own
  answers_true : ∀ a ∈ as, a.1 ≠ own ∧ a.2 = S.peerCount a.1
  own_none : T.get own = none
  covered : ∀ c, c ≠ own → c ∈ qs ∨ (c, S.peerCount c) ∈ as ∨ T.get c = some (S.peerCount c)

variable {own c : Campus} {qs : List Campus} {as : List (Campus × UInt32)} {T : Tally} {x : UInt32}

theorem fanOut_start (own : Campus) : FanOut S own own.peers [] Tally.empty where
  questions_ne _ hc := Campus.mem_peers.mp hc
  answers_true _ ha := (List.not_mem_nil ha).elim
  own_none := rfl
  covered _ hc := Or.inl (Campus.mem_peers.mpr hc)

/-- A campus answers: its question becomes an answer on its way back. -/
theorem FanOut.answer (hf : FanOut S own qs as T) (hc : c ∈ qs) :
    FanOut S own (qs.erase c) (as ++ [(c, S.peerCount c)]) T where
  questions_ne c' hc' := hf.questions_ne c' (List.mem_of_mem_erase hc')
  answers_true a ha := by
    rcases List.mem_append.mp ha with ha | ha
    · exact hf.answers_true a ha
    · rw [List.mem_singleton.mp ha]
      exact ⟨hf.questions_ne c hc, rfl⟩
  own_none := hf.own_none
  covered c' hc' := by
    rcases hf.covered c' hc' with hq | ha | ht
    · by_cases hcc : c' = c
      · subst hcc
        exact Or.inr (Or.inl (List.mem_append_right _ (List.mem_singleton_self _)))
      · exact Or.inl ((List.mem_erase_of_ne hcc).mpr hq)
    · exact Or.inr (Or.inl (List.mem_append_left _ ha))
    · exact Or.inr (Or.inr ht)

/-- An answer arrives: the tally takes the campus's count. -/
theorem FanOut.receive (hf : FanOut S own qs as T) (hx : Keyed.lookup as c = some x) :
    FanOut S own qs (as.filter (·.1 ≠ c)) (T.insert c (some x)) where
  questions_ne := hf.questions_ne
  answers_true a ha := hf.answers_true a (List.mem_of_mem_filter ha)
  own_none := by
    have hc := (hf.answers_true _ (Keyed.mem_of_lookup_eq_some hx)).1
    rw [Tally.get_insert, if_neg (Ne.symm hc)]
    exact hf.own_none
  covered c' hc' := by
    have hxc : x = S.peerCount c := (hf.answers_true _ (Keyed.mem_of_lookup_eq_some hx)).2
    by_cases hcc : c' = c
    · subst hcc
      refine Or.inr (Or.inr ?_)
      rw [Tally.get_insert, if_pos rfl, hxc]
    · rcases hf.covered c' hc' with hq | ha | ht
      · exact Or.inl hq
      · exact Or.inr (Or.inl (List.mem_filter.mpr ⟨ha, by simpa using hcc⟩))
      · refine Or.inr (Or.inr ?_)
        rw [Tally.get_insert, if_neg hcc]
        exact ht

/-- With every answer in, the tally's total is the other campuses' total modulo `2 ^ 32`. -/
theorem FanOut.total_toNat (hf : FanOut S own [] [] T) : T.total.toNat = S.peerTotal own % 2 ^ 32 := by
  have hget : ∀ c, ((T.get c).getD 0).toNat = if c = own then 0 else (S.peerCount c).toNat := by
    intro c
    by_cases hc : c = own
    · rw [if_pos hc, hc, hf.own_none]
      rfl
    · rcases hf.covered c hc with hq | ha | ht
      · cases hq
      · cases ha
      · rw [if_neg hc, ht]
        rfl
  rw [Tally.total_toNat, Setting.peerTotal]
  simp only [hget]
  cases own <;> simp [Campus.all, Campus.peers]

/-! ## What a race keeps -/

variable (S) in
/-- What a race at `own` keeps, from a week of `L` bookings, with the other campuses' total
`P`: the store stays the campus's, the week holds `L` more than the successes, once a booking
succeeded the week with `P` added is within the quota, and every booking that asks the other
campuses is a `FanOut`. -/
structure Safe (own : Campus) (L P : Nat) (σ : State) : Prop where
  campus : σ.store.campus = own
  count : σ.store.ledger.weekTotal S.student S.date = L + successes S σ
  within : successes S σ = 0 ∨ L + successes S σ + P ≤ S.quota.toNat
  fanOut : ∀ i qs as T, σ.phase i = .asking qs as T → FanOut S own qs as T

variable {L P : Nat} {σ : State} {i : Nat} {p : Phase}

theorem safe_start (s : Store) (P : Nat) :
    Safe S s.campus (s.ledger.weekTotal S.student S.date) P (State.start s) where
  campus := rfl
  count := by simp [successes, State.start, Phase.isBooked]
  within := Or.inl (by simp [successes, State.start, Phase.isBooked])
  fanOut _ _ _ _ h := by cases h

/-- Moving a booking on to a phase other than `booked`, a `FanOut` if it asks, keeps a race
safe. -/
theorem Safe.setPhase (hs : Safe S own L P σ) (hold : (σ.phase i).isBooked = false)
    (hp : p.isBooked = false) (hf : ∀ qs as T, p = .asking qs as T → FanOut S own qs as T) :
    Safe S own L P (σ.setPhase i p) := by
  have hsucc : successes S (σ.setPhase i p) = successes S σ := by
    rw [successes_setPhase hold, hp]
    simp
  refine ⟨hs.campus, ?_, ?_, ?_⟩
  · rw [hsucc, State.setPhase_store]
    exact hs.count
  · rw [hsucc]
    exact hs.within
  · intro j qs as T hj
    by_cases hji : j = i
    · subst hji
      rw [State.setPhase_phase, Function.update_self] at hj
      exact hf qs as T hj
    · rw [State.setPhase_phase, Function.update_of_ne hji] at hj
      exact hs.fanOut j qs as T hj

/-- A commit that books keeps a race safe: the commit read the week again, found it with the
other campuses' total below the quota, and added one to it. -/
theorem Safe.commit_booked (hs : Safe S own L P σ) (hfit : P + L < 2 ^ 32) (hP : S.peerTotal own = P)
    (hweek : S.date.weekStart? ≠ none) {room : UInt16} {slot : Timeslot} {T : Tally} {s : Store}
    {b : BookingId} (hi : S.attempts[i]? = some (room, slot)) (hphase : σ.phase i = .asking [] [] T)
    (hc : σ.store.commit S.student room S.date slot T.total S.quota (S.ids i) = .ok (.ok (s, b))) :
    Safe S own L P { σ.setPhase i .booked with store := s } := by
  obtain ⟨first, hfirst⟩ := Option.ne_none_iff_exists'.mp hweek
  have hsucc : successes S { σ.setPhase i .booked with store := s } = successes S σ + 1 := by
    have hold : (σ.phase i).isBooked = false := by rw [hphase]; rfl
    have hlen : i < S.attempts.length := (List.getElem?_eq_some_iff.mp hi).1
    show successes S (σ.setPhase i .booked) = _
    rw [successes_setPhase hold, if_pos ⟨hlen, rfl⟩]
  -- every answer is in, and the week with the other campuses' total fits in 32 bits, so the
  -- commit compared the exact sum with the quota
  have htotal : T.total.toNat = P := by
    rw [(hs.fanOut i [] [] T hphase).total_toNat, hP]
    omega
  have hsum : P + σ.store.ledger.weekTotal S.student S.date < 2 ^ 32 := by
    have := hs.count
    have := UInt32.toNat_lt S.quota
    rcases hs.within with h0 | hle <;> omega
  have hbelow := Store.commit_ok_below hc (by rw [htotal]; exact hsum)
  rw [htotal] at hbelow
  -- the day's count is part of that week, so it has room for the booking in its word
  have hroom : σ.store.ledger.count S.student S.date + 1 < 2 ^ 32 := by
    obtain ⟨-, -, -, -, ⟨held, hheld, -⟩, -⟩ := Store.commit_eq_ok hc
    have hday := Ledger.count_le_weekTotal hheld
    have hword := UInt32.toNat_lt S.quota
    omega
  have hweekTotal : s.ledger.weekTotal S.student S.date = σ.store.ledger.weekTotal S.student S.date + 1 := by
    rw [Store.commit_ledger hc, Ledger.weekTotal_increment_self _ _ hfirst hroom]
  refine ⟨(Store.commit_campus hc).trans hs.campus, ?_, ?_, ?_⟩
  · rw [hsucc, hweekTotal, hs.count]
    omega
  · have := hs.count
    right
    rw [hsucc]
    omega
  · intro j qs as T' hj
    by_cases hji : j = i
    · subst hji
      simp at hj
    · simp only [State.setPhase_phase, Function.update_of_ne hji] at hj
      exact hs.fanOut j qs as T' hj

/-- Every event keeps a race safe, as long as the week and the other campuses' total fit in
32 bits at the start and the week ends at least six days into the calendar. -/
theorem Safe.step (hs : Safe S own L P σ) (hfit : P + L < 2 ^ 32) (hP : S.peerTotal own = P)
    (hweek : S.date.weekStart? ≠ none) (e : Event) : Safe S own L P (step S σ e) := by
  cases e with
  | check i =>
    simp only [Race.step]
    split
    · -- the check moves the booking on to its questions, or refuses it
      rename_i hphase
      refine hs.setPhase (by rw [hphase]; rfl) (by split <;> rfl) ?_
      intro qs as T hp
      split at hp
      · cases hp
        rw [hs.campus]
        exact fanOut_start own
      · cases hp
    · exact hs
  | answer i c =>
    simp only [Race.step]
    split
    · rename_i qs as T hphase
      split
      · rename_i hc
        refine hs.setPhase (by rw [hphase]; rfl) rfl ?_
        intro qs' as' T' hp
        cases hp
        exact (hs.fanOut i qs as T hphase).answer hc
      · exact hs
    · exact hs
  | receive i c =>
    simp only [Race.step]
    split
    · rename_i qs as T hphase
      split
      · rename_i x hx
        refine hs.setPhase (by rw [hphase]; rfl) rfl ?_
        intro qs' as' T' hp
        cases hp
        exact (hs.fanOut i qs as T hphase).receive hx
      · exact hs
    · exact hs
  | commit i =>
    simp only [Race.step]
    split
    · rename_i room slot T hi hphase
      split
      · rename_i s b hc
        exact hs.commit_booked hfit hP hweek hi hphase hc
      · exact hs.setPhase (by rw [hphase]; rfl) rfl (fun _ _ _ hp => by cases hp)
    · exact hs

/-- A whole run keeps a race safe. -/
theorem Safe.run (hs : Safe S own L P σ) (hfit : P + L < 2 ^ 32) (hP : S.peerTotal own = P)
    (hweek : S.date.weekStart? ≠ none) (es : List Event) : Safe S own L P (run S σ es) := by
  induction es generalizing σ with
  | nil => exact hs
  | cons e es ih => exact ih (hs.step hfit hP hweek e)

/-! ## Racing bookings -/

/-- Any number of bookings of one student for one date at one campus, racing in any
interleaving of their checks, questions, answers and commits, with the other campuses'
counts staying as they are.  From a week of `L` bookings, with the other campuses' total
`P`, the week holds `L` more than the bookings that succeeded, at most `q - P - L` of them
succeed, and the week never holds more than the greater of `L` and `q - P`.  This holds
while `P + L` fits in 32 bits, for a week that ends at least six days into the calendar. -/
theorem racing_bookings_within_quota (S : Setting) (s : Store) (es : List Event)
    (hfit : S.peerTotal s.campus + s.ledger.weekTotal S.student S.date < 2 ^ 32)
    (hweek : S.date.weekStart? ≠ none) :
    (run S (.start s) es).store.ledger.weekTotal S.student S.date =
        s.ledger.weekTotal S.student S.date + successes S (run S (.start s) es) ∧
      successes S (run S (.start s) es) ≤
        S.quota.toNat - S.peerTotal s.campus - s.ledger.weekTotal S.student S.date ∧
      (run S (.start s) es).store.ledger.weekTotal S.student S.date ≤
        max (s.ledger.weekTotal S.student S.date) (S.quota.toNat - S.peerTotal s.campus) := by
  have hs := (safe_start (S := S) s (S.peerTotal s.campus)).run hfit rfl hweek es
  have hcount := hs.count
  refine ⟨hcount, ?_, ?_⟩
  · rcases hs.within with h0 | hle
    · rw [h0]
      exact Nat.zero_le _
    · omega
  · rcases hs.within with h0 | hle
    · rw [hcount, h0]
      omega
    · omega

/-- Room 101 of WST, opened on 2021-03-01 with 11:00-11:30, 11:30-12:00 and 12:00-12:30. -/
def marchStore : Store :=
  ((Store.empty .wst).createRoom 101 ⟨18687, by decide, by decide⟩
    [⟨660, 690, by decide, by decide⟩, ⟨690, 720, by decide, by decide⟩, ⟨720, 750, by decide, by decide⟩]).1

/-- `wsts0007` books the three slots of `marchStore`, with quota 3, while DVL holds one
booking of the week and KKL none. -/
def marchRace : Setting where
  student := ⟨.wst, .student, ⟨7, by decide⟩⟩
  date := ⟨18687, by decide, by decide⟩
  quota := 3
  attempts := [(101, ⟨660, 690, by decide, by decide⟩), (101, ⟨690, 720, by decide, by decide⟩),
    (101, ⟨720, 750, by decide, by decide⟩)]
  peerCount c := if c = .dvl then 1 else 0
  ids := Uuid.serial

/-- The three bookings check first, their questions are answered and their answers arrive
out of order, and they commit last to first. -/
def marchEvents : List Event :=
  [.check 0, .check 1, .check 2,
    .answer 0 .kkl, .answer 1 .dvl, .answer 2 .kkl, .answer 0 .dvl, .answer 1 .kkl, .answer 2 .dvl,
    .receive 1 .kkl, .receive 0 .dvl, .receive 2 .kkl, .receive 0 .kkl, .receive 2 .dvl, .receive 1 .dvl,
    .commit 2, .commit 0, .commit 1]

/-- In `marchEvents` two of the three bookings succeed, as many as the quota leaves. -/
theorem march_race_books_two :
    marchRace.peerTotal marchStore.campus + marchStore.ledger.weekTotal marchRace.student marchRace.date <
        2 ^ 32 ∧ marchRace.date.weekStart? ≠ none ∧
      successes marchRace (run marchRace (.start marchStore) marchEvents) = 2 ∧
      ((run marchRace (.start marchStore) marchEvents).store.ledger.weekTotal marchRace.student marchRace.date =
          marchStore.ledger.weekTotal marchRace.student marchRace.date +
            successes marchRace (run marchRace (.start marchStore) marchEvents) ∧
        successes marchRace (run marchRace (.start marchStore) marchEvents) ≤
          marchRace.quota.toNat - marchRace.peerTotal marchStore.campus -
            marchStore.ledger.weekTotal marchRace.student marchRace.date ∧
        (run marchRace (.start marchStore) marchEvents).store.ledger.weekTotal marchRace.student marchRace.date ≤
          max (marchStore.ledger.weekTotal marchRace.student marchRace.date)
            (marchRace.quota.toNat - marchRace.peerTotal marchStore.campus)) :=
  ⟨by decide, by decide, by decide, racing_bookings_within_quota _ _ _ (by decide) (by decide)⟩

/-- The week can hold more than `q - P` before a race starts.  In the cluster where, with
quota 1, `dvls1234` booked 2021-01-10 and then 2021-01-09, KKL and WST hold none of the
student's week that ends on 2021-01-10, so `P = 0`, yet DVL's week holds two bookings, more
than `q - P = 1`, and a race of one more booking that day leaves it so. -/
theorem window_over_quota_before_race :
    Cluster.Served 1 1000 Cluster.bookedLaterDayFirst ∧
      (Cluster.bookedLaterDayFirst.stores .kkl).ledger.weekTotal ⟨.dvl, .student, 1234⟩
        ⟨18637, by decide, by decide⟩ = 0 ∧
      (Cluster.bookedLaterDayFirst.stores .wst).ledger.weekTotal ⟨.dvl, .student, 1234⟩
        ⟨18637, by decide, by decide⟩ = 0 ∧
      (1 : UInt32).toNat - Setting.peerTotal ⟨⟨.dvl, .student, 1234⟩, ⟨18637, by decide, by decide⟩, 1,
          [(201, ⟨570, 600, by decide, by decide⟩)], fun _ => 0, Uuid.serial⟩ .dvl <
        (run ⟨⟨.dvl, .student, 1234⟩, ⟨18637, by decide, by decide⟩, 1, [(201, ⟨570, 600, by decide, by decide⟩)],
            fun _ => 0, Uuid.serial⟩ (.start (Cluster.bookedLaterDayFirst.stores .dvl)) [.check 0, .commit 0]).store.ledger.weekTotal
          ⟨.dvl, .student, 1234⟩ ⟨18637, by decide, by decide⟩ :=
  ⟨Cluster.served_bookedLaterDayFirst, by decide +kernel, by decide +kernel, by decide +kernel⟩

end Race

end CampusBooking
