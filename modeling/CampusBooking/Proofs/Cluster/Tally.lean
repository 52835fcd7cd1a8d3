import CampusBooking.Proofs.Cluster.Handlers

/-!
# What the other campuses answer

Before a booking commits, its node asks every other campus for the student's week and adds
up the answers in a `Tally`.  On a link that delivers every call (`Delivers`: no rule
makes a call fail, and every campus runs), and with room for the calls to nest one level
deeper, every other campus answers with its own store's week (`askPeers_bookingCount`),
and the tally's 32-bit total, with the node's own week added, is the sum of the weeks of
all campuses as long as that sum fits in 32 bits (`Tally.total_add_toNat`).
-/

namespace CampusBooking

namespace Cluster

/-- A link that delivers every call: no rule makes a call fail, and every campus runs. -/
def Delivers (w : Cluster) : Prop := w.rules = [] ∧ ∀ c, c ∈ w.up

end Cluster

namespace Node

open Cluster

variable {w w' : Cluster} {m : Nat} {own c : Campus} {u : UserId} {d : Date} {wait : Nat}

/-- A campus asked by another node for a student's week answers with its store's week. -/
theorem handle_bookingCount {r : Response}
    (h : runOn (handle (m + 1) c .interNode (.bookingCount u d)) w = (.ok r, w')) :
    w' = w ∧ ∃ n, (w.stores c).weeklyCount u d = .ok n ∧ r.success = true ∧ r.count = some n := by
  obtain ⟨r₀, hd, rfl⟩ := handle_succ_spec h
  simp only [dispatch] at hd
  unfold bookingCount at hd
  simp only [runOn_bind, runOn_storeOf, runOn_orHalt] at hd
  rcases hweek : (w.stores c).weeklyCount u d with e | n <;> rw [hweek] at hd <;> dsimp only at hd
  · cases hd
  · simp only [runOn_pure, Prod.mk.injEq, Except.ok.injEq] at hd
    obtain ⟨rfl, rfl⟩ := hd
    exact ⟨rfl, n, rfl, rfl, rfl⟩

/-- On a link that delivers every call, a campus asked for a student's week answers with
its store's week. -/
theorem deliver_bookingCount (hd : w.Delivers) {x : Except NetFault Response}
    (h : runOn (deliver (handle (m + 1)) own c (.bookingCount u d) wait) w = (.ok x, w')) :
    w' = w ∧ ∃ r n, x = .ok r ∧ (w.stores c).weeklyCount u d = .ok n ∧ r.success = true ∧
      r.count = some n := by
  unfold deliver at h
  simp only [runOn_bind, runOn_get, hd.1, LinkRule.failureOf, List.find?_nil, Option.map_none,
    hd.2 c, if_true] at h
  rcases hh : runOn (handle (m + 1) c .interNode (.bookingCount u d)) w with ⟨_ | r, w₁⟩ <;>
    rw [hh] at h <;> dsimp only at h
  · cases h
  · simp only [runOn_pure, Prod.mk.injEq, Except.ok.injEq] at h
    obtain ⟨rfl, rfl⟩ := h
    obtain ⟨rfl, n, hn, hs, hc⟩ := handle_bookingCount hh
    exact ⟨rfl, r, n, rfl, hn, hs, hc⟩

theorem askOne_bookingCount (hd : w.Delivers) {T T' : Tally}
    (h : runOn (askOne (deliver (handle (m + 1)) own) (.bookingCount u d) wait T c) w = (.ok T', w')) :
    w' = w ∧ ∃ n, (w.stores c).weeklyCount u d = .ok n ∧ T' = T.insert c (some n) := by
  unfold askOne at h
  obtain ⟨x, w₁, hx, hrest⟩ := runOn_bind_eq_ok h
  obtain ⟨rfl, r, n, rfl, hn, hs, hc⟩ := deliver_bookingCount hd hx
  simp only [hs, hc, if_true, runOn_pure, Prod.mk.injEq, Except.ok.injEq] at hrest
  obtain ⟨rfl, rfl⟩ := hrest
  exact ⟨rfl, n, hn, rfl⟩

/-- Asking the campuses of a list, one after another: each of them answered with its
week, and the answers of the others are as they were. -/
theorem foldlM_askOne (hd : w.Delivers) :
    ∀ (L : List Campus) (T : Tally) {T' : Tally} {w' : Cluster},
      runOn (L.foldlM (askOne (deliver (handle (m + 1)) own) (.bookingCount u d) wait) T) w = (.ok T', w') →
      w' = w ∧ (∀ c ∈ L, ∃ n, (w.stores c).weeklyCount u d = .ok n ∧ T'.get c = some n) ∧
        ∀ c, c ∉ L → T'.answer c = T.answer c := by
  intro L
  induction L with
  | nil =>
    intro T T' w' h
    simp only [List.foldlM_nil, runOn_pure, Prod.mk.injEq, Except.ok.injEq] at h
    obtain ⟨rfl, rfl⟩ := h
    exact ⟨rfl, fun c hc => (List.not_mem_nil hc).elim, fun _ _ => rfl⟩
  | cons c L ih =>
    intro T T' w' h
    rw [List.foldlM_cons] at h
    obtain ⟨T₁, w₁, h₁, hrest⟩ := runOn_bind_eq_ok h
    obtain ⟨rfl, n, hn, rfl⟩ := askOne_bookingCount hd h₁
    obtain ⟨rfl, hin, hout⟩ := ih _ hrest
    refine ⟨rfl, fun c' hc' => ?_, fun c' hc' => ?_⟩
    · by_cases hcL : c' ∈ L
      · exact hin c' hcL
      · -- `c` itself: answered first and not asked again
        have hc : c' = c := by simpa [hcL] using hc'
        subst hc
        refine ⟨n, hn, ?_⟩
        rw [Tally.get, hout c' hcL]
        simp [Tally.insert]
    · have hne : c' ≠ c := fun he => hc' (he ▸ List.mem_cons_self)
      rw [hout c' (fun h => hc' (List.mem_cons_of_mem _ h))]
      simp [Tally.insert, hne]

/-- On a link that delivers every call, asking the other campuses for a student's week
gives each other campus's week, and nothing for the node's own. -/
theorem askPeers_bookingCount (hd : w.Delivers) {T : Tally}
    (h : runOn (askPeers (deliver (handle (m + 1)) own) own (.bookingCount u d)) w = (.ok T, w')) :
    w' = w ∧ T.get own = none ∧
      ∀ c, c ≠ own → ∃ n, (w.stores c).weeklyCount u d = .ok n ∧ T.get c = some n := by
  unfold askPeers at h
  simp only [runOn_bind, runOn_get] at h
  obtain ⟨rfl, hin, hout⟩ := foldlM_askOne hd own.peers Tally.empty h
  refine ⟨rfl, ?_, fun c hc => hin c (Campus.mem_peers.mpr hc)⟩
  rw [Tally.get, hout own (fun h => Campus.mem_peers.mp h rfl)]
  rfl

end Node

namespace Tally

/-- The total of a tally is the sum of the counts that came, modulo `2 ^ 32`. -/
theorem total_toNat (T : Tally) :
    T.total.toNat = (Campus.all.map fun c => ((T.get c).getD 0).toNat).sum % 2 ^ 32 := by
  simp only [total, Campus.all, List.foldl_cons, List.foldl_nil, List.map_cons, List.map_nil,
    List.sum_cons, List.sum_nil, UInt32.toNat_add, UInt32.toNat_zero]
  omega

/-- When every campus but `own` answered with the 32-bit word of its count `N c` and `own`
was not asked, the total with the word of `N own` added is the sum of all counts modulo
`2 ^ 32`. -/
theorem total_add_toNat_mod {T : Tally} {own : Campus} {N : Campus → Nat} (hown : T.get own = none)
    (hpeer : ∀ c, c ≠ own → T.get c = some (N c).toUInt32) :
    (T.total + (N own).toUInt32).toNat = (N .dvl + N .kkl + N .wst) % 2 ^ 32 := by
  have hget : ∀ c, ((T.get c).getD 0).toNat = if c = own then 0 else N c % 2 ^ 32 := by
    intro c
    by_cases hc : c = own
    · rw [if_pos hc, hc, hown]
      rfl
    · rw [if_neg hc, hpeer c hc]
      simp [Nat.toUInt32]
  rw [UInt32.toNat_add, total_toNat]
  simp only [Campus.all, List.map_cons, List.map_nil, List.sum_cons, List.sum_nil, hget]
  cases own <;> simp [Nat.toUInt32] <;> omega

/-- When every campus but `own` answered with the 32-bit word of its count `N c` and `own`
was not asked, the total with the word of `N own` added is the sum of all counts, as long
as that sum fits in 32 bits. -/
theorem total_add_toNat {T : Tally} {own : Campus} {N : Campus → Nat} (hown : T.get own = none)
    (hpeer : ∀ c, c ≠ own → T.get c = some (N c).toUInt32) (hfit : N .dvl + N .kkl + N .wst < 2 ^ 32) :
    (T.total + (N own).toUInt32).toNat = N .dvl + N .kkl + N .wst := by
  rw [total_add_toNat_mod hown hpeer, Nat.mod_eq_of_lt hfit]

end Tally

end CampusBooking
