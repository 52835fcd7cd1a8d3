import CampusBooking.Proofs.Cluster.Handlers

/-!
# The free slots of every campus, whatever the link does

A client asks a node for the free slots of a date everywhere.  The node counts its own, asks
each other campus over the link, and shows the answers as a tally.  Whatever the cluster and
its rules, the answer is a success and leaves the cluster as it was; it lists the three
campuses in campus order, whichever node was asked and in whatever order the answers came.

* `replyCount`: what a reply puts in the tally: a count only from a reply with success and a
  count, never a zero for a call that failed or was refused.
* `freeAnswer`: what the reply of a campus is, read off the cluster: its count when no rule
  makes the call fail and its node runs (`deliver_availableHere`).
* Main statement: `free_slots_message_in_campus_order`.
-/

namespace CampusBooking

namespace Tally

/-- A tally in which every campus was asked is shown campus by campus, in campus order. -/
theorem text_of_answer {T : Tally} {e : Campus → Option UInt32} (h : ∀ c, T.answer c = some (e c)) :
    T.text = " ".intercalate [part .dvl (e .dvl), part .kkl (e .kkl), part .wst (e .wst)] := by
  simp [text, Campus.all, h]

end Tally

namespace Node

open Cluster

/-! ## Tallies, and the answer of one campus -/

theorem handle_succ_availableHere (n : Nat) (c : Campus) (d : Date) :
    handle (n + 1) c .interNode (.availableHere d) = handle 1 c .interNode (.availableHere d) := rfl

theorem tally_eq_of_answer {T₁ T₂ : Tally} (h : ∀ c, T₁.answer c = T₂.answer c) : T₁ = T₂ := by
  cases T₁
  cases T₂
  congr
  funext c
  exact h c

theorem answer_insert (T : Tally) (c d : Campus) (x : Option UInt32) :
    (T.insert c x).answer d = if d = c then some x else T.answer d := rfl

theorem answer_foldl_insert (f : Campus → Option UInt32) :
    ∀ (L : List Campus) (T : Tally) (c : Campus),
      (L.foldl (fun T c => T.insert c (f c)) T).answer c = if c ∈ L then some (f c) else T.answer c
  | [], T, c => by simp
  | c' :: L, T, c => by
    rw [List.foldl_cons, answer_foldl_insert f L]
    by_cases hL : c ∈ L
    · simp [hL]
    · by_cases hc : c = c'
      · subst hc
        simp [hL, Tally.insert]
      · simp [hL, hc, Tally.insert]

/-- The count a reply puts in a tally: the count of a reply with success, and nothing for a
call that failed, a refusal or a reply without a count. -/
def replyCount : Except NetFault Response → Option UInt32
  | .ok r => if r.success then r.count else none
  | .error _ => none

/-- What campus `c` answers a node of `src` that asks for its free slots on `d`: its count,
when no rule makes the call fail and its node runs; nothing otherwise. -/
def freeAnswer (w : Cluster) (src c : Campus) (d : Date) : Option UInt32 :=
  if LinkRule.failureOf w.rules src c .getAvailableTimeslots = none ∧ c ∈ w.up then
    some ((w.stores c).availableCount d).toUInt32
  else none

variable {w : Cluster} {m : Nat} {src : Campus} {d : Date} {wait : Nat}

/-- A campus asked by another node for its free slots answers with its count, and changes
nothing. -/
theorem handle_availableHere (c : Campus) :
    ∃ r, runOn (handle (m + 1) c .interNode (.availableHere d)) w = (.ok r, w) ∧ r.success = true ∧
      r.count = some ((w.stores c).availableCount d).toUInt32 := by
  rw [handle_succ_availableHere]
  exact ⟨_, rfl, rfl, rfl⟩

/-- A call from `src` asking campus `c` for its free slots returns, changes nothing, and its
reply carries the count of `c` exactly when no rule makes the call fail and the node of `c`
runs. -/
theorem deliver_availableHere (w : Cluster) (m : Nat) (src c : Campus) (d : Date) (wait : Nat) :
    ∃ x, runOn (deliver (handle (m + 1)) src c (.availableHere d) wait) w = (.ok x, w) ∧
      replyCount x = freeAnswer w src c d := by
  unfold deliver freeAnswer
  simp only [runOn_bind, runOn_get, Request.action]
  rcases hf : LinkRule.failureOf w.rules src c .getAvailableTimeslots with _ | _ | _ | _
  · -- no rule applies: the campus answers if its node runs
    by_cases hup : c ∈ w.up
    · obtain ⟨r, hr, hs, hc⟩ := handle_availableHere (m := m) (w := w) (d := d) c
      simp only [hup, if_true, runOn_bind, hr, runOn_pure]
      exact ⟨_, rfl, by simp [replyCount, hs, hc]⟩
    · simp only [hup, if_false, runOn_pure]
      exact ⟨_, rfl, by simp [replyCount]⟩
  all_goals exact ⟨_, rfl, by simp [replyCount, Response.fail]⟩

theorem askOne_freeAnswer (T : Tally) (c : Campus) :
    runOn (askOne (deliver (handle (m + 1)) src) (.availableHere d) wait T c) w =
      (.ok (T.insert c (freeAnswer w src c d)), w) := by
  obtain ⟨x, hx, hcount⟩ := deliver_availableHere w m src c d wait
  unfold askOne
  rw [runOn_bind, hx, ← hcount]
  rcases x with _ | r <;> rfl

theorem foldlM_askOne_freeAnswer :
    ∀ (L : List Campus) (T : Tally),
      runOn (L.foldlM (askOne (deliver (handle (m + 1)) src) (.availableHere d) wait) T) w =
        (.ok (L.foldl (fun T c => T.insert c (freeAnswer w src c d)) T), w)
  | [], T => rfl
  | c :: L, T => by
    rw [List.foldlM_cons, runOn_bind, askOne_freeAnswer, List.foldl_cons]
    exact foldlM_askOne_freeAnswer L _

/-! ## The free slots of every campus -/

/-- The entry of campus `c` in the tally of free slots on `d` that a node of `src` gathers:
the node's own count, and what each other campus answered. -/
def freeEntry (w : Cluster) (src : Campus) (d : Date) (c : Campus) : Option UInt32 :=
  if c = src then some ((w.stores src).availableCount d).toUInt32 else freeAnswer w src c d

/-- The tally of free slots that a node gathers, with every campus asked. -/
def freeTally (w : Cluster) (src : Campus) (d : Date) : Tally :=
  ⟨fun c => some (freeEntry w src d c)⟩

/-- The free slots everywhere are the node's own count and the answers of the others, and
asking for them changes nothing. -/
theorem availableEverywhere_freeTally :
    runOn (availableEverywhere (deliver (handle (m + 1)) src) src d) w =
      (.ok (ok .getAvailableTimeSlot (freeTally w src d).text), w) := by
  unfold availableEverywhere askPeers
  simp only [runOn_bind, runOn_storeOf, runOn_get, foldlM_askOne_freeAnswer, runOn_pure]
  congr 3
  congr 1
  refine tally_eq_of_answer fun c => ?_
  rw [answer_insert]
  by_cases hc : c = src
  · rw [if_pos hc, hc]
    simp [freeTally, freeEntry]
  · rw [if_neg hc, answer_foldl_insert, if_pos (Campus.mem_peers.mpr hc)]
    simp [freeTally, freeEntry, hc]

/-- Asked by a client for the free slots of a date everywhere, a node answers with a success
and changes nothing, whatever the cluster and its rules.  The answer lists the three campuses
in campus order: the node's own count, and for each other campus the count of its reply over
the link when the reply is a success with a count, and no response otherwise; that reply is
the campus's count exactly when no rule makes the call fail and its node runs. -/
theorem free_slots_message_in_campus_order (m : Nat) (X : Campus) (d : Date) (w : Cluster) :
    ∃ (r : Response) (e : Campus → Option UInt32),
      runOn (handle (m + 2) X .client (.availableEverywhere d)) w = (.ok r, w) ∧ r.success = true ∧
      r.message = " ".intercalate
        [Tally.part .dvl (e .dvl), Tally.part .kkl (e .kkl), Tally.part .wst (e .wst)] ∧
      e X = some ((w.stores X).availableCount d).toUInt32 ∧
      ∀ c, c ≠ X →
        (∃ x, runOn (deliver (handle (m + 1)) X c (.availableHere d) w.peerTimeout) w = (.ok x, w) ∧
          e c = replyCount x) ∧
        e c = freeAnswer w X c d := by
  refine ⟨echo (.availableEverywhere d) (ok .getAvailableTimeSlot (freeTally w X d).text),
    freeEntry w X d, ?_, rfl, ?_, if_pos rfl, fun c hc => ⟨?_, if_neg hc⟩⟩
  · rw [handle_succ, runOn_map]
    simp only [dispatch, availableEverywhere_freeTally]
  · dsimp only [echo, ok, Response.ok]
    exact Tally.text_of_answer fun _ => rfl
  · obtain ⟨x, hx, hcount⟩ := deliver_availableHere w m X c d w.peerTimeout
    exact ⟨x, hx, by rw [freeEntry, if_neg hc, hcount]⟩

end Node
end CampusBooking
