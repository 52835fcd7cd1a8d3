import CampusBooking.Proofs.Cluster.Routing

/-!
# How deep calls nest, and how many a request makes

A node reaches the other campuses only through its link.  `Calls cost n p` says that a step
`p`, given any link, calls it only where `cost` allows and that on every path the costs of its
calls add up to at most `n`; whatever the link answers, whichever rules make calls fail.  Such
a step reads the link only through the calls it is allowed to make (`Calls.link_congr`).

* Another node's request never hands anything on: only a booking at the node's own campus
  asks the other campuses, once each, for the student's week (`calls_dispatch_interNode`).
* A campus asked for a week answers it itself, so another node's request is answered alike at
  every depth of two or more (`handle_interNode_depth`), and every request at every depth of
  three or more (`handle_depth`): calls nest at most two deep below a client's request.
* A client's request makes at most three steps that hand a request on or ask the others:
  cancel, book, and book the old slot again (`calls_dispatch_client`).
* Main statement: `calls_nest_at_most_two_deep`.
-/

namespace CampusBooking
namespace Node

open Cluster

/-- `Calls cost n p`: given any link, the step `p` calls it only where `cost` allows, and on
every path the costs of its calls add up to at most `n`. -/
inductive Calls (cost : Campus → Request → Option Nat) :
    {α : Type} → Nat → (Link → ClusterM α) → Prop
  /-- A step that does not use the link. -/
  | none {α : Type} {n : Nat} (m : ClusterM α) : Calls cost n fun _ => m
  /-- One call over the link. -/
  | call {n k : Nat} (c : Campus) (req : Request) (wait : Nat) (h : cost c req = some k) (hk : k ≤ n) :
      Calls cost n fun link => link c req wait
  /-- A step, then a continuation that may read its result. -/
  | bind {α β : Type} {m k n : Nat} {p : Link → ClusterM α} {q : α → Link → ClusterM β}
      (hp : Calls cost m p) (hq : ∀ a, Calls cost k (q a)) (hle : m + k ≤ n) :
      Calls cost n fun link => p link >>= fun a => q a link

namespace Calls

variable {cost : Campus → Request → Option Nat} {α β : Type}

theorem mono {m n : Nat} {p : Link → ClusterM α} (h : Calls cost m p) (hmn : m ≤ n) :
    Calls cost n p := by
  induction h with
  | none m => exact .none m
  | call c req wait hc hk => exact .call c req wait hc (le_trans hk hmn)
  | bind hp hq hle => exact .bind hp hq (le_trans hle hmn)

theorem ite {n : Nat} {c : Prop} [Decidable c] {p q : Link → ClusterM α} (hp : c → Calls cost n p)
    (hq : ¬c → Calls cost n q) : Calls cost n fun link => if c then p link else q link := by
  by_cases h : c
  · simpa only [if_pos h] using hp h
  · simpa only [if_neg h] using hq h

/-- Calls made only where `cost` allows: a link is read only through such calls. -/
theorem link_congr {n : Nat} {p : Link → ClusterM α} (h : Calls cost n p) {l₁ l₂ : Link}
    (hl : ∀ c req wait, (cost c req).isSome → l₁ c req wait = l₂ c req wait) :
    p l₁ = p l₂ := by
  induction h with
  | none m => rfl
  | call c req wait hc _ => exact hl c req wait (by simp [hc])
  | bind _ _ _ ihp ihq =>
    simp only [ihp]
    congr 1
    funext a
    exact ihq a

/-- A fold whose every step costs at most `k` costs at most `k` per member. -/
theorem foldlM {γ : Type} {k : Nat} {f : Link → β → γ → ClusterM β} :
    ∀ (l : List γ), (∀ b, ∀ x ∈ l, Calls cost k fun link => f link b x) →
      ∀ init, Calls cost (l.length * k) fun link => l.foldlM (f link) init
  | [], _, init => .none _
  | x :: l, hf, init => by
    simp only [List.foldlM_cons]
    refine .bind (hf init x List.mem_cons_self) (fun b => foldlM l (fun b y hy => hf b y ?_) b) ?_
    · exact List.mem_cons_of_mem x hy
    · rw [List.length_cons, Nat.succ_mul, Nat.add_comm]

/-- A step that does not use the link, then a continuation that may. -/
theorem pure_bind {n : Nat} (m : ClusterM α) {q : α → Link → ClusterM β}
    (hq : ∀ a, Calls cost n (q a)) :
    Calls cost n fun link => m >>= fun a => q a link :=
  .bind (.none (n := 0) m) hq (by omega)

/-- A step, then a continuation that does not use the link. -/
theorem bind_pure {n : Nat} {p : Link → ClusterM α} (hp : Calls cost n p) (f : α → ClusterM β) :
    Calls cost n fun link => p link >>= f :=
  .bind (k := 0) hp (fun a => .none (f a)) (by omega)

end Calls

/-! ## Asking the other campuses, and handing a request on -/

section Steps

variable {cost : Campus → Request → Option Nat} {own : Campus} {k : Nat}

/-- Asking the other campuses calls each of them once. -/
theorem calls_askPeers {req : Request} (h : ∀ c, c ≠ own → cost c req = some k) :
    Calls cost (2 * k) fun link => askPeers link own req := by
  unfold askPeers askOne
  refine .pure_bind get fun w => ?_
  have hlen : own.peers.length = 2 := by cases own <;> rfl
  rw [← hlen]
  refine Calls.foldlM own.peers (fun T c hc => ?_) Tally.empty
  exact .bind_pure (.call c req w.peerTimeout (h c (Campus.mem_peers.mp hc)) le_rfl) _

/-- A booking at the node's own campus asks each other campus once for the student's week. -/
theorem calls_bookHere {u : UserId} {room : UInt16} {date : Date} {slot : Timeslot}
    (h : ∀ c, c ≠ own → cost c (.bookingCount u date) = some k) :
    Calls cost (2 * k) fun link => bookHere link own u room date slot := by
  unfold bookHere
  refine .pure_bind _ fun s => ?_
  rcases s.checkBookable room date slot with f | ⟨⟩
  · exact .none _
  · exact .bind_pure (calls_askPeers h) _

/-- A node hands a request on with one call, and only for a client. -/
theorem calls_forward {target : Campus} {ch : Channel} {req : Request}
    (h : ch = .client → cost target req = some k) :
    Calls cost k fun link => forward link own ch target req := by
  unfold forward
  refine .ite (fun _ => .none _) (fun hch => ?_)
  have hc : ch = .client := by cases ch <;> simp_all
  exact .pure_bind get fun w => .bind_pure (.call target req _ (h hc) le_rfl) _

end Steps

/-! ## Another node's request -/

/-- Asking only the other campuses, with one request `q`, at cost one each. -/
def asking (own : Campus) (q : Request) (c : Campus) (r : Request) : Option Nat :=
  if c ≠ own ∧ r = q then some 1 else none

/-- No call at all. -/
def noCalls (_ : Campus) (_ : Request) : Option Nat := none

/-- The calls a node may make for another node's request: a booking at its own campus asks
each other campus for the student's week; nothing else calls. -/
def interNodeCalls (own : Campus) : Request → Campus → Request → Option Nat
  | .bookRoom u t => if t.campus = own then asking own (.bookingCount u t.date) else noCalls
  | _ => noCalls

/-- Another node's request never hands anything on: only a booking at the node's own campus
calls, and it asks each other campus once for the student's week. -/
theorem calls_dispatch_interNode (own : Campus) (req : Request) :
    Calls (interNodeCalls own req) 2 fun link => dispatch link own .interNode req := by
  cases req with
  | bookRoom u t =>
    simp only [dispatch, rejectNonStudent_interNode, bookRoom]
    by_cases ht : t.campus = own
    · -- at its campus the booking asks the others for the week
      simp only [interNodeCalls, ht, if_true]
      exact calls_bookHere (k := 1) fun c hc => by simp [asking, hc]
    · simp only [ht, if_false]
      exact calls_forward fun h => by cases h
  | createRoom => exact .none _
  | deleteRoom => exact .none _
  | availableEverywhere => exact .none _
  | availableHere => exact .none _
  | cancelBooking u b =>
    simp only [dispatch, rejectNonStudent_interNode]
    unfold cancelBooking
    exact .ite (fun _ => calls_forward fun h => by cases h) fun _ => .none _
  | changeReservation => exact .none _
  | bookingCount => exact .none _
  | unrecognized => exact .none _

/-- The only calls made for another node's request ask for a student's week. -/
theorem interNodeCalls_isSome {own c : Campus} {req r : Request}
    (h : (interNodeCalls own req c r).isSome) :
    ∃ u d, r = .bookingCount u d := by
  cases req with
  | bookRoom u t =>
    by_cases ht : t.campus = own
    · simp only [interNodeCalls, ht, if_true, asking] at h
      split_ifs at h with hc
      · exact ⟨u, t.date, hc.2⟩
      · simp at h
    · simp [interNodeCalls, ht, noCalls] at h
  | _ => simp [interNodeCalls, noCalls] at h

/-! ## A client's request -/

/-- The calls a node may make for a client: handing a booking or a cancellation on to another
campus, at cost `fwd`, or asking another campus a question, at cost `ask`. -/
def clientCalls (own : Campus) (fwd ask : Nat) (c : Campus) : Request → Option Nat
  | .bookRoom .. | .cancelBooking .. => if c = own then none else some fwd
  | .bookingCount .. | .availableHere .. => if c = own then none else some ask
  | _ => none

section Client

variable {own : Campus} {u : UserId} {fwd ask n : Nat}

theorem calls_bookRoom_client {t : SlotRef} (hf : fwd ≤ n) (ha : 2 * ask ≤ n) :
    Calls (clientCalls own fwd ask) n fun link => bookRoom link own .client u t := by
  unfold bookRoom
  refine .ite (fun _ => (calls_bookHere fun c hc => ?_).mono ha)
    (fun ht => (calls_forward fun _ => ?_).mono hf)
  · simp [clientCalls, hc]
  · simp [clientCalls, ht]

theorem calls_cancelBooking_client {b : BookingId} (hf : fwd ≤ n) :
    Calls (clientCalls own fwd ask) n fun link => cancelBooking link own .client u b := by
  unfold cancelBooking
  refine .ite (fun hb => (calls_forward fun _ => ?_).mono hf) (fun _ => .none _)
  simp [clientCalls, hb]

/-- A change of reservation cancels, books and may book the old slot again: three steps,
each handed on to another campus or asking the others once. -/
theorem calls_changeReservation {old : BookingId} {t : SlotRef} :
    Calls (clientCalls own fwd ask) (fwd + (max fwd (2 * ask) + max fwd (2 * ask)))
      fun link => changeReservation link own u old t := by
  unfold changeReservation
  refine .bind (calls_cancelBooking_client le_rfl) (fun cancelled => ?_) le_rfl
  refine .ite (fun _ => .none _) (fun _ => ?_)
  refine .bind (calls_bookRoom_client (le_max_left _ _) (le_max_right _ _)) (fun booked => ?_) le_rfl
  dsimp only
  -- the new booking came back with its id, or the rest of the change runs
  refine .ite (fun _ => ?_) (fun _ => ?_)
  on_goal 1 =>
    rcases booked.bookingId with _ | b
    on_goal 2 => exact .none _
  -- the rest: a partial failure, or the old slot booked again
  all_goals
    refine .ite (fun _ => .none _) (fun _ => ?_)
    rcases cancelled.released with _ | former
    · exact .none _
    · exact .bind_pure (calls_bookRoom_client (le_max_left _ _) (le_max_right _ _)) _

theorem calls_availableEverywhere {d : Date} (ha : 2 * ask ≤ n) :
    Calls (clientCalls own fwd ask) n fun link => availableEverywhere link own d := by
  unfold availableEverywhere
  refine .pure_bind _ fun s => ?_
  exact .bind_pure ((calls_askPeers fun c hc => by simp [clientCalls, hc]).mono ha) _

/-- A client's request hands at most three requests on to other campuses, or asks the other
campuses at most twice: each step of a change of reservation does one or the other. -/
theorem calls_dispatch_client (req : Request) :
    Calls (clientCalls own fwd ask) (fwd + 2 * max fwd (2 * ask))
      fun link => dispatch link own .client req := by
  have hf : fwd ≤ fwd + 2 * max fwd (2 * ask) := by omega
  have ha : 2 * ask ≤ fwd + 2 * max fwd (2 * ask) := by omega
  cases req with
  | bookRoom u t =>
    simp only [dispatch]
    rcases rejectNonStudent .bookRoom .client u with _ | r
    · exact calls_bookRoom_client hf ha
    · exact .none _
  | cancelBooking u b =>
    simp only [dispatch]
    rcases rejectNonStudent .cancelBooking .client u with _ | r
    · exact calls_cancelBooking_client hf
    · exact .none _
  | changeReservation u old t =>
    simp only [dispatch]
    rcases rejectNonStudent .changeReservation .client u with _ | r
    · exact calls_changeReservation.mono (by omega)
    · exact .none _
  | availableEverywhere d => exact calls_availableEverywhere ha
  | createRoom => exact .none _
  | deleteRoom => exact .none _
  | availableHere => exact .none _
  | bookingCount => exact .none _
  | unrecognized => exact .none _

end Client

/-! ## How deep calls nest -/

/-- A node's answer to another node's request is the same at every depth of two or more:
the only calls it makes ask for a student's week, which the other campus answers itself. -/
theorem handle_interNode_depth (n : Nat) (own : Campus) (req : Request) :
    handle (n + 2) own .interNode req = handle 2 own .interNode req := by
  have hlink : dispatch (deliver (handle (n + 1)) own) own .interNode req =
      dispatch (deliver (handle 1) own) own .interNode req := by
    refine (calls_dispatch_interNode own req).link_congr fun c r wait hs => ?_
    obtain ⟨u, d, rfl⟩ := interNodeCalls_isSome hs
    simp only [deliver, handle_succ_bookingCount]
  rw [handle_succ, handle_succ, hlink]

/-- Every answer is the same at every depth of three or more. -/
theorem handle_depth (n : Nat) (own : Campus) (ch : Channel) (req : Request) :
    handle (n + 3) own ch req = handle 3 own ch req := by
  cases ch with
  | interNode =>
    exact (handle_interNode_depth (n + 1) own req).trans (handle_interNode_depth 1 own req).symm
  | client =>
    -- a client's request reaches the other nodes as their requests, answered alike below
    have hlink : deliver (handle (n + 2)) own = deliver (handle 2) own := by
      funext c r wait
      simp only [deliver, handle_interNode_depth]
    rw [handle_succ, handle_succ, hlink]

/-- Calls nest at most two deep below a request, whatever the cluster and its rules: every
answer is the same at every depth of three or more, and the answer to another node's request
at every depth of two or more.  Another node's request hands nothing on, and only a booking at
the node's own campus asks the others, once each and only for the student's week; a client's
request hands at most three requests on, or asks the others at most twice. -/
theorem calls_nest_at_most_two_deep :
    (∀ (n : Nat) (own : Campus) (ch : Channel) (req : Request),
      handle (n + Node.depth) own ch req = handle Node.depth own ch req) ∧
    (∀ (n : Nat) (own : Campus) (req : Request),
      handle (n + 2) own .interNode req = handle 2 own .interNode req) ∧
    (∀ (own : Campus) (req : Request),
      Calls (interNodeCalls own req) 2 fun link => dispatch link own .interNode req) ∧
    ∀ (own : Campus) (fwd ask : Nat) (req : Request),
      Calls (clientCalls own fwd ask) (fwd + 2 * max fwd (2 * ask))
        fun link => dispatch link own .client req :=
  ⟨handle_depth, handle_interNode_depth, calls_dispatch_interNode,
    fun _ _ _ => calls_dispatch_client⟩

end Node
end CampusBooking
