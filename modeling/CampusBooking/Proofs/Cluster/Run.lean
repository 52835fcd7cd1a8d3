import Mathlib
import CampusBooking.Mesh.Node

/-!
# Running a step of the cluster

`runOn m w` runs the step `m` from the cluster `w` and gives its result (or the halt) with
the cluster after it.  This module gives `runOn` one equation per building block of the
handlers (`pure`, `bind`, `get`, `modify`, `storeOf`, `setStore`, `orHalt`), and the
inversions of a bind that answered and of one that halted.

`Keeps m` says that `m` leaves every cluster as it found it, whatever it returns: reading
the stores, asking peers that only read, and failing are such steps.  It is closed under
`bind` and under a fold, so a handler that only reads is shown to keep the cluster one
building block at a time.
-/

namespace CampusBooking

/-- Runs a step from the cluster `w`: its result, or the halt, and the cluster after it. -/
def runOn {α : Type} (m : ClusterM α) (w : Cluster) : Except Halt α × Cluster := m.run.run w

namespace Cluster

/-- The cluster with the store of campus `c` replaced. -/
def withStore (w : Cluster) (c : Campus) (s : Store) : Cluster :=
  { w with stores := fun d => if d = c then s else w.stores d }

@[simp] theorem withStore_stores (w : Cluster) (c d : Campus) (s : Store) :
    (w.withStore c s).stores d = if d = c then s else w.stores d := rfl

@[simp] theorem withStore_up (w : Cluster) (c : Campus) (s : Store) : (w.withStore c s).up = w.up := rfl

@[simp] theorem withStore_rules (w : Cluster) (c : Campus) (s : Store) :
    (w.withStore c s).rules = w.rules := rfl

@[simp] theorem withStore_quota (w : Cluster) (c : Campus) (s : Store) :
    (w.withStore c s).quota = w.quota := rfl

@[simp] theorem withStore_peerTimeout (w : Cluster) (c : Campus) (s : Store) :
    (w.withStore c s).peerTimeout = w.peerTimeout := rfl

@[simp] theorem withStore_ids (w : Cluster) (c : Campus) (s : Store) : (w.withStore c s).ids = w.ids := rfl

@[simp] theorem withStore_drawn (w : Cluster) (c : Campus) (s : Store) :
    (w.withStore c s).drawn = w.drawn := rfl

/-- Putting back the store a campus has changes nothing. -/
theorem withStore_self (w : Cluster) (c : Campus) : w.withStore c (w.stores c) = w := by
  show { w with stores := _ } = w
  congr
  funext d
  by_cases h : d = c
  · rw [if_pos h, h]
  · rw [if_neg h]

end Cluster

section Run

variable {α β : Type}

@[simp] theorem runOn_pure (a : α) (w : Cluster) : runOn (pure a : ClusterM α) w = (.ok a, w) := rfl

@[simp] theorem runOn_bind (m : ClusterM α) (f : α → ClusterM β) (w : Cluster) :
    runOn (m >>= f) w = match runOn m w with
      | (.ok a, w') => runOn (f a) w'
      | (.error e, w') => (.error e, w') := by
  unfold runOn
  simp only [ExceptT.run_bind, StateT.run_bind]
  rcases m.run.run w with ⟨_ | a, w'⟩ <;> rfl

@[simp] theorem runOn_get (w : Cluster) : runOn (get : ClusterM Cluster) w = (.ok w, w) := rfl

@[simp] theorem runOn_modify (f : Cluster → Cluster) (w : Cluster) :
    runOn (modify f : ClusterM Unit) w = (.ok (), f w) := rfl

@[simp] theorem runOn_throw (e : Halt) (w : Cluster) : runOn (throw e : ClusterM α) w = (.error e, w) := rfl

@[simp] theorem runOn_storeOf (c : Campus) (w : Cluster) :
    runOn (Cluster.storeOf c) w = (.ok (w.stores c), w) := rfl

@[simp] theorem runOn_setStore (c : Campus) (s : Store) (w : Cluster) :
    runOn (Cluster.setStore c s) w = (.ok (), w.withStore c s) := rfl

@[simp] theorem runOn_orHalt (r : Except Halt α) (w : Cluster) :
    runOn (Cluster.orHalt r) w = (r, w) := by
  cases r <;> rfl

@[simp] theorem runOn_map (f : α → β) (m : ClusterM α) (w : Cluster) :
    runOn (f <$> m) w = match runOn m w with
      | (.ok a, w') => (.ok (f a), w')
      | (.error e, w') => (.error e, w') := by
  rw [map_eq_bind_pure_comp, runOn_bind]
  rcases runOn m w with ⟨_ | a, w'⟩ <;> rfl

/-- A run is its result and the cluster after it. -/
theorem runOn_eq_of_fst {m : ClusterM α} {w : Cluster} {x : Except Halt α} (h : (runOn m w).1 = x) :
    runOn m w = (x, (runOn m w).2) := by
  rw [← h]

/-- A bind that did not halt ran its first step to a value, then the rest from there. -/
theorem runOn_bind_eq_ok {m : ClusterM α} {f : α → ClusterM β} {w w'' : Cluster} {b : β}
    (h : runOn (m >>= f) w = (.ok b, w'')) :
    ∃ a w', runOn m w = (.ok a, w') ∧ runOn (f a) w' = (.ok b, w'') := by
  rw [runOn_bind] at h
  rcases hm : runOn m w with ⟨_ | a, w'⟩
  · rw [hm] at h
    cases h
  · rw [hm] at h
    exact ⟨a, w', rfl, h⟩

/-- A bind that halted halted in its first step, or ran that step to a value and halted in
the rest. -/
theorem runOn_bind_eq_error {m : ClusterM α} {f : α → ClusterM β} {w w'' : Cluster} {e : Halt}
    (h : runOn (m >>= f) w = (.error e, w'')) :
    runOn m w = (.error e, w'') ∨ ∃ a w', runOn m w = (.ok a, w') ∧ runOn (f a) w' = (.error e, w'') := by
  rw [runOn_bind] at h
  rcases hm : runOn m w with ⟨_ | a, w'⟩ <;> rw [hm] at h
  · -- the halt is passed on from the first step's result type to the bind's
    simp only [Prod.mk.injEq, Except.error.injEq] at h
    obtain ⟨rfl, rfl⟩ := h
    exact .inl rfl
  · exact .inr ⟨a, w', rfl, h⟩

end Run

/-! ## Steps that keep the cluster -/

/-- The step leaves every cluster as it found it, whatever it returns. -/
def Keeps {α : Type} (m : ClusterM α) : Prop := ∀ w, (runOn m w).2 = w

namespace Keeps

variable {α β : Type}

theorem pure (a : α) : Keeps (Pure.pure a : ClusterM α) := fun _ => rfl

theorem get : Keeps (MonadState.get : ClusterM Cluster) := fun _ => rfl

theorem storeOf (c : Campus) : Keeps (Cluster.storeOf c) := fun _ => rfl

theorem orHalt (r : Except Halt α) : Keeps (Cluster.orHalt r) := fun w => by
  rw [runOn_orHalt]

theorem bind {m : ClusterM α} {f : α → ClusterM β} (hm : Keeps m) (hf : ∀ a, Keeps (f a)) :
    Keeps (m >>= f) := by
  intro w
  rw [runOn_bind]
  have hw := hm w
  rcases hr : runOn m w with ⟨_ | a, w'⟩
  · rw [hr] at hw
    exact hw
  · rw [hr] at hw
    subst hw
    exact hf a _

theorem foldlM {γ : Type} {f : β → γ → ClusterM β} (hf : ∀ b x, Keeps (f b x)) :
    ∀ (l : List γ) (init : β), Keeps (l.foldlM f init)
  | [], init => Keeps.pure init
  | x :: l, init => by
    rw [List.foldlM_cons]
    exact Keeps.bind (hf init x) fun b => Keeps.foldlM hf l b

/-- A step that keeps the cluster and returns a value ends where it began. -/
theorem eq_of_runOn {m : ClusterM α} (hm : Keeps m) {w w' : Cluster} {r : Except Halt α}
    (h : runOn m w = (r, w')) : w' = w := by
  have := hm w
  rw [h] at this
  exact this

end Keeps

end CampusBooking
