import Mathlib
import CampusBooking.Registry.Directory

/-!
# The registry's directory over a history of calls

A directory is used through three calls: publishing an entry (`register`), looking a key up
(`lookup`) and handing out a port (`drawPort`, given the ports the registry draws at random,
each with the outcome of its bind test).  Take any history of calls made one after another
from an empty directory.  Every answer is then fixed by the calls before it
(`directory_follows_its_history`):

* a registration is accepted exactly when no earlier registration had its key;
* a lookup finds the entry of the first registration of its key, and goes on finding it
  whatever is called later, so an entry is never replaced;
* the directory holds one entry for each key ever registered;
* a port handed out, when the draws lie in the range, lies in the range and is neither a
  port handed out before nor the port of an accepted registration.

The registry's answers to requests inherit this: a registration request succeeds exactly
when it names a whole entry whose key is fresh, and a lookup request carries the entry that
the directory finds.

The invariant that carries all of this is `Tracks`: the lookups are the first
registrations, the keys of the entries are distinct, and every port handed out or
registered is taken.
-/

namespace CampusBooking

/-- The key of an entry: its service kind and campus. -/
def RegistryEntry.key (e : RegistryEntry) : ServiceKind × Campus := (e.kind, e.campus)

theorem RegistryEntry.key_eq_iff {e : RegistryEntry} {k : ServiceKind} {c : Campus} :
    e.key = (k, c) ↔ e.kind = k ∧ e.campus = c := by
  simp [RegistryEntry.key]

namespace Directory

variable {d : Directory} {e : RegistryEntry} {k : ServiceKind} {c : Campus}

/-! ## Publishing and handing out -/

theorem register_of_found (h : (d.lookup e.kind e.campus).isSome) : d.register e = (d, false) := by
  simp [register, h]

theorem register_of_not_found (h : d.lookup e.kind e.campus = none) :
    d.register e = ({ d with entries := d.entries ++ [e], taken := e.port :: d.taken }, true) := by
  simp [register, h]

theorem register_snd (d : Directory) (e : RegistryEntry) :
    (d.register e).2 = (d.lookup e.kind e.campus).isNone := by
  unfold register
  split <;> simp_all

@[simp] theorem register_low (d : Directory) (e : RegistryEntry) : (d.register e).1.low = d.low := by
  unfold register
  split <;> rfl

@[simp] theorem register_high (d : Directory) (e : RegistryEntry) : (d.register e).1.high = d.high := by
  unfold register
  split <;> rfl

theorem taken_subset_register (d : Directory) (e : RegistryEntry) : d.taken ⊆ (d.register e).1.taken := by
  unfold register
  split
  · exact List.Subset.refl _
  · exact List.subset_cons_self _ _

theorem port_mem_register (h : (d.register e).2 = true) : e.port ∈ (d.register e).1.taken := by
  rw [register_snd, Option.isNone_iff_eq_none] at h
  rw [register_of_not_found h]
  exact List.mem_cons_self

/-- A lookup after a registration finds what it found before, or else the new entry when it
has the key. -/
theorem lookup_register (d : Directory) (e : RegistryEntry) (k : ServiceKind) (c : Campus) :
    (d.register e).1.lookup k c = (d.lookup k c).or (if e.kind = k ∧ e.campus = c then some e else none) := by
  by_cases hfound : (d.lookup e.kind e.campus).isSome
  · rw [register_of_found hfound]
    by_cases hkey : e.kind = k ∧ e.campus = c
    · obtain ⟨rfl, rfl⟩ := hkey
      rw [Option.or_of_isSome hfound]
    · rw [if_neg hkey, Option.or_none]
  · rw [register_of_not_found (Option.not_isSome_iff_eq_none.mp hfound)]
    by_cases hkey : e.kind = k ∧ e.campus = c
    · simp [lookup, List.find?_append, hkey]
    · have hmiss : (decide (e.kind = k) && decide (e.campus = c)) = false := by
        simpa using hkey
      simp [lookup, List.find?_append, hkey, hmiss]

theorem register_fst_of_refused (h : (d.register e).2 = false) : (d.register e).1 = d := by
  have hfound : (d.lookup e.kind e.campus).isSome := by
    rw [register_snd] at h
    simpa using h
  rw [register_of_found hfound]

/-- A registration never replaces what a key maps to. -/
theorem lookup_register_of_some (he : d.lookup k c = some e) (e' : RegistryEntry) :
    (d.register e').1.lookup k c = some e := by
  rw [lookup_register, he, Option.some_or]

/-- The keys of the entries, oldest first. -/
def keys (d : Directory) : List (ServiceKind × Campus) := d.entries.map RegistryEntry.key

theorem mem_keys_iff : (k, c) ∈ d.keys ↔ (d.lookup k c).isSome := by
  simp [keys, lookup, List.find?_isSome, RegistryEntry.key_eq_iff]

theorem keys_register_nodup (h : d.keys.Nodup) (e : RegistryEntry) : (d.register e).1.keys.Nodup := by
  by_cases hfound : (d.lookup e.kind e.campus).isSome
  · rwa [register_of_found hfound]
  · have hfresh : e.key ∉ d.keys := fun hmem => hfound (mem_keys_iff.mp hmem)
    rw [register_of_not_found (Option.not_isSome_iff_eq_none.mp hfound)]
    simp only [keys, List.map_append, List.map_cons, List.map_nil] at h hfresh ⊢
    exact List.nodup_append.mpr ⟨h, List.nodup_singleton _,
      fun x hx y hy => by rw [List.mem_singleton.mp hy]; exact ne_of_mem_of_not_mem hx hfresh⟩

/-- A port handed out is a drawn port that could be bound and was not taken; it is taken
afterwards, and nothing else changes. -/
theorem drawPort_eq_some {draws : List (UInt16 × Bool)} {p : UInt16} {d' : Directory}
    (h : d.drawPort draws = some (p, d')) :
    (p, true) ∈ draws ∧ p ∉ d.taken ∧ d' = { d with taken := p :: d.taken } := by
  induction draws with
  | nil => cases h
  | cons x rest ih =>
    obtain ⟨q, bindable⟩ := x
    simp only [drawPort] at h
    split at h
    · rename_i hfree
      obtain ⟨rfl, rfl⟩ := Prod.mk.inj (Option.some.inj h)
      obtain ⟨hq, rfl⟩ := hfree
      exact ⟨List.mem_cons_self, hq, rfl⟩
    · obtain ⟨hmem, hfresh, rfl⟩ := ih h
      exact ⟨List.mem_cons_of_mem _ hmem, hfresh, rfl⟩

/-! ## Histories of calls -/

/-- A call on the directory. -/
inductive Call where
  | register (e : RegistryEntry)
  | lookup (kind : ServiceKind) (campus : Campus)
  /-- A request for a port, with the ports the registry draws for it. -/
  | availablePort (draws : List (UInt16 × Bool))

/-- What a call answers. -/
inductive Reply where
  /-- Whether a registration was accepted. -/
  | registered (accepted : Bool)
  | found (entry : Option RegistryEntry)
  /-- The port handed out, or none while the registry keeps drawing. -/
  | port (p : Option UInt16)

/-- Makes one call. -/
def call (d : Directory) : Call → Directory × Reply
  | .register e => ((d.register e).1, .registered (d.register e).2)
  | .lookup k c => (d, .found (d.lookup k c))
  | .availablePort draws =>
    match d.drawPort draws with
    | some (p, d') => (d', .port (some p))
    | none => (d, .port none)

/-- Makes calls one after another: the directory reached, and each call with its reply. -/
def replay (d : Directory) : List Call → Directory × List (Call × Reply)
  | [] => (d, [])
  | c :: cs =>
    let (d', r) := d.call c
    let (d'', h) := d'.replay cs
    (d'', (c, r) :: h)

/-- The directory that calls made from the empty directory on `[low, high)` reach. -/
def after (low high : UInt16) (cs : List Call) : Directory := ((empty low high).replay cs).1

/-- The calls made from the empty directory on `[low, high)`, each with its reply. -/
def history (low high : UInt16) (cs : List Call) : List (Call × Reply) := ((empty low high).replay cs).2

/-- The entry a call registers, if it is a registration. -/
def Call.registered? : Call → Option RegistryEntry
  | .register e => some e
  | _ => none

/-- The entries registered along a history, accepted or not, oldest first. -/
def registrations (cs : List Call) : List RegistryEntry := cs.filterMap Call.registered?

/-- The first entry registered under a key along a history. -/
def firstRegistered (cs : List Call) (kind : ServiceKind) (campus : Campus) : Option RegistryEntry :=
  (registrations cs).find? fun e => e.kind = kind ∧ e.campus = campus

/-- The ports handed out along a history. -/
def handedOut (h : List (Call × Reply)) : List UInt16 :=
  h.filterMap fun
    | (_, .port p) => p
    | _ => none

/-- The entries whose registration was accepted along a history. -/
def accepted (h : List (Call × Reply)) : List RegistryEntry :=
  h.filterMap fun
    | (.register e, .registered true) => some e
    | _ => none

theorem firstRegistered_append (cs more : List Call) (k : ServiceKind) (c : Campus) :
    firstRegistered (cs ++ more) k c = (firstRegistered cs k c).or (firstRegistered more k c) := by
  simp [firstRegistered, registrations, List.find?_append]

theorem firstRegistered_register (e : RegistryEntry) (k : ServiceKind) (c : Campus) :
    firstRegistered [.register e] k c = if e.kind = k ∧ e.campus = c then some e else none := by
  simp only [firstRegistered, registrations, List.filterMap_cons, Call.registered?,
    List.filterMap_nil, List.find?_cons, List.find?_nil]
  split <;> simp_all

theorem map_fst_replay (d : Directory) (cs : List Call) : (d.replay cs).2.map Prod.fst = cs := by
  induction cs generalizing d with
  | nil => rfl
  | cons c cs ih => simp [replay, ih]

/-- What a directory reached by a history keeps: the range it hands out from, lookups that
find the first registration of each key, distinct keys, and every port it handed out or
registered taken. -/
structure Tracks (low high : UInt16) (d : Directory) (h : List (Call × Reply)) : Prop where
  low_eq : d.low = low
  high_eq : d.high = high
  lookup_eq : ∀ k c, d.lookup k c = firstRegistered (h.map Prod.fst) k c
  keys_nodup : d.keys.Nodup
  handedOut_taken : ∀ p ∈ handedOut h, p ∈ d.taken
  accepted_taken : ∀ e ∈ accepted h, e.port ∈ d.taken

theorem tracks_empty (low high : UInt16) : Tracks low high (empty low high) [] :=
  ⟨rfl, rfl, fun _ _ => rfl, List.nodup_nil, fun _ h => absurd h List.not_mem_nil,
    fun _ h => absurd h List.not_mem_nil⟩

variable {low high : UInt16} {h : List (Call × Reply)}

/-- A registration keeps the directory in step with the history it extends. -/
theorem Tracks.register (ht : Tracks low high d h) (e : RegistryEntry) :
    Tracks low high (d.call (.register e)).1 (h ++ [(.register e, (d.call (.register e)).2)]) := by
  have hsub := taken_subset_register d e
  refine ⟨by simp [call, ht.low_eq], by simp [call, ht.high_eq], fun k c => ?_,
    keys_register_nodup ht.keys_nodup e, fun p hp => ?_, fun e' he' => ?_⟩
  · rw [List.map_append, firstRegistered_append, ← ht.lookup_eq]
    simp only [call, List.map_cons, List.map_nil, firstRegistered_register, lookup_register]
  · simp only [handedOut, List.filterMap_append, List.filterMap_cons, List.filterMap_nil,
      call, List.append_nil] at hp
    exact hsub (ht.handedOut_taken p hp)
  · simp only [accepted, List.filterMap_append, call, List.mem_append] at he'
    rcases he' with hold | hnew
    · exact hsub (ht.accepted_taken e' hold)
    · cases haccepted : (d.register e).2
      · simp [haccepted] at hnew
      · simp only [haccepted, List.filterMap_cons, List.filterMap_nil, List.mem_singleton] at hnew
        subst hnew
        exact port_mem_register haccepted

/-- A request for a port keeps the directory in step with the history it extends. -/
theorem Tracks.availablePort (ht : Tracks low high d h) (draws : List (UInt16 × Bool)) :
    Tracks low high (d.call (.availablePort draws)).1
      (h ++ [(.availablePort draws, (d.call (.availablePort draws)).2)]) := by
  have hfirst : firstRegistered [.availablePort draws] = fun _ _ => none := rfl
  cases hdraw : d.drawPort draws with
  | none =>
    simp only [call, hdraw]
    refine ⟨ht.low_eq, ht.high_eq, fun k c => ?_, ht.keys_nodup, fun p hp => ?_, fun e he => ?_⟩
    · rw [List.map_append, firstRegistered_append, ← ht.lookup_eq]
      simp [hfirst]
    · simpa [handedOut] using ht.handedOut_taken p (by simpa [handedOut] using hp)
    · exact ht.accepted_taken e (by simpa [accepted] using he)
  | some x =>
    obtain ⟨p, d'⟩ := x
    obtain ⟨-, -, rfl⟩ := drawPort_eq_some hdraw
    simp only [call, hdraw]
    refine ⟨ht.low_eq, ht.high_eq, fun k c => ?_, ht.keys_nodup, fun q hq => ?_, fun e he => ?_⟩
    · rw [List.map_append, firstRegistered_append, ← ht.lookup_eq]
      simp [hfirst, lookup]
    · simp only [handedOut, List.filterMap_append, List.filterMap_cons, List.filterMap_nil,
        List.mem_append, List.mem_singleton] at hq
      rcases hq with hold | rfl
      · exact List.mem_cons_of_mem _ (ht.handedOut_taken q hold)
      · exact List.mem_cons_self
    · exact List.mem_cons_of_mem _ (ht.accepted_taken e (by simpa [accepted] using he))

/-- One call keeps the directory in step with the history it extends. -/
theorem Tracks.call (ht : Tracks low high d h) (c : Call) :
    Tracks low high (d.call c).1 (h ++ [(c, (d.call c).2)]) := by
  cases c with
  | register e => exact ht.register e
  | lookup k c =>
    refine ⟨ht.low_eq, ht.high_eq, fun k' c' => ?_, ht.keys_nodup, fun p hp => ?_, fun e he => ?_⟩
    · rw [List.map_append, firstRegistered_append, ← ht.lookup_eq]
      simp [Directory.call, firstRegistered, registrations, Call.registered?]
    · exact ht.handedOut_taken p (by simpa [handedOut, Directory.call] using hp)
    · exact ht.accepted_taken e (by simpa [accepted] using he)
  | availablePort draws => exact ht.availablePort draws

/-- Calls made one after another keep the directory in step with the whole history. -/
theorem Tracks.replay (ht : Tracks low high d h) (cs : List Call) :
    Tracks low high (d.replay cs).1 (h ++ (d.replay cs).2) := by
  induction cs generalizing d h with
  | nil => simpa [Directory.replay] using ht
  | cons c cs ih =>
    have hrest := ih (ht.call c)
    simpa [Directory.replay, List.append_assoc] using hrest

theorem tracks_after (low high : UInt16) (cs : List Call) :
    Tracks low high (after low high cs) (history low high cs) := by
  have ht := (tracks_empty low high).replay cs
  rw [List.nil_append] at ht
  exact ht

theorem lookup_after (low high : UInt16) (cs : List Call) (k : ServiceKind) (c : Campus) :
    (after low high cs).lookup k c = firstRegistered cs k c := by
  rw [(tracks_after low high cs).lookup_eq, history, map_fst_replay]

/-! ## Answers fixed by the history -/

theorem register_accepted_iff (low high : UInt16) (cs : List Call) (e : RegistryEntry) :
    ((after low high cs).register e).2 = true ↔ ∀ e' ∈ registrations cs, e'.key ≠ e.key := by
  rw [register_snd, lookup_after, Option.isNone_iff_eq_none, firstRegistered, List.find?_eq_none]
  simp [RegistryEntry.key]

/-- The directory holds one entry for each key registered. -/
theorem size_after (low high : UInt16) (cs : List Call) :
    (after low high cs).size = ((registrations cs).map RegistryEntry.key).toFinset.card := by
  have ht := tracks_after low high cs
  have hsame : (after low high cs).keys.toFinset = ((registrations cs).map RegistryEntry.key).toFinset := by
    ext ⟨k, c⟩
    rw [List.mem_toFinset, List.mem_toFinset, mem_keys_iff, lookup_after, firstRegistered,
      List.find?_isSome]
    simp [RegistryEntry.key_eq_iff]
  rw [← hsame, List.toFinset_card_of_nodup ht.keys_nodup]
  simp [size, keys]

/-- A port handed out from drawn ports of the range lies in the range, and it is neither a
port handed out before nor the port of an accepted registration. -/
theorem drawPort_after_fresh (low high : UInt16) (cs : List Call) {draws : List (UInt16 × Bool)}
    (hdraws : ∀ x ∈ draws, low ≤ x.1 ∧ x.1 < high) {p : UInt16} {d' : Directory}
    (h : (after low high cs).drawPort draws = some (p, d')) :
    low ≤ p ∧ p < high ∧ p ∉ handedOut (history low high cs) ∧
      ∀ e ∈ accepted (history low high cs), e.port ≠ p := by
  have ht := tracks_after low high cs
  obtain ⟨hmem, hfree, -⟩ := drawPort_eq_some h
  obtain ⟨hlow, hhigh⟩ := hdraws _ hmem
  refine ⟨hlow, hhigh, fun hout => hfree (ht.handedOut_taken p hout), fun e he hport => ?_⟩
  exact hfree (hport ▸ ht.accepted_taken e he)

/-! ## The registry's answers -/

/-- A registration request: an incomplete entry is refused and changes nothing; a whole
entry is published as `register` publishes it, and the request succeeds exactly when it
was. -/
theorem respond_register {draws : List (UInt16 × Bool)} {req : RegistryRequest}
    (hreq : req.action = .register) :
    ∃ r, d.respond draws req = some ((req.entry?.map fun e => (d.register e).1).getD d, r) ∧
      (r.success = true ↔ ∃ e, req.entry? = some e ∧ (d.register e).2 = true) := by
  unfold respond
  rw [hreq]
  cases hentry : req.entry? with
  | none => exact ⟨_, rfl, by simp [Response.fail]⟩
  | some e =>
    rcases hreg : d.register e with ⟨d', _ | _⟩
    · exact ⟨_, by simp [hreg]; rfl, by simp [Response.fail, hreg]⟩
    · exact ⟨_, by simp [hreg]; rfl, by simp [Response.ok, hreg]⟩

/-- A lookup request that names a key changes nothing and carries the entry the directory
finds. -/
theorem respond_lookup {draws : List (UInt16 × Bool)} {req : RegistryRequest}
    (hreq : req.action = .lookup) (hk : req.kind = some k) (hc : req.campus = some c) :
    ∃ r, d.respond draws req = some (d, r) ∧ r.entry = d.lookup k c ∧ r.success = (d.lookup k c).isSome := by
  unfold respond
  rw [hreq, hk, hc]
  dsimp only
  rcases d.lookup k c with _ | e
  · exact ⟨_, rfl, rfl, rfl⟩
  · exact ⟨_, rfl, rfl, rfl⟩

/-- Over every history of calls made one after another from an empty directory: a
registration is accepted exactly when no earlier registration had its key; a lookup finds
the first registration of its key and goes on finding it after any later calls; the
directory holds one entry per key registered; and a port handed out from draws in the range
lies in the range and is new, neither handed out before nor the port of an accepted
registration.  The registry's answers follow: a registration request succeeds exactly when
it names a whole entry with a fresh key, and a lookup request carries the entry found. -/
theorem directory_follows_its_history (low high : UInt16) (cs : List Call) :
    (∀ e, ((after low high cs).register e).2 = true ↔ ∀ e' ∈ registrations cs, e'.key ≠ e.key) ∧
    (∀ k c, (after low high cs).lookup k c = firstRegistered cs k c) ∧
    (∀ k c e more, firstRegistered cs k c = some e → (after low high (cs ++ more)).lookup k c = some e) ∧
    (after low high cs).size = ((registrations cs).map RegistryEntry.key).toFinset.card ∧
    (∀ draws p d', (∀ x ∈ draws, low ≤ x.1 ∧ x.1 < high) →
      (after low high cs).drawPort draws = some (p, d') →
        low ≤ p ∧ p < high ∧ p ∉ handedOut (history low high cs) ∧
          ∀ e ∈ accepted (history low high cs), e.port ≠ p) ∧
    (∀ draws req, req.action = .register → ∃ d' r, (after low high cs).respond draws req = some (d', r) ∧
      (r.success = true ↔ ∃ e, req.entry? = some e ∧ ∀ e' ∈ registrations cs, e'.key ≠ e.key)) ∧
    (∀ draws req k c, req.action = .lookup → req.kind = some k → req.campus = some c →
      ∃ r, (after low high cs).respond draws req = some (after low high cs, r) ∧
        r.entry = firstRegistered cs k c) := by
  refine ⟨register_accepted_iff low high cs, lookup_after low high cs, fun k c e more he => ?_,
    size_after low high cs, fun draws p d' hdraws h => drawPort_after_fresh low high cs hdraws h,
    fun draws req hreq => ?_, fun draws req k c hreq hk hc => ?_⟩
  · -- a later registration of the key comes after the first one
    rw [lookup_after, firstRegistered_append, he, Option.some_or]
  · obtain ⟨r, hr, hsuccess⟩ := @respond_register (after low high cs) draws req hreq
    refine ⟨_, r, hr, hsuccess.trans ?_⟩
    simp only [register_accepted_iff]
  · obtain ⟨r, hr, hentry, -⟩ := @respond_lookup (after low high cs) k c draws req hreq hk hc
    exact ⟨r, hr, hentry.trans (lookup_after low high cs k c)⟩

/-- The inter-node entry of KKL that the example below registers. -/
def kklInterNode : RegistryEntry := ⟨.interNode, .kkl, "127.0.0.1", 41000, "server"⟩

/-- On the range 41000..41002, after KKL's inter-node entry is registered on port 41000, a
request for a port that draws 41000 and then 41001 is handed 41001: a port of the range,
never handed out, and not the registered one. -/
theorem port_after_registration_skips_it :
    (∀ x ∈ [((41000 : UInt16), true), (41001, true)], (41000 : UInt16) ≤ x.1 ∧ x.1 < 41002) ∧
      (after 41000 41002 [.register kklInterNode]).drawPort [(41000, true), (41001, true)] =
          some (41001, { low := 41000, high := 41002, entries := [kklInterNode], taken := [41001, 41000] }) ∧
        (41000 : UInt16) ≤ 41001 ∧ (41001 : UInt16) < 41002 ∧
        (41001 : UInt16) ∉ handedOut (history 41000 41002 [.register kklInterNode]) ∧
        ∀ e ∈ accepted (history 41000 41002 [.register kklInterNode]), e.port ≠ 41001 := by
  have hdraws : ∀ x ∈ [((41000 : UInt16), true), (41001, true)], (41000 : UInt16) ≤ x.1 ∧ x.1 < 41002 := by
    simp [UInt16.le_iff_toNat_le, UInt16.lt_iff_toNat_lt]
  have hd : (after 41000 41002 [.register kklInterNode]).drawPort [(41000, true), (41001, true)] =
      some (41001, { low := 41000, high := 41002, entries := [kklInterNode], taken := [41001, 41000] }) := by
    simp [after, Directory.replay, Directory.call, register, lookup, drawPort, empty, kklInterNode]
  exact ⟨hdraws, hd, (directory_follows_its_history 41000 41002 _).2.2.2.2.1 _ _ _ hdraws hd⟩

end Directory

end CampusBooking
