import Mathlib
import CampusBooking.Mesh.Peers

/-!
# The addresses a node keeps for its peers

A node that runs over a network finds the node of another campus through the registry and
keeps the address it found (`PeerCache`).  A send to a campus goes to the kept address when
there is one; otherwise it looks the campus's inter-node entry up in the registry, resolves
the entry's address (`PeerCache.locate`) and keeps it.  A call that fails drops the campus's
address, so a node that starts again elsewhere is found again.

Take any sends made one after another from an empty cache, whatever the registry answers and
however each call turns out: each send meets the network as it behaves during that send
(`PeerSend`).  Then after each send to a campus (`cache_follows_sends`):

* the cache holds an address for the campus exactly when the send succeeded;
* that address is the one the last lookup of the campus found: a send looked it up and found
  it, and every later send to the campus found an address kept (`FoundAtLastLookup`);
* a send that finds no entry, or fails to look one up, keeps nothing and calls no one;
* the address of every other campus is as it was.

`send_spec` says what one send does; `kept_found_at_last_lookup` carries it along a run.
-/

namespace CampusBooking

namespace PeerCache

theorem find?_filter_ne (l : List (Campus × SocketAddress)) {x y : Campus} (h : x ≠ y) :
    (l.filter (·.1 ≠ x)).find? (·.1 = y) = l.find? (·.1 = y) := by
  rw [List.find?_filter]
  congr 1
  funext z
  by_cases hz : z.1 = y
  · simp [hz, Ne.symm h]
  · simp [hz]

@[simp] theorem get?_empty (y : Campus) : ({} : PeerCache).get? y = none := rfl

@[simp] theorem get?_insert (c : PeerCache) (x y : Campus) (a : SocketAddress) :
    (c.insert x a).get? y = if y = x then some a else c.get? y := by
  by_cases h : y = x
  · subst h
    simp [get?, insert]
  · simp only [get?, insert, List.find?_cons, Ne.symm h, h, decide_false, if_false]
    rw [find?_filter_ne c.found (Ne.symm h)]

@[simp] theorem get?_erase (c : PeerCache) (x y : Campus) :
    (c.erase x).get? y = if y = x then none else c.get? y := by
  by_cases h : y = x
  · subst h
    simp [get?, erase, List.find?_filter]
  · simp only [get?, erase, h, if_false]
    rw [find?_filter_ne c.found (Ne.symm h)]

/-! ## One send -/

section Send

variable (net : Network Id) (registry : RegistryClient) (x : Campus) (req : Request) (wait : Nat)
  {c : PeerCache}

/-- A send to a campus whose address is kept calls that address, and drops it when the call
fails. -/
theorem send_of_kept {a : SocketAddress} (h : c.get? x = some a) :
    send net registry x req wait c =
      match (net.send a req.toJson wait).run with
      | .ok r => (.ok r, c)
      | .error e => (.error e, c.erase x) := by
  have hresolve : (resolve net registry x c).run = .ok (a, c) := by
    simp [resolve, h]
    rfl
  simp only [send, hresolve]
  rfl

/-- Without a kept address, the campus is located and what is found is kept. -/
theorem resolve_of_none (h : c.get? x = none) :
    (resolve net registry x c).run = (locate net registry x).run.map fun a => (a, c.insert x a) := by
  simp only [resolve, h]
  rw [ExceptT.run_bind]
  rcases (locate net registry x).run with e | a <;> rfl

/-- A send to a campus without a kept address that the registry locates calls the address
found and keeps it, unless the call fails. -/
theorem send_of_located {a : SocketAddress} (h : c.get? x = none) (hl : (locate net registry x).run = .ok a) :
    send net registry x req wait c =
      match (net.send a req.toJson wait).run with
      | .ok r => (.ok r, c.insert x a)
      | .error e => (.error e, (c.insert x a).erase x) := by
  have hresolve : (resolve net registry x c).run = .ok (a, c.insert x a) := by
    rw [resolve_of_none net registry x h, hl]
    rfl
  simp only [send, hresolve]
  rfl

/-- A send to a campus without a kept address that the registry does not locate fails as the
lookup failed, keeps the cache and calls no one. -/
theorem send_of_unlocated {e : NetFault} (h : c.get? x = none) (hl : (locate net registry x).run = .error e) :
    send net registry x req wait c = (.error e, c) := by
  have hresolve : (resolve net registry x c).run = .error e := by
    rw [resolve_of_none net registry x h, hl]
    rfl
  simp only [send, hresolve]
  rfl

/-- What one send does to the cache: it keeps an address for its campus exactly when it
succeeds, the address it keeps is the one kept before or the one the registry located, a
failed lookup changes nothing, and the other campuses keep their addresses. -/
theorem send_spec (c : PeerCache) :
    (((send net registry x req wait c).2.get? x).isSome ↔ ∃ r, (send net registry x req wait c).1 = .ok r) ∧
    (∀ a, (send net registry x req wait c).2.get? x = some a →
      c.get? x = some a ∨ (c.get? x = none ∧ (locate net registry x).run = .ok a)) ∧
    (∀ y, y ≠ x → (send net registry x req wait c).2.get? y = c.get? y) ∧
    (c.get? x = none → ∀ e, (locate net registry x).run = .error e →
      send net registry x req wait c = (.error e, c)) := by
  rcases hc : c.get? x with _ | kept
  · rcases hl : (locate net registry x).run with e | a
    · -- the registry does not locate the campus
      rw [send_of_unlocated net registry x req wait hc hl]
      refine ⟨by simp [hc], fun a ha => by simp [hc] at ha, fun _ _ => rfl, fun _ e' he' => ?_⟩
      cases he'
      rfl
    · -- the registry locates the campus; the call decides whether its address is kept
      rw [send_of_located net registry x req wait hc hl]
      rcases (net.send a req.toJson wait).run with e | r <;>
        refine ⟨?_, fun b hb => ?_, fun y hy => ?_, fun _ e' he' => by cases he'⟩ <;> simp_all
  · rw [send_of_kept net registry x req wait hc]
    rcases (net.send kept req.toJson wait).run with e | r <;>
      refine ⟨?_, fun b hb => ?_, fun y hy => ?_, fun hnone => by cases hnone⟩ <;> simp_all

end Send

end PeerCache

/-! ## Runs of sends -/

/-- A send over the link: the campus, the request and the wait, with the network as it behaves
during that send. -/
structure PeerSend where
  campus : Campus
  request : Request
  wait : Nat
  net : Network Id

/-- The result of a send made on a cache, and the cache after it. -/
def PeerSend.on (registry : RegistryClient) (s : PeerSend) (c : PeerCache) :
    Except NetFault Response × PeerCache :=
  PeerCache.send s.net registry s.campus s.request s.wait c

namespace PeerCache

variable {registry : RegistryClient}

/-- The cache after sends made one after another from an empty cache. -/
def after (registry : RegistryClient) (sends : List PeerSend) : PeerCache :=
  sends.foldl (fun c s => (s.on registry c).2) {}

theorem after_snoc (sends : List PeerSend) (s : PeerSend) :
    after registry (sends ++ [s]) = (s.on registry (after registry sends)).2 := by
  simp [after, List.foldl_append]

/-- `a` is what the last lookup of `campus` along `sends` found: a send to the campus found no
address kept and located `a`, and every later send to the campus found an address kept. -/
def FoundAtLastLookup (registry : RegistryClient) (sends : List PeerSend) (campus : Campus)
    (a : SocketAddress) : Prop :=
  ∃ pre k post, sends = pre ++ k :: post ∧ k.campus = campus ∧
    (after registry pre).get? campus = none ∧ (locate k.net registry campus).run = .ok a ∧
    ∀ mid k' rest, post = mid ++ k' :: rest → k'.campus = campus →
      ((after registry (pre ++ k :: mid)).get? campus).isSome

/-- A send that finds no address kept and locates one makes it the last lookup's. -/
theorem found_of_located {sends : List PeerSend} {s : PeerSend} {a : SocketAddress}
    (hnone : (after registry sends).get? s.campus = none) (hl : (locate s.net registry s.campus).run = .ok a) :
    FoundAtLastLookup registry (sends ++ [s]) s.campus a :=
  ⟨sends, s, [], rfl, rfl, hnone, hl, fun mid k' rest h => absurd h.symm (by simp)⟩

/-- A later send that does not look the campus up keeps the last lookup as it was. -/
theorem FoundAtLastLookup.snoc {sends : List PeerSend} {campus : Campus} {a : SocketAddress}
    (hfound : FoundAtLastLookup registry sends campus a) (s : PeerSend)
    (hkept : s.campus = campus → ((after registry sends).get? campus).isSome) :
    FoundAtLastLookup registry (sends ++ [s]) campus a := by
  obtain ⟨pre, k, post, rfl, hk, hnone, hl, hlater⟩ := hfound
  refine ⟨pre, k, post ++ [s], by simp, hk, hnone, hl, fun mid k' rest heq hk' => ?_⟩
  -- the later send is either one of the old ones or the new one
  rcases List.eq_nil_or_concat rest with rfl | ⟨rest', z, rfl⟩
  · obtain ⟨rfl, hs⟩ := List.append_inj' heq rfl
    rw [List.singleton_inj] at hs
    subst hs
    exact hkept hk'
  · rw [List.concat_eq_append, ← List.cons_append, ← List.append_assoc] at heq
    obtain ⟨hpost, -⟩ := List.append_inj' heq rfl
    exact hlater mid k' rest' hpost hk'

/-- Along every run from an empty cache, an address kept for a campus is the one its last
lookup found. -/
theorem kept_found_at_last_lookup (sends : List PeerSend) {campus : Campus} {a : SocketAddress}
    (h : (after registry sends).get? campus = some a) : FoundAtLastLookup registry sends campus a := by
  induction sends using List.reverseRecOn generalizing a with
  | nil => simp [after] at h
  | append_singleton sends s ih =>
    rw [after_snoc, PeerSend.on] at h
    obtain ⟨-, hsource, hother, -⟩ :=
      send_spec s.net registry s.campus s.request s.wait (after registry sends)
    by_cases hc : s.campus = campus
    · subst hc
      rcases hsource a h with hkept | ⟨hnone, hl⟩
      · exact (ih hkept).snoc s fun _ => by simp [hkept]
      · exact found_of_located hnone hl
    · -- a send to another campus leaves this one's address alone
      rw [hother campus (Ne.symm hc)] at h
      exact (ih h).snoc s fun hs => absurd hs hc

/-- Over every run of sends made one after another from an empty cache, whatever the registry
answers and however each call turns out, a send to a campus leaves an address for it in the
cache exactly when it succeeded; that address is the one the last lookup of the campus found;
a send whose lookup fails (no entry, or no answer from the registry) keeps nothing and calls no
one; and the addresses of the other campuses stay as they were. -/
theorem cache_follows_sends (registry : RegistryClient) (sends : List PeerSend) (s : PeerSend) :
    (((s.on registry (after registry sends)).2.get? s.campus).isSome ↔
        ∃ r, (s.on registry (after registry sends)).1 = .ok r) ∧
    (∀ a, (s.on registry (after registry sends)).2.get? s.campus = some a →
        FoundAtLastLookup registry (sends ++ [s]) s.campus a) ∧
    (∀ y, y ≠ s.campus → (s.on registry (after registry sends)).2.get? y = (after registry sends).get? y) ∧
    ((after registry sends).get? s.campus = none → ∀ e, (locate s.net registry s.campus).run = .error e →
        s.on registry (after registry sends) = (.error e, after registry sends)) := by
  obtain ⟨hsome, -, hother, hunlocated⟩ :=
    send_spec s.net registry s.campus s.request s.wait (after registry sends)
  refine ⟨hsome, fun a ha => ?_, hother, hunlocated⟩
  rw [← after_snoc] at ha
  exact kept_found_at_last_lookup _ ha

/-! ## A peer found through the registry -/

/-- WST's inter-node entry in the example below: 127.0.0.1:5000. -/
def wstInterNode : RegistryEntry := ⟨.interNode, .wst, "127.0.0.1", 5000, "server"⟩

/-- The registry at 127.0.0.1:1024, as a node asks it. -/
def loopbackRegistry : RegistryClient := { target := "127.0.0.1:1024", timeout := 200 }

/-- A network on which the registry at 127.0.0.1:1024 names WST's entry and every other
address answers. -/
def answeringNet : Network Id where
  lookupName _ port := .ok (Network.loopback port)
  exchange a _ _ :=
    if a = Network.loopback 1024 then
      .ok { Response.ok .lookup wstInterNode.address "" with entry := some wstInterNode }
    else .ok (Response.ok .getAvailableTimeslots "0" "")

theorem newYear2021_first_le : firstDay ≤ 18628 := by decide

theorem newYear2021_le_last : (18628 : Int) ≤ lastDay := by decide

/-- A question to WST about its free slots on 2021-01-01, over the answering network. -/
def askWst : PeerSend :=
  ⟨.wst, .availableHere ⟨18628, newYear2021_first_le, newYear2021_le_last⟩, 300, answeringNet⟩

/-- From an empty cache, a question to WST looks WST up, calls 127.0.0.1:5000, succeeds, and
keeps that address as the one its lookup found. -/
theorem wst_located_and_kept :
    (after loopbackRegistry []).get? .wst = none ∧
      (locate answeringNet loopbackRegistry .wst).run = .ok (Network.loopback 5000) ∧
      (askWst.on loopbackRegistry (after loopbackRegistry [])).2.get? .wst = some (Network.loopback 5000) ∧
      (∃ r, (askWst.on loopbackRegistry (after loopbackRegistry [])).1 = .ok r) ∧
      FoundAtLastLookup loopbackRegistry ([] ++ [askWst]) .wst (Network.loopback 5000) := by
  have hkept : (askWst.on loopbackRegistry (after loopbackRegistry [])).2.get? .wst =
      some (Network.loopback 5000) := rfl
  obtain ⟨hok, hfound, -, -⟩ := cache_follows_sends loopbackRegistry [] askWst
  have hcampus : askWst.campus = .wst := rfl
  rw [hcampus] at hok hfound
  exact ⟨rfl, rfl, hkept, hok.mp (by rw [hkept]; rfl), hfound _ hkept⟩

end PeerCache

end CampusBooking
