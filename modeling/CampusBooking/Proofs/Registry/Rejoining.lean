import CampusBooking.Registry.Client
import CampusBooking.Proofs.Registry.History
import CampusBooking.Proofs.Wire.Datagrams

/-!
# Coming back on the same port

A node finds the port it listens on with `RegistryClient.ensureRegistered`: it looks its key
up, and only when nothing is published asks for a fresh port and publishes it.  This module
puts the client and the registry on one network and follows the three exchanges.

`RegistryHost` is the registry as its clients reach it: its directory, and for each datagram
it will serve a `Round` that says which other hosts register just before, which ports it draws
should it be asked for one, and when its answer is sent.  An answer reaches the client when
its datagram fits; a longer one is never sent and the client waits in vain, as for a request
the registry does not answer.  `RegistryHost.net` is a client's network with that registry at
one address.

* `exec_call_of_reaches` / `exec_call_cases`: a call is the registry's `handle` of the
  request, or fails before anything is sent; one lemma per request of the client follows.
* `ensure_ending`: the three ways an `ensureRegistered` ends (the key was published; a request
  failed and only other hosts registered; the registry took the client's entry), from which
  `ensure_ok` and `ensure_error` read what a returned port and a failure say.
* `lookup_later`: what the directory maps a key to, it maps the key to after any datagrams.
* `ensure_of_found`: once a key is published, `ensureRegistered` returns its port exactly when
  the registry's answer to the lookup reaches the client, and never another port.
* `ensure_registered_keeps_its_port` gathers these, and `loopback_node_gets_its_port_again`
  runs it.  The answer to a lookup is longer than the answer to the registration, so with a
  long host name the registration succeeds and no later lookup answer arrives:
  `long_host_registered_then_lost`.
-/

namespace CampusBooking

/-- What happens at the registry while it serves one datagram: the entries other hosts
register just before, the ports it draws should it be asked for one, and the time its answer
is sent. -/
structure Round where
  others : List RegistryEntry := []
  draws : List (UInt16 × Bool) := []
  sentAt : String := ""

/-- A registry as clients reach it over a network: its directory, and the rounds it will
serve, one per datagram. -/
structure RegistryHost where
  dir : Directory
  rounds : List Round

/-- An answer fits when its datagram has at most `maxDatagram` bytes. -/
def Response.Fits (r : Response) (sentAt : String) : Prop :=
  (r.toWire sentAt).text.utf8ByteSize ≤ maxDatagram

instance (r : Response) (sentAt : String) : Decidable (r.Fits sentAt) :=
  inferInstanceAs (Decidable (_ ≤ _))

/-- The registry's answer to a lookup of `kind` and `campus` that finds `found`. -/
def lookupAnswer (kind : ServiceKind) (campus : Campus) : Option RegistryEntry → Response
  | some e =>
    { Response.ok .lookup e.address (RegistryRequest.lookup kind campus).parameters with
      entry := some e }
  | none =>
    Response.fail .lookup .notFound ("No " ++ kind.name ++ " endpoint for " ++ campus.code)
      (RegistryRequest.lookup kind campus).parameters

/-- The registry's answer to a registration of `e`, taken or not. -/
def registerAnswer (e : RegistryEntry) (taken : Bool) : Response :=
  let what := e.campus.code ++ " " ++ e.kind.name ++ " at " ++ e.address
  if taken then Response.ok .register ("Registered " ++ what) (RegistryRequest.register e).parameters
  else Response.fail .register .alreadyExists ("Unable to register " ++ what)
    (RegistryRequest.register e).parameters

/-- The registry's answer to a request for a port that hands out `p`. -/
def portAnswer (p : UInt16) : Response :=
  { Response.ok .getAvailablePort (Text.decimal p.toNat) RegistryRequest.availablePort.parameters with
    port := some p }

namespace Directory

variable {d d' : Directory} {e : RegistryEntry} {k : ServiceKind} {c : Campus}

/-- Registers entries one after another, each under the first-writer rule. -/
def registerAll (d : Directory) (es : List RegistryEntry) : Directory :=
  es.foldl (fun d e => (d.register e).1) d

theorem lookup_registerAll_of_some (es : List RegistryEntry) (he : d.lookup k c = some e) :
    (d.registerAll es).lookup k c = some e := by
  induction es generalizing d with
  | nil => exact he
  | cons e' es ih => exact ih (lookup_register_of_some he e')

theorem lookup_of_entries_eq (h : d.entries = d'.entries) (k : ServiceKind) (c : Campus) :
    d.lookup k c = d'.lookup k c := by
  simp only [lookup, h]

/-- Whether a registration is taken, and what it publishes, depend on the entries alone: the
ports taken play no part. -/
theorem register_entries_congr (h : d.entries = d'.entries) (e : RegistryEntry) :
    (d.register e).1.entries = (d'.register e).1.entries := by
  unfold register
  rw [lookup_of_entries_eq h]
  split <;> simp [h]

theorem registerAll_entries_congr (h : d.entries = d'.entries) (es : List RegistryEntry) :
    (d.registerAll es).entries = (d'.registerAll es).entries := by
  induction es generalizing d d' with
  | nil => exact h
  | cons e es ih => exact ih (register_entries_congr h e)

/-- An answer publishes at most the entry of a registration, so a key the directory maps it
goes on mapping to the same entry. -/
theorem lookup_respond {draws : List (UInt16 × Bool)} {req : RegistryRequest} {r : Response}
    (hr : d.respond draws req = some (d', r)) (he : d.lookup k c = some e) :
    d'.lookup k c = some e := by
  unfold respond at hr
  split at hr
  · split at hr
    · cases hr
      exact he
    · rename_i e' _
      split at hr <;>
      · rename_i hreg
        obtain ⟨rfl, -⟩ := Prod.mk.inj (Option.some.inj hr)
        have := lookup_register_of_some he e'
        rwa [hreg] at this
  · split at hr
    · split at hr <;> (obtain ⟨rfl, -⟩ := Prod.mk.inj (Option.some.inj hr); exact he)
    · obtain ⟨rfl, -⟩ := Prod.mk.inj (Option.some.inj hr)
      exact he
  · obtain ⟨⟨p, d''⟩, hdraw, hpair⟩ := Option.map_eq_some_iff.mp hr
    obtain ⟨rfl, -⟩ := Prod.mk.inj hpair
    obtain ⟨-, -, rfl⟩ := drawPort_eq_some hdraw
    exact he

theorem lookup_answer {draws : List (UInt16 × Bool)} {payload : ByteArray} {r : Response}
    (hr : d.answer draws payload = some (d', r)) (he : d.lookup k c = some e) :
    d'.lookup k c = some e := by
  unfold answer at hr
  split at hr
  · exact lookup_respond hr he
  · obtain ⟨rfl, -⟩ := Prod.mk.inj (Option.some.inj hr)
    exact he

theorem respond_lookup_request (d : Directory) (draws : List (UInt16 × Bool)) (k : ServiceKind)
    (c : Campus) : d.respond draws (.lookup k c) = some (d, lookupAnswer k c (d.lookup k c)) := by
  unfold respond
  dsimp only [RegistryRequest.lookup]
  cases d.lookup k c <;> rfl

theorem respond_register_request (d : Directory) (draws : List (UInt16 × Bool)) (e : RegistryEntry) :
    d.respond draws (.register e) = some ((d.register e).1, registerAnswer e (d.register e).2) := by
  have hentry : RegistryRequest.entry?
      ⟨.register, some e.kind, some e.campus, some e.host, some e.port, some e.path⟩ = some e := rfl
  unfold respond
  dsimp only [RegistryRequest.register]
  rw [hentry]
  dsimp only
  rcases d.register e with ⟨d', _ | _⟩ <;> rfl

theorem respond_port_request (d : Directory) (draws : List (UInt16 × Bool)) :
    d.respond draws .availablePort = (d.drawPort draws).map fun (p, d') => (d', portAnswer p) := rfl

end Directory

/-- The fault a client reports for a call that gets no answer, or none it can use. -/
def RegistryClient.fault (c : RegistryClient) (e : NetFault) : NetFault :=
  .registry (c.name ++ " unreachable: " ++ e.message)

namespace RegistryHost

variable (names : String → UInt16 → Except NetFault SocketAddress) (addr : SocketAddress)

/-- The round the registry serves next; once the given rounds are over, nobody else
registers, no port is drawn and answers carry no time. -/
def next (h : RegistryHost) : Round := h.rounds.headD {}

/-- The host once the other hosts of its next round have registered and the round is over. -/
def pass (h : RegistryHost) : RegistryHost := ⟨h.dir.registerAll h.next.others, h.rounds.tail⟩

/-- The end of the next round, in which the directory, with the other hosts registered, gives
`answer`: the client gets an answer that fits, and waits in vain for any other. -/
def close (h : RegistryHost) (answer : Option (Directory × Response)) (wait : Nat) :
    Except NetFault Response × RegistryHost :=
  match answer with
  | none => (.error (.timeout wait), h.pass)
  | some (d, r) =>
    (if r.Fits h.next.sentAt then .ok r else .error (.timeout wait), { h.pass with dir := d })

/-- The registry serves the datagram `text` for a client that waits `wait` milliseconds. -/
def serve (text : String) (wait : Nat) : StateM RegistryHost (Except NetFault Response) :=
  fun h => h.close (h.pass.dir.answer h.next.draws text.toUTF8) wait

/-- The network of a client of the registry at `addr`: names resolve by `names`, a datagram to
`addr` is served by the registry, and one to any other address gets no answer. -/
def net : Network (StateM RegistryHost) where
  lookupName host port := pure (names host port)
  exchange a text wait := if a = addr then serve text wait else pure (.error (.timeout wait))

/-- The registry's handling of a request that reaches it. -/
def handle (h : RegistryHost) (req : RegistryRequest) (wait : Nat) :
    Except NetFault Response × RegistryHost :=
  h.close (h.pass.dir.respond h.next.draws req) wait

/-- Where a target `host:port` leads, when names resolve by `names`. -/
def resolution (target : String) : Except NetFault SocketAddress :=
  match Endpoint.parse target with
  | .error e => .error e
  | .ok (.address a) => .ok a
  | .ok (.named host port) => names host port

/-- Runs a client's computation against the registry host. -/
def exec {α : Type} (x : ExceptT NetFault (StateM RegistryHost) α) (h : RegistryHost) :
    Except NetFault α × RegistryHost :=
  x.run.run h

section Exec

variable {α β : Type}

@[simp] theorem exec_pure (a : α) (h : RegistryHost) :
    exec (pure a : ExceptT NetFault (StateM RegistryHost) α) h = (.ok a, h) := rfl

@[simp] theorem exec_throw (e : NetFault) (h : RegistryHost) :
    exec (throw e : ExceptT NetFault (StateM RegistryHost) α) h = (.error e, h) := rfl

@[simp] theorem exec_mk (x : StateM RegistryHost (Except NetFault α)) (h : RegistryHost) :
    exec (ExceptT.mk x) h = x.run h := rfl

@[simp] theorem exec_bind (x : ExceptT NetFault (StateM RegistryHost) α)
    (f : α → ExceptT NetFault (StateM RegistryHost) β) (h : RegistryHost) :
    exec (x >>= f) h = match exec x h with
      | (.ok a, h') => exec (f a) h'
      | (.error e, h') => (.error e, h') := by
  unfold exec
  simp only [ExceptT.run_bind, StateT.run_bind]
  rcases x.run.run h with ⟨_ | a, h'⟩ <;> rfl

@[simp] theorem exec_adapt (f : NetFault → NetFault) (x : ExceptT NetFault (StateM RegistryHost) α)
    (h : RegistryHost) : exec (ExceptT.adapt f x) h = ((exec x h).1.mapError f, (exec x h).2) := by
  unfold exec ExceptT.adapt
  rw [ExceptT.run_mk, StateT.run_map]
  rfl

end Exec

theorem exec_resolve (target : String) (h : RegistryHost) :
    exec ((net names addr).resolve target) h = (resolution names target, h) := by
  unfold Network.resolve resolution
  rcases Endpoint.parse target with e | a | ⟨host, port⟩ <;> rfl

theorem exec_send (a : SocketAddress) (message : Json.Value) (wait : Nat) (h : RegistryHost) :
    exec ((net names addr).send a message wait) h =
      match Datagram.encode message with
      | .error e => (.error e, h)
      | .ok text => if a = addr then (serve text wait).run h else (.error (.timeout wait), h) := by
  unfold Network.send
  rw [exec_bind, exec_mk]
  rcases Datagram.encode message with e | text
  · rfl
  · by_cases ha : a = addr <;> simp [net, ha] <;> rfl

/-- A datagram that holds a request is answered as the request. -/
theorem answer_encoded {req : RegistryRequest} {text : String}
    (htext : Datagram.encode req.toJson = .ok text) (d : Directory) (draws : List (UInt16 × Bool)) :
    d.answer draws text.toUTF8 = d.respond draws req := by
  have hread := Datagram.decode_encode_obj (by decide) (Wire.reads_readRegistryRequest req) htext 0
  simp only [Array.replicate_zero] at hread
  rw [Directory.answer, show text.toUTF8 = text.toUTF8 ++ ⟨#[]⟩ from
    ByteArray.append_empty.symm, hread]

theorem serve_run (text : String) (wait : Nat) (h : RegistryHost) :
    (serve text wait).run h = h.close (h.pass.dir.answer h.next.draws text.toUTF8) wait := by
  unfold serve
  rfl

theorem serve_encoded {req : RegistryRequest} {text : String}
    (htext : Datagram.encode req.toJson = .ok text) (wait : Nat) (h : RegistryHost) :
    (serve text wait).run h = h.handle req wait := by
  rw [serve_run, answer_encoded htext, handle]

variable {names addr}

/-- A call whose target resolves to the registry, with a request that fits a datagram, is the
registry's handling of the request. -/
theorem exec_call_of_reaches {c : RegistryClient} {req : RegistryRequest} {text : String}
    (hres : resolution names c.target = .ok addr) (htext : Datagram.encode req.toJson = .ok text)
    (h : RegistryHost) :
    exec (c.call (net names addr) req) h =
      ((h.handle req c.timeout).1.mapError c.fault, (h.handle req c.timeout).2) := by
  unfold RegistryClient.call Network.call
  rw [exec_adapt, exec_bind, exec_resolve, hres]
  dsimp only
  rw [exec_send, htext]
  simp only [if_pos, serve_encoded htext]
  rfl

/-- A call fails before anything reaches the registry, or its target resolves to the registry
and its request fits a datagram. -/
theorem exec_call_cases (c : RegistryClient) (req : RegistryRequest) (h : RegistryHost) :
    (∃ f, exec (c.call (net names addr) req) h = (.error f, h)) ∨
    (resolution names c.target = .ok addr ∧ ∃ text, Datagram.encode req.toJson = .ok text) := by
  unfold RegistryClient.call Network.call
  rw [exec_adapt, exec_bind, exec_resolve]
  rcases hres : resolution names c.target with e | a
  · exact .inl ⟨c.fault e, rfl⟩
  dsimp only
  rw [exec_send]
  rcases htext : Datagram.encode req.toJson with e | text
  · exact .inl ⟨c.fault e, rfl⟩
  by_cases ha : a = addr
  · exact .inr ⟨by rw [ha], text, rfl⟩
  · exact .inl ⟨c.fault (.timeout c.timeout), by simp only [ha, if_false]; rfl⟩

/-- Whatever follows a call that fails at once is not run. -/
theorem exec_call_bind_of_error {c : RegistryClient} {req : RegistryRequest} {h : RegistryHost}
    {f : NetFault} (hf : exec (c.call (net names addr) req) h = (.error f, h)) {α : Type}
    (k : Response → ExceptT NetFault (StateM RegistryHost) α) :
    exec (c.call (net names addr) req >>= k) h = (.error f, h) := by
  rw [exec_bind, hf]

/-! ### The client's three requests -/

theorem lookup_request_encodes (kind : ServiceKind) (campus : Campus) :
    Datagram.encode (RegistryRequest.lookup kind campus).toJson =
      .ok (RegistryRequest.lookup kind campus).toJson.text :=
  Datagram.encode_of_le (by cases kind <;> cases campus <;> decide +kernel)

theorem port_request_encodes :
    Datagram.encode RegistryRequest.availablePort.toJson =
      .ok RegistryRequest.availablePort.toJson.text :=
  Datagram.encode_of_le (by decide +kernel)

theorem registerAnswer_success (e : RegistryEntry) (taken : Bool) :
    (registerAnswer e taken).success = taken := by
  cases taken <;> rfl

/-- A lookup that reaches the registry gets what the directory maps the key to once the
other hosts of the round have registered, when the answer fits. -/
theorem exec_lookup_of_reaches {c : RegistryClient} (hres : resolution names c.target = .ok addr)
    (kind : ServiceKind) (campus : Campus) (h : RegistryHost) :
    exec (c.lookup (net names addr) kind campus) h =
      (if (lookupAnswer kind campus (h.pass.dir.lookup kind campus)).Fits h.next.sentAt then
        .ok (h.pass.dir.lookup kind campus)
      else .error (c.fault (.timeout c.timeout)), h.pass) := by
  unfold RegistryClient.lookup
  rw [exec_bind, exec_call_of_reaches hres (lookup_request_encodes kind campus)]
  unfold handle close
  rw [Directory.respond_lookup_request]
  dsimp only
  split_ifs
  · cases h.pass.dir.lookup kind campus <;> rfl
  · rfl

theorem exec_lookup_cases (c : RegistryClient) (kind : ServiceKind) (campus : Campus)
    (h : RegistryHost) :
    (∃ f, exec (c.lookup (net names addr) kind campus) h = (.error f, h)) ∨
    (resolution names c.target = .ok addr ∧
      exec (c.lookup (net names addr) kind campus) h =
        (if (lookupAnswer kind campus (h.pass.dir.lookup kind campus)).Fits h.next.sentAt then
          .ok (h.pass.dir.lookup kind campus)
        else .error (c.fault (.timeout c.timeout)), h.pass)) := by
  rcases exec_call_cases c (.lookup kind campus) h with ⟨f, hf⟩ | ⟨hres, -⟩
  · exact .inl ⟨f, exec_call_bind_of_error hf _⟩
  · exact .inr ⟨hres, exec_lookup_of_reaches hres kind campus h⟩

/-- A request for a port that reaches the registry gets the port it hands out, when the answer
fits; the directory takes the port whether the answer arrives or not. -/
theorem exec_availablePort_of_reaches {c : RegistryClient}
    (hres : resolution names c.target = .ok addr) (h : RegistryHost) :
    exec (c.availablePort (net names addr)) h =
      match h.pass.dir.drawPort h.next.draws with
      | none => (.error (c.fault (.timeout c.timeout)), h.pass)
      | some (p, d) =>
        (if (portAnswer p).Fits h.next.sentAt then .ok p else .error (c.fault (.timeout c.timeout)),
          { h.pass with dir := d }) := by
  unfold RegistryClient.availablePort
  rw [exec_bind, exec_call_of_reaches hres port_request_encodes]
  unfold handle close
  rw [Directory.respond_port_request]
  rcases h.pass.dir.drawPort h.next.draws with _ | ⟨p, d⟩
  · rfl
  · simp only [Option.map_some]
    split_ifs <;> rfl

/-- A registration that reaches the registry gets whether the directory took the entry, when
the answer fits; the directory publishes a taken entry whether the answer arrives or not. -/
theorem exec_register_of_reaches {c : RegistryClient} {e : RegistryEntry} {text : String}
    (hres : resolution names c.target = .ok addr)
    (htext : Datagram.encode (RegistryRequest.register e).toJson = .ok text) (h : RegistryHost) :
    exec (c.register (net names addr) e) h =
      (if (registerAnswer e (h.pass.dir.register e).2).Fits h.next.sentAt then
        .ok (h.pass.dir.register e).2
      else .error (c.fault (.timeout c.timeout)), { h.pass with dir := (h.pass.dir.register e).1 }) := by
  unfold RegistryClient.register
  rw [exec_bind, exec_call_of_reaches hres htext]
  unfold handle close
  rw [Directory.respond_register_request]
  dsimp only
  split_ifs
  · simp only [Except.mapError, exec_pure, registerAnswer_success]
  · rfl

theorem exec_register_cases (c : RegistryClient) (e : RegistryEntry) (h : RegistryHost) :
    (∃ f, exec (c.register (net names addr) e) h = (.error f, h)) ∨
    exec (c.register (net names addr) e) h =
      (if (registerAnswer e (h.pass.dir.register e).2).Fits h.next.sentAt then
        .ok (h.pass.dir.register e).2
      else .error (c.fault (.timeout c.timeout)), { h.pass with dir := (h.pass.dir.register e).1 }) := by
  rcases exec_call_cases c (.register e) h with ⟨f, hf⟩ | ⟨hres, text, htext⟩
  · exact .inl ⟨f, exec_call_bind_of_error hf _⟩
  · exact .inr (exec_register_of_reaches hres htext h)

/-! ### Rounds in which only other hosts register -/

/-- The host after `n` rounds in which only other hosts registered. -/
def passN (h : RegistryHost) : Nat → RegistryHost
  | 0 => h
  | n + 1 => (h.passN n).pass

/-- `h'` has what `h` has after some rounds in which only other hosts registered: the same
rounds to come and the same entries. -/
def OthersOnly (h h' : RegistryHost) : Prop :=
  ∃ n, h'.rounds = (h.passN n).rounds ∧ h'.dir.entries = (h.passN n).dir.entries

section OthersOnly

variable {h h' h'' : RegistryHost}

theorem othersOnly_refl (h : RegistryHost) : OthersOnly h h := ⟨0, rfl, rfl⟩

theorem OthersOnly.congr (ho : OthersOnly h h') (hr : h''.rounds = h'.rounds)
    (he : h''.dir.entries = h'.dir.entries) : OthersOnly h h'' := by
  obtain ⟨n, hr', he'⟩ := ho
  exact ⟨n, hr.trans hr', he.trans he'⟩

theorem OthersOnly.pass (ho : OthersOnly h h') : OthersOnly h h'.pass := by
  obtain ⟨n, hr, he⟩ := ho
  have hnext : h'.next = (h.passN n).next := by simp only [next, hr]
  refine ⟨n + 1, by simp only [passN, RegistryHost.pass, hr], ?_⟩
  simp only [passN, RegistryHost.pass, hnext]
  exact Directory.registerAll_entries_congr he _

/-- A request for a port publishes nothing, whatever comes of it. -/
theorem OthersOnly.availablePort (ho : OthersOnly h h') (c : RegistryClient) :
    OthersOnly h (exec (c.availablePort (net names addr)) h').2 := by
  rcases exec_call_cases c .availablePort h' with ⟨f, hf⟩ | ⟨hres, -⟩
  · unfold RegistryClient.availablePort
    rw [exec_call_bind_of_error hf]
    exact ho
  rw [exec_availablePort_of_reaches hres h']
  rcases hdraw : h'.pass.dir.drawPort h'.next.draws with _ | ⟨p, d⟩
  · exact ho.pass
  · obtain ⟨-, -, rfl⟩ := Directory.drawPort_eq_some hdraw
    exact ho.pass.congr rfl rfl

end OthersOnly

/-- How an `ensureRegistered` of `kind`, `campus`, `host` and `path` by client `c` from host
`h` can end. -/
inductive Ending (c : RegistryClient) (h : RegistryHost) (kind : ServiceKind) (campus : Campus)
    (host path : String) : Except NetFault UInt16 × RegistryHost → Prop
  /-- The key was published: its port is returned. -/
  | found {e : RegistryEntry} : h.pass.dir.lookup kind campus = some e →
      Ending c h kind campus host path (.ok e.port, h.pass)
  /-- A request failed or was refused, and only other hosts registered. -/
  | failed {f : NetFault} {h' : RegistryHost} : OthersOnly h h' →
      Ending c h kind campus host path (.error f, h')
  /-- The registry took the client's entry for a fresh port `p`, which is returned when the
  answer fits. -/
  | took {p : UInt16} {h₂ : RegistryHost} : OthersOnly h h₂ →
      (h₂.pass.dir.register ⟨kind, campus, host, p, path⟩).2 = true →
      Ending c h kind campus host path
        (if (registerAnswer ⟨kind, campus, host, p, path⟩ true).Fits h₂.next.sentAt then .ok p
          else .error (c.fault (.timeout c.timeout)),
          { h₂.pass with dir := (h₂.pass.dir.register ⟨kind, campus, host, p, path⟩).1 })

theorem ensure_ending (c : RegistryClient) (kind : ServiceKind) (campus : Campus)
    (host path : String) (h : RegistryHost) :
    Ending c h kind campus host path
      (exec (c.ensureRegistered (net names addr) kind campus host path) h) := by
  unfold RegistryClient.ensureRegistered
  rw [exec_bind]
  rcases exec_lookup_cases c kind campus h with ⟨f, hl⟩ | ⟨-, hl⟩
  · rw [hl]
    exact .failed (othersOnly_refl h)
  rw [hl]
  by_cases hfit : (lookupAnswer kind campus (h.pass.dir.lookup kind campus)).Fits h.next.sentAt
  swap
  · rw [if_neg hfit]
    exact .failed (othersOnly_refl h).pass
  rw [if_pos hfit]
  rcases hfound : h.pass.dir.lookup kind campus with _ | e
  swap
  · exact .found hfound
  -- nothing is published yet: a fresh port, then its registration
  dsimp only
  rw [exec_bind]
  have hport : OthersOnly h (exec (c.availablePort (net names addr)) h.pass).2 :=
    (othersOnly_refl h).pass.availablePort c
  rcases hp : exec (c.availablePort (net names addr)) h.pass with ⟨f | p, h₁⟩
  · rw [hp] at hport
    exact .failed hport
  rw [hp] at hport
  dsimp only
  rw [exec_bind]
  rcases exec_register_cases c ⟨kind, campus, host, p, path⟩ h₁ with ⟨f, hr⟩ | hr
  · rw [hr]
    exact .failed hport
  rw [hr]
  rcases htaken : (h₁.pass.dir.register ⟨kind, campus, host, p, path⟩).2 with _ | _
  · -- the registry refused the entry: the directory is as the other hosts left it
    have hquiet : OthersOnly h
        { h₁.pass with dir := (h₁.pass.dir.register ⟨kind, campus, host, p, path⟩).1 } :=
      hport.pass.congr rfl (by rw [Directory.register_fst_of_refused htaken])
    split_ifs
    · exact .failed hquiet
    · exact .failed hquiet
  · have htook := @Ending.took c h kind campus host path p h₁ hport htaken
    split_ifs with hfits
    · rwa [if_pos hfits] at htook
    · rwa [if_neg hfits] at htook

theorem ensure_ok {c : RegistryClient} {h : RegistryHost} {kind : ServiceKind} {campus : Campus}
    {host path : String} {run : Except NetFault UInt16 × RegistryHost} {p : UInt16}
    (hend : Ending c h kind campus host path run) (hp : run.1 = .ok p) :
    ∃ e : RegistryEntry, e.port = p ∧ run.2.dir.lookup kind campus = some e := by
  cases hend with
  | found he =>
    cases hp
    exact ⟨_, rfl, he⟩
  | failed _ => cases hp
  | @took p' h₂ _ htaken =>
    have hp' : p' = p := by
      split_ifs at hp
      · exact Except.ok.inj hp
    subst hp'
    have hnone : h₂.pass.dir.lookup kind campus = none := by
      simpa [Directory.register_snd] using htaken
    refine ⟨⟨kind, campus, host, p', path⟩, rfl, ?_⟩
    simp [Directory.lookup_register, hnone]

theorem ensure_error {c : RegistryClient} {h : RegistryHost} {kind : ServiceKind} {campus : Campus}
    {host path : String} {run : Except NetFault UInt16 × RegistryHost} {f : NetFault}
    (hend : Ending c h kind campus host path run) (hf : run.1 = .error f) :
    OthersOnly h run.2 ∨
      ∃ p h₂, OthersOnly h h₂ ∧ (h₂.pass.dir.register ⟨kind, campus, host, p, path⟩).2 = true ∧
        run.2 = { h₂.pass with dir := (h₂.pass.dir.register ⟨kind, campus, host, p, path⟩).1 } ∧
        ¬ (registerAnswer ⟨kind, campus, host, p, path⟩ true).Fits h₂.next.sentAt := by
  cases hend with
  | found _ => cases hf
  | failed ho => exact .inl ho
  | @took p h₂ ho htaken =>
    refine .inr ⟨p, h₂, ho, htaken, rfl, fun hfits => ?_⟩
    rw [if_pos hfits] at hf
    cases hf

/-! ### Later datagrams -/

/-- `h'` is the host once the registry has served datagrams one after another from `h`. -/
inductive Later : RegistryHost → RegistryHost → Prop
  | refl (h : RegistryHost) : Later h h
  | serve {h h' : RegistryHost} (text : String) (wait : Nat) :
      Later ((serve text wait).run h).2 h' → Later h h'

theorem lookup_pass {h : RegistryHost} {kind : ServiceKind} {campus : Campus} {e : RegistryEntry}
    (he : h.dir.lookup kind campus = some e) : h.pass.dir.lookup kind campus = some e :=
  Directory.lookup_registerAll_of_some _ he

theorem lookup_serve {h : RegistryHost} {kind : ServiceKind} {campus : Campus} {e : RegistryEntry}
    (he : h.dir.lookup kind campus = some e) (text : String) (wait : Nat) :
    ((serve text wait).run h).2.dir.lookup kind campus = some e := by
  rw [serve_run]
  unfold close
  rcases hans : h.pass.dir.answer h.next.draws text.toUTF8 with _ | ⟨d, r⟩
  · exact lookup_pass he
  · exact Directory.lookup_answer hans (lookup_pass he)

/-- What the directory maps a key to, it maps the key to after any later datagrams. -/
theorem lookup_later {h h' : RegistryHost} (hl : Later h h') {kind : ServiceKind}
    {campus : Campus} {e : RegistryEntry} (he : h.dir.lookup kind campus = some e) :
    h'.dir.lookup kind campus = some e := by
  induction hl with
  | refl => exact he
  | serve text wait _ ih => exact ih (lookup_serve he text wait)

/-! ### A key already published -/

theorem exec_ensure_of_found {c : RegistryClient} (hres : resolution names c.target = .ok addr)
    {h : RegistryHost} {kind : ServiceKind} {campus : Campus} {e : RegistryEntry}
    (he : h.dir.lookup kind campus = some e) (host path : String) :
    exec (c.ensureRegistered (net names addr) kind campus host path) h =
      (if (lookupAnswer kind campus (some e)).Fits h.next.sentAt then .ok e.port
        else .error (c.fault (.timeout c.timeout)), h.pass) := by
  unfold RegistryClient.ensureRegistered
  rw [exec_bind, exec_lookup_of_reaches hres, lookup_pass he]
  split_ifs <;> rfl

theorem exec_ensure_of_unreached {c : RegistryClient} (hres : resolution names c.target ≠ .ok addr)
    (kind : ServiceKind) (campus : Campus) (host path : String) (h : RegistryHost) :
    ∃ f, exec (c.ensureRegistered (net names addr) kind campus host path) h = (.error f, h) := by
  obtain ⟨f, hl⟩ := (exec_lookup_cases c kind campus h).resolve_right fun ⟨hr, _⟩ => hres hr
  refine ⟨f, ?_⟩
  unfold RegistryClient.ensureRegistered
  rw [exec_bind, hl]

/-- Once a key is published, `ensureRegistered` returns the port of its entry exactly when its
target leads to the registry and the answer to its lookup fits a datagram, and fails
otherwise. -/
theorem ensure_of_found {h : RegistryHost} {kind : ServiceKind} {campus : Campus}
    {e : RegistryEntry} (he : h.dir.lookup kind campus = some e) (c : RegistryClient)
    (host path : String) :
    let again := (exec (c.ensureRegistered (net names addr) kind campus host path) h).1
    (again = .ok e.port ↔ resolution names c.target = .ok addr ∧
      (lookupAnswer kind campus (some e)).Fits h.next.sentAt) ∧
    ∀ q, again = .ok q → q = e.port := by
  intro again
  by_cases hres : resolution names c.target = .ok addr
  · have hagain : again = if (lookupAnswer kind campus (some e)).Fits h.next.sentAt then
        .ok e.port else .error (c.fault (.timeout c.timeout)) := by
      simp only [again, exec_ensure_of_found hres he]
    by_cases hfits : (lookupAnswer kind campus (some e)).Fits h.next.sentAt
    · rw [if_pos hfits] at hagain
      rw [hagain]
      exact ⟨iff_of_true rfl ⟨hres, hfits⟩, fun q hq => (Except.ok.inj hq).symm⟩
    · rw [if_neg hfits] at hagain
      rw [hagain]
      exact ⟨iff_of_false (fun h => nomatch h) fun ⟨_, h⟩ => hfits h, fun q hq => nomatch hq⟩
  · obtain ⟨f, hf⟩ := exec_ensure_of_unreached hres kind campus host path h
    have hagain : again = .error f := by simp only [again, hf]
    rw [hagain]
    exact ⟨iff_of_false (fun h => nomatch h) fun ⟨h, _⟩ => hres h, fun q hq => nomatch hq⟩

/-- From a host where nothing is published under the key, a client that reaches the registry,
is handed a port `p` and has its entry taken, with every answer fitting a datagram, gets `p`. -/
theorem exec_ensure_fresh {c : RegistryClient} (hres : resolution names c.target = .ok addr)
    {h : RegistryHost} {kind : ServiceKind} {campus : Campus} {host path : String} {p : UInt16}
    {d : Directory} {text : String}
    (hnone : h.pass.dir.lookup kind campus = none)
    (hmissing : (lookupAnswer kind campus none).Fits h.next.sentAt)
    (hdraw : h.pass.pass.dir.drawPort h.pass.next.draws = some (p, d))
    (hport : (portAnswer p).Fits h.pass.next.sentAt)
    (htext : Datagram.encode (RegistryRequest.register ⟨kind, campus, host, p, path⟩).toJson = .ok text)
    (hfree : (⟨d, h.pass.pass.rounds⟩ : RegistryHost).pass.dir.lookup kind campus = none)
    (hreg : (registerAnswer ⟨kind, campus, host, p, path⟩ true).Fits h.pass.pass.next.sentAt) :
    ∃ h', exec (c.ensureRegistered (net names addr) kind campus host path) h = (.ok p, h') ∧
      h'.dir.lookup kind campus = some ⟨kind, campus, host, p, path⟩ ∧
      h'.rounds = h.pass.pass.pass.rounds := by
  -- the host once the port is taken, before the registration's round, is `⟨d, _⟩`
  have htaken : ((⟨d, h.pass.pass.rounds⟩ : RegistryHost).pass.dir.register
      ⟨kind, campus, host, p, path⟩).2 = true := by
    rw [Directory.register_snd, hfree]
    rfl
  have hreg' : (registerAnswer ⟨kind, campus, host, p, path⟩ true).Fits
      (⟨d, h.pass.pass.rounds⟩ : RegistryHost).next.sentAt := hreg
  refine ⟨{ (⟨d, h.pass.pass.rounds⟩ : RegistryHost).pass with
    dir := ((⟨d, h.pass.pass.rounds⟩ : RegistryHost).pass.dir.register
      ⟨kind, campus, host, p, path⟩).1 }, ?_, ?_, rfl⟩
  · unfold RegistryClient.ensureRegistered
    rw [exec_bind, exec_lookup_of_reaches hres, hnone, if_pos hmissing]
    dsimp only
    rw [exec_bind, exec_availablePort_of_reaches hres, hdraw]
    dsimp only
    rw [if_pos hport]
    dsimp only
    rw [exec_bind, exec_register_of_reaches hres htext, htaken, if_pos hreg']
    rfl
  · simp [Directory.lookup_register, hfree]

/-! ### Coming back on the same port -/

/-- A port that `ensureRegistered` returns is the port of the entry the directory maps the key
to, then and after any later datagrams; every later `ensureRegistered` of the key, by any
client, returns that port exactly when its target leads to the registry and the answer to its
lookup fits a datagram, and returns no other port.  A failure publishes no entry of the
client's, unless the registry took its registration and the answer to that did not fit. -/
theorem ensure_registered_keeps_its_port (names : String → UInt16 → Except NetFault SocketAddress)
    (addr : SocketAddress) (c : RegistryClient) (h : RegistryHost) (kind : ServiceKind)
    (campus : Campus) (host path : String) :
    let run := exec (c.ensureRegistered (net names addr) kind campus host path) h
    (∀ p, run.1 = .ok p → ∃ e : RegistryEntry, e.port = p ∧ ∀ h₂, Later run.2 h₂ →
      h₂.dir.lookup kind campus = some e ∧
      ∀ (c' : RegistryClient) (host' path' : String),
        let again := (exec (c'.ensureRegistered (net names addr) kind campus host' path') h₂).1
        (again = .ok p ↔ resolution names c'.target = .ok addr ∧
          (lookupAnswer kind campus (some e)).Fits h₂.next.sentAt) ∧
        ∀ q, again = .ok q → q = p) ∧
    (∀ f, run.1 = .error f → OthersOnly h run.2 ∨
      ∃ p h₂, OthersOnly h h₂ ∧ (h₂.pass.dir.register ⟨kind, campus, host, p, path⟩).2 = true ∧
        run.2 = { h₂.pass with dir := (h₂.pass.dir.register ⟨kind, campus, host, p, path⟩).1 } ∧
        ¬ (registerAnswer ⟨kind, campus, host, p, path⟩ true).Fits h₂.next.sentAt) := by
  intro run
  have hend : Ending c h kind campus host path run := ensure_ending c kind campus host path h
  refine ⟨fun p hp => ?_, fun f hf => ensure_error hend hf⟩
  obtain ⟨e, rfl, he⟩ := ensure_ok hend hp
  refine ⟨e, rfl, fun h₂ hlater => ⟨lookup_later hlater he, fun c' host' path' => ?_⟩⟩
  exact ensure_of_found (lookup_later hlater he) c' host' path'

/-! ### A node on the loopback interface -/

/-- A client of the registry on loopback port 5000. -/
def loopbackClient : RegistryClient := { target := "127.0.0.1:5000", timeout := 200 }

/-- A resolver that knows no names. -/
def noNames (_ : String) (_ : UInt16) : Except NetFault SocketAddress :=
  .error (.io Network.unknownName)

/-- A registry with nothing published that hands out ports from 30000 on, draws 30000
whenever it is asked for a port, and answers at noon on New Year's Day 2021. -/
def noonRegistry : RegistryHost :=
  ⟨Directory.empty 30000 60000,
    List.replicate 4 { draws := [(30000, true)], sentAt := "2021-01-01T12:00:00Z" }⟩

theorem loopback_resolution :
    resolution noNames loopbackClient.target = .ok (Network.loopback 5000) := rfl

/-- From `noonRegistry`, a loopback client whose registration, and the answer to it, fit a
datagram gets port 30000; the registry then maps the key to the client's entry and answers the
next datagram at noon. -/
theorem noon_first_run {host path text : String}
    (htext : Datagram.encode
      (RegistryRequest.register ⟨.interNode, .dvl, host, 30000, path⟩).toJson = .ok text)
    (hreg : (registerAnswer ⟨.interNode, .dvl, host, 30000, path⟩ true).Fits "2021-01-01T12:00:00Z") :
    ∃ st, exec (loopbackClient.ensureRegistered (net noNames (Network.loopback 5000))
        .interNode .dvl host path) noonRegistry = (.ok 30000, st) ∧
      st.dir.lookup .interNode .dvl = some ⟨.interNode, .dvl, host, 30000, path⟩ ∧
      st.next.sentAt = "2021-01-01T12:00:00Z" := by
  have hnone : noonRegistry.pass.dir.lookup .interNode .dvl = none := rfl
  have hdraw : noonRegistry.pass.pass.dir.drawPort noonRegistry.pass.next.draws =
      some (30000, { noonRegistry.pass.pass.dir with taken := [30000] }) := rfl
  obtain ⟨st, hfirst, hpublished, hrounds⟩ := exec_ensure_fresh loopback_resolution hnone
    (by decide +kernel) hdraw (by decide +kernel) htext rfl hreg
  refine ⟨st, hfirst, hpublished, ?_⟩
  rw [next, hrounds]
  rfl

/-- A node registered on the loopback interface gets port 30000, and asking again gets 30000
again. -/
theorem loopback_node_gets_its_port_again :
    let first := exec (loopbackClient.ensureRegistered (net noNames (Network.loopback 5000))
      .interNode .dvl "127.0.0.1" "server") noonRegistry
    first.1 = .ok 30000 ∧
      (exec (loopbackClient.ensureRegistered (net noNames (Network.loopback 5000))
        .interNode .dvl "127.0.0.1" "server") first.2).1 = .ok 30000 := by
  have htext : Datagram.encode
      (RegistryRequest.register ⟨.interNode, .dvl, "127.0.0.1", 30000, "server"⟩).toJson =
      .ok (RegistryRequest.register ⟨.interNode, .dvl, "127.0.0.1", 30000, "server"⟩).toJson.text :=
    Datagram.encode_of_le (by decide +kernel)
  obtain ⟨st, hfirst, hpublished, hnoon⟩ := noon_first_run htext (by decide +kernel)
  obtain ⟨e, -, hlater⟩ := (ensure_registered_keeps_its_port noNames (Network.loopback 5000)
    loopbackClient noonRegistry .interNode .dvl "127.0.0.1" "server").1 30000 (by rw [hfirst])
  obtain ⟨hlookup, hagain⟩ := hlater st (by rw [hfirst]; exact .refl st)
  obtain rfl : e = ⟨.interNode, .dvl, "127.0.0.1", 30000, "server"⟩ :=
    Option.some.inj (hlookup.symm.trans hpublished)
  have hfits : (lookupAnswer .interNode .dvl (some ⟨.interNode, .dvl, "127.0.0.1", 30000, "server"⟩)).Fits
      st.next.sentAt := by
    rw [hnoon]
    decide +kernel
  dsimp only
  rw [hfirst]
  exact ⟨rfl, (hagain loopbackClient "127.0.0.1" "server").1.mpr ⟨loopback_resolution, hfits⟩⟩

/-! ### How long the answers are

An entry's host stands once in a registration and twice in each answer that carries the entry:
in the answer to its registration, in the message and the parameters; in the answer to a
lookup that finds it, in the message and the entry itself. -/

theorem register_parameters (e : RegistryEntry) :
    (RegistryRequest.register e).parameters = "Type: " ++ e.kind.name ++ " | Campus: " ++
      e.campus.code ++ " | Host: " ++ e.host ++ " | Port: " ++ Text.decimal e.port.toNat ++
      " | Path: " ++ e.path := rfl

section Sizes

open Json

variable (kind : ServiceKind) (campus : Campus) (host : String) (port : UInt16) (path : String)

theorem registerRequest_size :
    (RegistryRequest.register ⟨kind, campus, host, port, path⟩).toJson.text.utf8ByteSize =
      (RegistryRequest.register ⟨kind, campus, "", port, path⟩).toJson.text.utf8ByteSize +
        (host.toList.flatMap escapedBytes).length := by
  rw [← length_bytes, ← length_bytes]
  simp only [RegistryRequest.register, RegistryRequest.toJson, Value.bytes_obj]
  simp [commaJoin, Value.memberBytes, Value.bytes_str]
  omega

theorem registerAnswer_size (taken : Bool) (sentAt : String) :
    ((registerAnswer ⟨kind, campus, host, port, path⟩ taken).toWire sentAt).text.utf8ByteSize =
      ((registerAnswer ⟨kind, campus, "", port, path⟩ taken).toWire sentAt).text.utf8ByteSize +
        2 * (host.toList.flatMap escapedBytes).length := by
  rw [← length_bytes, ← length_bytes]
  cases taken <;>
  · simp only [registerAnswer, Response.toWire, Response.ok, Response.fail, Response.details,
      register_parameters, Value.bytes_obj]
    simp [commaJoin, Value.memberBytes, Value.bytes_str, Value.bytes_true, Value.bytes_false,
      RegistryEntry.address]
    omega

theorem lookupAnswer_size (k : ServiceKind) (c : Campus) (sentAt : String) :
    ((lookupAnswer k c (some ⟨kind, campus, host, port, path⟩)).toWire sentAt).text.utf8ByteSize =
      ((lookupAnswer k c (some ⟨kind, campus, "", port, path⟩)).toWire sentAt).text.utf8ByteSize +
        2 * (host.toList.flatMap escapedBytes).length := by
  rw [← length_bytes, ← length_bytes]
  simp only [lookupAnswer, Response.toWire, Response.ok, Response.details, Value.bytes_obj,
    RegistryEntry.toJson]
  simp [commaJoin, Value.memberBytes, Value.bytes_obj, Value.bytes_str, Value.bytes_true,
    RegistryEntry.address]
  omega

/-- A host of `n` letters takes `n` bytes. -/
theorem letters_size (n : Nat) :
    ((String.ofList (List.replicate n 'h')).toList.flatMap escapedBytes).length = n := by
  have hh : (escapedBytes 'h').length = 1 := by decide +kernel
  rw [String.toList_ofList, List.length_flatMap, List.map_replicate, hh, List.sum_replicate,
    smul_eq_mul, mul_one]

end Sizes

/-! ### A host name too long for the lookup's answer -/

/-- A host name of 390 letters. -/
def longHost : String := String.ofList (List.replicate 390 'h')

/-- With a host name of 390 letters, the registration's answer fits a datagram and the first
`ensureRegistered` returns port 30000, but the answer to the lookup is longer and never sent:
the same `ensureRegistered` again fails. -/
theorem long_host_registered_then_lost :
    let first := exec (loopbackClient.ensureRegistered (net noNames (Network.loopback 5000))
      .interNode .dvl longHost "") noonRegistry
    first.1 = .ok 30000 ∧
      ∃ f, (exec (loopbackClient.ensureRegistered (net noNames (Network.loopback 5000))
        .interNode .dvl longHost "") first.2).1 = .error f := by
  -- each text is measured without the host, which is counted apart: no text holding the long
  -- host is ever computed
  have hletters : (longHost.toList.flatMap Json.escapedBytes).length = 390 := letters_size 390
  have htext : Datagram.encode (RegistryRequest.register ⟨.interNode, .dvl, longHost, 30000, ""⟩).toJson =
      .ok (RegistryRequest.register ⟨.interNode, .dvl, longHost, 30000, ""⟩).toJson.text := by
    have hbase : (RegistryRequest.register ⟨.interNode, .dvl, "", 30000, ""⟩).toJson.text.utf8ByteSize =
        97 := by decide +kernel
    refine Datagram.encode_of_le ?_
    rw [registerRequest_size, hletters, hbase]
    decide
  -- the registration's answer takes 197 + 780 bytes, the lookup's 250 + 780
  have hregistered : (registerAnswer ⟨.interNode, .dvl, longHost, 30000, ""⟩ true).Fits
      "2021-01-01T12:00:00Z" := by
    have hbase : ((registerAnswer ⟨.interNode, .dvl, "", 30000, ""⟩ true).toWire
        "2021-01-01T12:00:00Z").text.utf8ByteSize = 197 := by decide +kernel
    unfold Response.Fits
    rw [registerAnswer_size, hletters, hbase]
    decide
  have hfound : ¬ (lookupAnswer .interNode .dvl (some ⟨.interNode, .dvl, longHost, 30000, ""⟩)).Fits
      "2021-01-01T12:00:00Z" := by
    have hbase : ((lookupAnswer .interNode .dvl (some ⟨.interNode, .dvl, "", 30000, ""⟩)).toWire
        "2021-01-01T12:00:00Z").text.utf8ByteSize = 250 := by decide +kernel
    unfold Response.Fits
    rw [lookupAnswer_size, hletters, hbase]
    decide
  -- the first run publishes the entry; the second finds it, but its answer is never sent
  obtain ⟨st, hfirst, hpublished, hnoon⟩ := noon_first_run htext hregistered
  dsimp only
  rw [hfirst, exec_ensure_of_found loopback_resolution hpublished, hnoon, if_neg hfound]
  exact ⟨rfl, _, rfl⟩

end RegistryHost

end CampusBooking
