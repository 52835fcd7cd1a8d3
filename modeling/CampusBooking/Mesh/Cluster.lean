import CampusBooking.Wire.Response
import CampusBooking.Store.Basic

/-!
# A cluster of campus nodes

A cluster holds one store per campus, the campuses whose nodes are running, and the
settings every node shares: the weekly quota and how long a node waits for a peer.  The
nodes reach each other over a link that carries a request to the node of another campus.
Rules may make the link fail a call: as if the campus could not be reached, as if no
reply came in time, or as if the campus declined.

A booking takes a new id from the cluster's id source: a sequence of ids fixed when the
cluster starts, of which the cluster has drawn the first `drawn`.  The source stands for
random version-4 UUIDs; the only thing the theory asks of it is that the ids drawn are
different from one another.

A request is handled in `ClusterM`: it reads and changes the stores and may halt the
program; a halt keeps the stores as they were when it happened.
-/

namespace CampusBooking

/-- How a node was reached: by a client, or by another node. -/
inductive Channel where
  | client
  | interNode
  deriving DecidableEq, Repr

/-- The name of a channel in messages. -/
def Channel.name : Channel → String
  | .client => "Client"
  | .interNode => "InterNode"

/-- How the link fails a call. -/
inductive LinkFailure where
  /-- The target campus cannot be reached. -/
  | unreachable
  /-- No reply comes within the time the caller waits. -/
  | timeout
  /-- The target campus answers that it refuses. -/
  | decline
  deriving DecidableEq, Repr

/-- A rule of the link: calls from `source` to `target` asking for `action` fail as
`failure`; a missing part matches every call. -/
structure LinkRule where
  source : Option Campus := none
  target : Option Campus := none
  action : Option Action := none
  failure : LinkFailure
  deriving DecidableEq

/-- Whether a rule applies to a call. -/
def LinkRule.applies (r : LinkRule) (src dst : Campus) (a : Action) : Bool :=
  r.source.all (· = src) && r.target.all (· = dst) && r.action.all (· = a)

/-- How the first rule that applies to a call makes it fail, if one applies. -/
def LinkRule.failureOf (rules : List LinkRule) (src dst : Campus) (a : Action) :
    Option LinkFailure :=
  (rules.find? (·.applies src dst a)).map (·.failure)

/-- The stores of the campuses and what the nodes share. -/
structure Cluster where
  stores : Campus → Store
  /-- The campuses whose nodes are running. -/
  up : List Campus
  rules : List LinkRule := []
  /-- Bookings a student may hold in a week, over all campuses. -/
  quota : UInt32
  /-- How long a node waits for a peer, in milliseconds. -/
  peerTimeout : Nat
  /-- The id source: the id of the `n`-th booking the cluster makes. -/
  ids : Nat → Uuid
  /-- How many ids the cluster has drawn from its source. -/
  drawn : Nat := 0

/-- A step of a cluster: it may change the stores, or halt. -/
abbrev ClusterM := ExceptT Halt (StateM Cluster)

namespace Cluster

/-- A cluster of empty stores that takes its booking ids from `ids`. -/
def start (up : List Campus) (quota : UInt32) (peerTimeout : Nat) (ids : Nat → Uuid) : Cluster :=
  { stores := Store.empty, up, quota, peerTimeout, ids }

/-- How long a node waits for a forwarded request: twice the peer timeout, and a margin. -/
def forwardTimeout (w : Cluster) : Nat := 2 * w.peerTimeout + 250

/-- The store of a campus. -/
def storeOf (c : Campus) : ClusterM Store := do
  pure ((← get).stores c)

/-- Replaces the store of a campus. -/
def setStore (c : Campus) (s : Store) : ClusterM Unit :=
  modify fun w => { w with stores := fun d => if d = c then s else w.stores d }

/-- Stops the program. -/
def halt (h : Halt) : ClusterM α := throw h

/-- The value of a computation that may halt. -/
def orHalt (r : Except Halt α) : ClusterM α :=
  match r with
  | .ok a => pure a
  | .error h => halt h

end Cluster

end CampusBooking
