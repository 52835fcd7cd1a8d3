import CampusBooking.Fault
import CampusBooking.Text.Blank

/-!
# Campuses and service kinds

There are three campuses, ordered `DVL < KKL < WST`; each owns its own rooms and
bookings.  A campus is written by its upper-case code and read from its code in any
ASCII case, with blanks around it.  The registry publishes two kinds of endpoint per
campus: the client-facing `directory` (also read as `web`) and the campus-to-campus
`inter-node` (also read as `udp`).
-/

namespace CampusBooking

/-- One of the three campuses. -/
inductive Campus where
  | dvl
  | kkl
  | wst
  deriving DecidableEq, Repr, Ord, Inhabited

namespace Campus

/-- All campuses, in their order. -/
def all : List Campus := [.dvl, .kkl, .wst]

/-- The upper-case code of a campus. -/
def code : Campus → String
  | .dvl => "DVL"
  | .kkl => "KKL"
  | .wst => "WST"

instance : ToString Campus := ⟨code⟩

/-- The position of a campus in the order `DVL < KKL < WST`. -/
def rank : Campus → Nat
  | .dvl => 0
  | .kkl => 1
  | .wst => 2

instance : LT Campus := ⟨fun a b => a.rank < b.rank⟩

instance (a b : Campus) : Decidable (a < b) := inferInstanceAs (Decidable (a.rank < b.rank))

/-- The other two campuses, in order. -/
def peers (c : Campus) : List Campus := all.filter (· ≠ c)

/-- Reads a campus code in any ASCII case, with blanks around it. -/
def parse (s : String) : Except Fault Campus :=
  let t := Text.lowerAscii (Text.trim s)
  if t = "dvl" then .ok .dvl
  else if t = "kkl" then .ok .kkl
  else if t = "wst" then .ok .wst
  else .error (.invalidArgument ("Invalid campus '" ++ t ++ "', must be one of (dvl, kkl, wst)"))

theorem mem_all (c : Campus) : c ∈ all := by cases c <;> decide

theorem mem_peers {c d : Campus} : d ∈ c.peers ↔ d ≠ c := by
  cases c <;> cases d <;> decide

theorem parse_code (c : Campus) : (parse c.code).toOption = some c := by cases c <;> decide +kernel

end Campus

/-- The kind of an endpoint published in the registry. -/
inductive ServiceKind where
  /-- The client-facing endpoint of a campus. -/
  | directory
  /-- The campus-to-campus endpoint. -/
  | interNode
  deriving DecidableEq, Repr, Inhabited

namespace ServiceKind

/-- The name of a service kind. -/
def name : ServiceKind → String
  | .directory => "directory"
  | .interNode => "inter-node"

instance : ToString ServiceKind := ⟨name⟩

/-- Reads a service kind or its older name (`web`, `udp`) in any ASCII case. -/
def parse (s : String) : Except Fault ServiceKind :=
  let t := Text.lowerAscii (Text.trim s)
  if t = "directory" ∨ t = "web" then .ok .directory
  else if t = "inter-node" ∨ t = "udp" then .ok .interNode
  else .error (.invalidArgument ("Unknown service kind '" ++ t ++ "'"))

theorem parse_name (k : ServiceKind) : (parse k.name).toOption = some k := by
  cases k <;> decide +kernel

end ServiceKind

end CampusBooking
