import CampusBooking.Fault
import CampusBooking.Text.Digits

/-!
# Faults of message exchange

A message can fail to be read or made (`malformed`, `tooLarge`), a peer can fail to
answer (`timeout`, `unreachable`), the registry can fail (`registry`), the transport can
fail (`io`), and a campus can refuse what was asked (`core`).  `NetFault.message` words
them; a refusal of a campus keeps its own words.
-/

namespace CampusBooking

/-- A span of time in whole milliseconds, written the way a duration is debugged: whole
milliseconds below a second (`252ms`), otherwise seconds with the fraction's trailing
zeros dropped (`1.25s`, `60s`), and `0ns` for nothing. -/
def durationText (ms : Nat) : String :=
  if ms = 0 then "0ns"
  else if ms < 1000 then Text.decimal ms ++ "ms"
  else
    let frac := ms % 1000
    if frac = 0 then Text.decimal (ms / 1000) ++ "s"
    else
      let digits := (Text.padded 3 frac).toList
      let kept := (digits.reverse.dropWhile (· = '0')).reverse
      Text.decimal (ms / 1000) ++ "." ++ String.ofList kept ++ "s"

example : durationText 1250 = "1.25s" ∧ durationText 252 = "252ms" ∧ durationText 60250 = "60.25s"
    ∧ durationText 2000 = "2s" := by decide

/-- Why a message exchange failed. -/
inductive NetFault where
  /-- The transport failed, in its own words. -/
  | io (detail : String)
  /-- No reply came within the given milliseconds. -/
  | timeout (ms : Nat)
  /-- A message could not be read or made. -/
  | malformed (detail : String)
  /-- A message is longer than a datagram may be. -/
  | tooLarge (size : Nat)
  /-- A peer cannot be reached. -/
  | unreachable (detail : String)
  /-- The registry failed. -/
  | registry (detail : String)
  /-- A campus refused the request. -/
  | core (f : Fault)
  deriving DecidableEq, Repr

/-- The longest datagram, in bytes. -/
def maxDatagram : Nat := 1000

/-- The wording of a fault. -/
def NetFault.message : NetFault → String
  | .io d => "IO error: " ++ d
  | .timeout ms => "No reply within " ++ durationText ms
  | .malformed d => "Malformed payload: " ++ d
  | .tooLarge n => "Payload too large: " ++ Text.decimal n ++ " bytes (max " ++
      Text.decimal maxDatagram ++ ")"
  | .unreachable d => "Peer unreachable: " ++ d
  | .registry d => "Registry error: " ++ d
  | .core f => f.message

end CampusBooking
