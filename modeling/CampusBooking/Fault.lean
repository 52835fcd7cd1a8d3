/-!
# Faults of the reservation core

Every refusal of the reservation core is a `Fault`, a cause with the details that its
wording needs.  `Fault.message` is the one place that words them; a caller that shows a
fault to a user shows that text.
-/

namespace CampusBooking

/-- Why an operation of the reservation core was refused. -/
inductive Fault where
  /-- An argument does not have the required form. -/
  | invalidArgument (detail : String)
  /-- The thing named does not exist. -/
  | notFound (detail : String)
  /-- The thing to be created exists already. -/
  | alreadyExists (detail : String)
  /-- The timeslot (as written) is held by a booking. -/
  | alreadyBooked (slot : String)
  /-- The booking (as written) belongs to another student. -/
  | ownerMismatch (booking : String)
  /-- The student has reached the weekly limit. -/
  | quotaExceeded (limit : UInt32)
  /-- A configuration value is unusable. -/
  | config (detail : String)
  /-- A configuration text is not a document of the expected shape. -/
  | configSyntax
  deriving DecidableEq, Repr

/-- The wording of a fault. -/
def Fault.message : Fault → String
  | .invalidArgument d => "Invalid argument: " ++ d
  | .notFound d => "Not found: " ++ d
  | .alreadyExists d => "Already exists: " ++ d
  | .alreadyBooked s => "Timeslot (" ++ s ++ ") has already been booked"
  | .ownerMismatch b => "Booking (" ++ b ++ ") is reserved to another student"
  | .quotaExceeded l => "Maximum booking limit of " ++ toString l.toNat ++ " per week is reached"
  | .config d => "Configuration error: " ++ d
  | .configSyntax => "Config parse error"

end CampusBooking
