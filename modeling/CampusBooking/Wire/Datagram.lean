import CampusBooking.Wire.NetFault
import CampusBooking.Json.Reader
import CampusBooking.Json.Write

/-!
# Datagrams

A message travels as one datagram holding its compact JSON text.  Trailing zero bytes are
padding and are dropped before reading; nothing left is an empty datagram.  A text that
does not read as the expected message is malformed, in the reader's words.  A message
whose text is longer than `maxDatagram` bytes is not sent.
-/

namespace CampusBooking
namespace Datagram

open Json

/-- The bytes before the trailing zero bytes. -/
def trimPadding (bytes : ByteArray) : ByteArray :=
  bytes.extract 0 (bytes.toList.reverse.dropWhile (· = 0)).length

/-- Reads a message with `r` from a datagram. -/
def decode (r : Reader α) (bytes : ByteArray) : Except NetFault α :=
  let payload := trimPadding bytes
  if payload.size = 0 then .error (.malformed "Empty datagram")
  else
    match Reader.run (do let a ← r; Reader.finish; pure a) payload with
    | .ok a => .ok a
    | .error e => .error (.malformed ("Invalid JSON: " ++ e.message))

/-- The datagram text of a message, if it fits. -/
def encode (v : Value) : Except NetFault String :=
  let text := v.text
  if text.utf8ByteSize > maxDatagram then .error (.tooLarge text.utf8ByteSize) else .ok text

example : (trimPadding ⟨#[1, 0, 2, 0, 0]⟩).toList = [1, 0, 2] := by decide +kernel

end Datagram
end CampusBooking
