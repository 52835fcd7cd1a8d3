import CampusBooking.Mesh.Node
import CampusBooking.Wire.Datagram

/-!
# Answering datagrams

A campus server listens on two channels, one for clients and one for other nodes, and
answers every datagram it receives with one datagram.  A datagram is read as at most
`maxDatagram` bytes.  One that does not read as a request is answered with a malformed
failure of the unrecognized action; a request is answered with the node's response.  When
that response does not fit a datagram, the server sends a malformed failure of the same
action, "Reply too large", in its place.

Responses travel with the time they were sent, which the caller gives.
-/

namespace CampusBooking

namespace Datagram

/-- The bytes a server reads of a datagram: at most `maxDatagram` of them. -/
def received (bytes : ByteArray) : ByteArray := bytes.extract 0 maxDatagram

end Datagram

/-- The response to a datagram, given how requests are handled. -/
def Response.ofDatagram {m : Type → Type} [Monad m] (handle : Request → m Response) (payload : ByteArray) :
    m Response :=
  match Datagram.decode Wire.readRequest (Datagram.received payload) with
  | .ok req => handle req
  | .error e => pure (Response.fail .unrecognized .malformed e.message "None")

/-- The malformed failure a server sends in place of a response of action `a` that does not
fit a datagram. -/
def Response.tooLarge (a : Action) : Response := Response.fail a .malformed "Reply too large" "None"

/-- The datagram a server sends back for a response, sent at `sentAt`: the response, or a
malformed failure of its action when it does not fit. -/
def Response.reply (r : Response) (sentAt : String) : Option String :=
  match Datagram.encode (r.toWire sentAt) with
  | .ok text => some text
  | .error _ => (Datagram.encode ((Response.tooLarge r.action).toWire sentAt)).toOption

/-- The datagram a campus node sends back on a channel for a datagram, sent at `sentAt`. -/
def Node.answer (own : Campus) (ch : Channel) (sentAt : String) (payload : ByteArray) :
    ClusterM (Option String) := do
  let r ← Response.ofDatagram (handle Node.depth own ch) payload
  pure (r.reply sentAt)

end CampusBooking
