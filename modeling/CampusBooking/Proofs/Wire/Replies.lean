import Mathlib
import CampusBooking.Mesh.Server
import CampusBooking.Registry.Directory
import CampusBooking.Proofs.Wire.Datagrams
import CampusBooking.Proofs.Wire.Forms
import CampusBooking.Proofs.Cluster.Halting

/-!
# Every datagram is answered with one that fits

A campus server answers a datagram with one datagram: the node's response to the request it
holds, or a malformed failure of the unrecognized action when it holds none.  A response
echoes the request's parameters, and a malformed failure the reader's words, so a request
that fits a datagram can be answered by a response that does not; the server then sends the
malformed failure "Reply too large" of the same action (`Response.tooLarge`).  That failure
fits whatever the action and the time of sending (`tooLarge_fits`): its text is at most 133
bytes and the time's.  Times of sending are RFC 3339 texts of at most 33 characters; the
statements ask for at most 128.

`Response.sent` names the response a server sends for another: the response itself when it
fits, else its stand-in.  What is sent is read back as that response, with the time it was
sent (`decode_sent`).

Main statement (`node_replies_fit_a_datagram`): for every datagram, in every cluster, a
node's server sends exactly one datagram, of at most `maxDatagram` bytes, read back as a
response, namely the node's response when it fits, the "Reply too large" failure of its
action otherwise, and a malformed failure of the unrecognized action when the datagram holds
no request.  The node itself halts on a week that starts before the calendar (see
`Proofs.Cluster.Halting`), and then nothing is sent; the statement is made for every request
that asks about no such week of a student with bookings.

The registry's server has no stand-in: it sends its response exactly when it fits.
-/

namespace CampusBooking

namespace Json

/-- A character is written in a string as at most six bytes, its `\u00XX` escape. -/
theorem length_escapedBytes_le (x : Char) : (escapedBytes x).length ≤ 6 := by
  have hhex : ∀ n, ((Text.hexDigits 4 n).map Char.utf8Size).sum = 4 := by
    intro n
    have hone : ∀ c ∈ Text.hexDigits 4 n, c.utf8Size = 1 := by
      intro c hc
      obtain ⟨d, hd, rfl⟩ := Text.mem_hexDigits hc
      have hascii := (Text.hexDigit_ascii d hd).1
      exact Char.utf8Size_eq_one_iff.mpr (UInt32.le_iff_toNat_le.mpr (Nat.le_of_lt_succ hascii))
    rw [List.map_congr_left hone, List.map_const', List.sum_replicate, Text.length_hexDigits]
    rfl
  unfold escapedBytes escapeChar
  split_ifs
  -- the seven short escapes are fixed texts
  any_goals decide
  · simp only [List.flatMap_append, List.flatMap_cons, List.flatMap_nil, List.length_append,
      String.length_utf8EncodeChar, List.length_flatMap, hhex]
    decide
  · simpa using (Char.utf8Size_le_four x).trans (by decide)

theorem length_flatMap_escapedBytes_le (s : List Char) : (s.flatMap escapedBytes).length ≤ 6 * s.length := by
  induction s with
  | nil => simp
  | cons x xs ih =>
    have hx := length_escapedBytes_le x
    simp only [List.flatMap_cons, List.length_append, List.length_cons]
    omega

end Json

open Json

namespace Response

/-- The "Reply too large" failure grows with the time of sending by that time's written bytes. -/
theorem tooLarge_size (a : Action) (sentAt : String) :
    ((tooLarge a).toWire sentAt).text.utf8ByteSize =
      ((tooLarge a).toWire "").text.utf8ByteSize + (sentAt.toList.flatMap escapedBytes).length := by
  rw [← length_bytes, ← length_bytes]
  simp only [tooLarge, toWire, fail, details, Value.bytes_obj]
  simp [commaJoin, Value.memberBytes, Value.bytes_str, Value.bytes_false]
  omega

theorem tooLarge_size_untimed (a : Action) : ((tooLarge a).toWire "").text.utf8ByteSize ≤ 133 := by
  cases a <;> decide +kernel

/-- The "Reply too large" failure of every action fits a datagram when sent at a time of at
most 128 characters. -/
theorem tooLarge_fits (a : Action) {sentAt : String} (hsent : sentAt.length ≤ 128) :
    ((tooLarge a).toWire sentAt).text.utf8ByteSize ≤ maxDatagram := by
  have htime := length_flatMap_escapedBytes_le sentAt.toList
  have hbase := tooLarge_size_untimed a
  rw [tooLarge_size, String.length_toList] at *
  show _ ≤ 1000
  omega

/-- The response a server sends for `r` at `sentAt`: `r` itself when it fits a datagram, else
the "Reply too large" failure of its action. -/
def sent (r : Response) (sentAt : String) : Response :=
  if (r.toWire sentAt).text.utf8ByteSize ≤ maxDatagram then r else tooLarge r.action

theorem sent_fits (r : Response) {sentAt : String} (hsent : sentAt.length ≤ 128) :
    ((r.sent sentAt).toWire sentAt).text.utf8ByteSize ≤ maxDatagram := by
  unfold sent
  split_ifs with hfits
  · exact hfits
  · exact tooLarge_fits r.action hsent

/-- The datagram a server sends for a response is the wire form of the response it sends. -/
theorem reply_eq (r : Response) {sentAt : String} (hsent : sentAt.length ≤ 128) :
    r.reply sentAt = some ((r.sent sentAt).toWire sentAt).text := by
  unfold reply sent
  split_ifs with hfits
  · rw [Datagram.encode_of_le hfits]
  · obtain ⟨e, he⟩ := Datagram.encode_error_iff _ |>.mpr (Nat.lt_of_not_le hfits)
    rw [he, Datagram.encode_of_le (tooLarge_fits r.action hsent)]
    rfl

/-- What a server sends is read back as the response it stands for, with the time it was
sent, by every time reader that takes that time back. -/
theorem decode_sent (r : Response) {sentAt : String} (hsent : sentAt.length ≤ 128)
    {parseTime : String → Except String τ} {t : τ} (ht : parseTime sentAt = .ok t) :
    Datagram.decode (Wire.readResponse parseTime) ((r.sent sentAt).toWire sentAt).text.toUTF8 =
      .ok (r.sent sentAt, t) := by
  have h := Datagram.decode_encode_obj (by decide) (Wire.reads_readResponse (r.sent sentAt) ht)
    (Datagram.encode_of_le (sent_fits r hsent)) 0
  rwa [show (⟨Array.replicate 0 0⟩ : ByteArray) = ByteArray.empty from rfl,
    ByteArray.append_empty] at h

end Response

/-! ## A campus server -/

namespace Node

variable {own : Campus} {ch : Channel} {w : Cluster} {sentAt : String} {payload : ByteArray}

theorem runOn_answer :
    runOn (answer own ch sentAt payload) w =
      match runOn (Response.ofDatagram (handle depth own ch) payload) w with
      | (.ok r, w') => (.ok (r.reply sentAt), w')
      | (.error e, w') => (.error e, w') := by
  simp only [answer, runOn_bind]
  rcases runOn (Response.ofDatagram (handle depth own ch) payload) w with ⟨_ | r, w'⟩ <;> rfl

/-- A node asked about no week before the calendar of a student with bookings answers. -/
theorem handle_answers {req : Request}
    (hweeks : ∀ u a, (u, a) ∈ w.weeksAsked req → a.weekStart? ≠ none ∨ ∀ c, (w.stores c).ledger.holds u = false) :
    ∃ r w', runOn (handle depth own ch req) w = (.ok r, w') := by
  rcases h : runOn (handle depth own ch req) w with ⟨_ | r, w'⟩
  · exact absurd h (handle_ne_halt hweeks)
  · exact ⟨r, w', rfl⟩

/-- A node's server sends, for a datagram whose request asks about no week before the
calendar of a student with bookings, one datagram that fits and is read back as the response
it stands for: the stand-in of the malformed failure when the datagram holds no request, and
of the node's response otherwise. -/
theorem answer_sends_sent (hsent : sentAt.length ≤ 128)
    (hweeks : ∀ req, Datagram.decode Wire.readRequest (Datagram.received payload) = .ok req →
      ∀ u a, (u, a) ∈ w.weeksAsked req → a.weekStart? ≠ none ∨ ∀ c, (w.stores c).ledger.holds u = false) :
    ∃ text w' resp, runOn (answer own ch sentAt payload) w = (.ok (some text), w') ∧
      text = (resp.toWire sentAt).text ∧ text.utf8ByteSize ≤ maxDatagram ∧
      (∀ {τ : Type} (parseTime : String → Except String τ) (t : τ), parseTime sentAt = .ok t →
        Datagram.decode (Wire.readResponse parseTime) text.toUTF8 = .ok (resp, t)) ∧
      ((∃ e, Datagram.decode Wire.readRequest (Datagram.received payload) = .error e ∧ w' = w ∧
          resp = (Response.fail .unrecognized .malformed e.message "None").sent sentAt) ∨
        ∃ req r, Datagram.decode Wire.readRequest (Datagram.received payload) = .ok req ∧
          runOn (handle depth own ch req) w = (.ok r, w') ∧ resp = r.sent sentAt) := by
  rcases hdec : Datagram.decode Wire.readRequest (Datagram.received payload) with e | req
  · -- no request: a malformed failure of the unrecognized action
    have hrun : runOn (answer own ch sentAt payload) w =
        (.ok ((Response.fail .unrecognized .malformed e.message "None").reply sentAt), w) := by
      rw [runOn_answer]
      simp only [Response.ofDatagram, hdec]
      rfl
    rw [Response.reply_eq _ hsent] at hrun
    exact ⟨_, w, _, hrun, rfl, Response.sent_fits _ hsent,
      fun _ _ ht => Response.decode_sent _ hsent ht, .inl ⟨e, rfl, rfl, rfl⟩⟩
  · -- a request: the node's response, or its stand-in
    obtain ⟨r, w', hhandle⟩ : ∃ r w', runOn (handle depth own ch req) w = (.ok r, w') :=
      handle_answers (hweeks req hdec)
    have hrun : runOn (answer own ch sentAt payload) w = (.ok (r.reply sentAt), w') := by
      rw [runOn_answer]
      simp only [Response.ofDatagram, hdec, hhandle]
    rw [Response.reply_eq r hsent] at hrun
    exact ⟨_, w', _, hrun, rfl, Response.sent_fits r hsent,
      fun _ _ ht => Response.decode_sent r hsent ht, .inr ⟨req, r, rfl, hhandle, rfl⟩⟩

end Node

/-- The registry's server sends its response exactly when it fits, and nothing else. -/
theorem Directory.reply_eq_some_iff (d : Directory) (draws : List (UInt16 × Bool)) (sentAt : String)
    (bytes : ByteArray) (text : String) :
    (d.reply draws sentAt bytes).2 = some text ↔
      ∃ d' r, d.answer draws bytes = some (d', r) ∧ (r.toWire sentAt).text.utf8ByteSize ≤ maxDatagram ∧
        text = (r.toWire sentAt).text := by
  rcases hans : d.answer draws bytes with _ | ⟨d', r⟩
  · simp [Directory.reply, hans]
  · have hreply : (d.reply draws sentAt bytes).2 = (Datagram.encode (r.toWire sentAt)).toOption := by
      simp [Directory.reply, hans]
    rw [hreply]
    rcases henc : Datagram.encode (r.toWire sentAt) with e | t
    · -- too long: nothing is sent
      have hlong := (Datagram.encode_error_iff _).mp ⟨e, henc⟩
      refine ⟨fun h => by simp [Except.toOption] at h, ?_⟩
      rintro ⟨d'', r', hsome, hfits, -⟩
      obtain ⟨-, rfl⟩ := Prod.mk.inj (Option.some.inj hsome)
      omega
    · obtain ⟨hfits, rfl⟩ := Datagram.encode_eq_ok_iff.mp henc
      refine ⟨fun h => ⟨d', r, rfl, hfits, (Option.some.inj h).symm⟩, ?_⟩
      rintro ⟨d'', r', hsome, -, htext⟩
      obtain ⟨-, rfl⟩ := Prod.mk.inj (Option.some.inj hsome)
      rw [htext]
      rfl

/-- For every datagram, in every cluster, a node's server sends one datagram of at most
`maxDatagram` bytes, the wire form of a response that it is read back as, with its time of
sending: a datagram that holds no request gets a malformed failure of the unrecognized action
(or, if the reader's words make that too long, the "Reply too large" failure of that action)
and changes nothing; a request gets the node's response when it fits and the "Reply too
large" failure of its action otherwise.  This holds for every request that asks about no
week before the calendar of a student with bookings, and for times of sending of at most 128
characters.  The registry's server sends its response exactly when it fits. -/
theorem node_replies_fit_a_datagram (own : Campus) (ch : Channel) (w : Cluster) {sentAt : String}
    (hsent : sentAt.length ≤ 128) (payload : ByteArray)
    (hweeks : ∀ req, Datagram.decode Wire.readRequest (Datagram.received payload) = .ok req →
      ∀ u a, (u, a) ∈ w.weeksAsked req → a.weekStart? ≠ none ∨ ∀ c, (w.stores c).ledger.holds u = false) :
    (∃ text w' resp, runOn (Node.answer own ch sentAt payload) w = (.ok (some text), w') ∧
      text = (resp.toWire sentAt).text ∧ text.utf8ByteSize ≤ maxDatagram ∧
      (∀ {τ : Type} (parseTime : String → Except String τ) (t : τ), parseTime sentAt = .ok t →
        Datagram.decode (Wire.readResponse parseTime) text.toUTF8 = .ok (resp, t)) ∧
      ((∃ e, Datagram.decode Wire.readRequest (Datagram.received payload) = .error e ∧ w' = w ∧
          resp = (Response.fail .unrecognized .malformed e.message "None").sent sentAt) ∨
        ∃ req r, Datagram.decode Wire.readRequest (Datagram.received payload) = .ok req ∧
          runOn (handle Node.depth own ch req) w = (.ok r, w') ∧ resp = r.sent sentAt)) ∧
    ∀ (d : Directory) draws (bytes : ByteArray) text, (d.reply draws sentAt bytes).2 = some text ↔
      ∃ d' r, d.answer draws bytes = some (d', r) ∧ (r.toWire sentAt).text.utf8ByteSize ≤ maxDatagram ∧
        text = (r.toWire sentAt).text :=
  ⟨Node.answer_sends_sent hsent hweeks,
    fun d draws bytes text => Directory.reply_eq_some_iff d draws sentAt bytes text⟩

/-- The time of sending in the example below. -/
def januaryTenthNine : String := "2021-01-10T09:00:00Z"

/-- A question about the bookings of dvls1234 in the week ending 2021-01-10, as a datagram. -/
def weekCountQuestion : ByteArray :=
  "\x7b\"action\":\"GetBookingCount\",\"student_id\":\"dvls1234\",\"date\":\"2021-01-10\"\x7d".toUTF8

theorem weekCountQuestion_decodes :
    Datagram.decode Wire.readRequest (Datagram.received weekCountQuestion) =
      .ok (.bookingCount ⟨.dvl, .student, ⟨1234, by decide⟩⟩ ⟨18637, by decide, by decide⟩) :=
  Except.eq_ok_of_toOption (by decide +kernel)

/-- After dvls1234 booked DVL 201 on 2021-01-10, DVL's campus-to-campus server answers a
question about that student's week with one datagram that fits, read back as the response it
stands for by the time reader that keeps the text. -/
theorem week_count_question_answered :
    januaryTenthNine.length ≤ 128 ∧
      (∀ req, Datagram.decode Wire.readRequest (Datagram.received weekCountQuestion) = .ok req →
        ∀ u a, (u, a) ∈ Node.bookedInJanuary.weeksAsked req →
          a.weekStart? ≠ none ∨ ∀ c, (Node.bookedInJanuary.stores c).ledger.holds u = false) ∧
      ∃ text w' resp, runOn (Node.answer .dvl .interNode januaryTenthNine weekCountQuestion)
          Node.bookedInJanuary = (.ok (some text), w') ∧
        text = (resp.toWire januaryTenthNine).text ∧ text.utf8ByteSize ≤ maxDatagram ∧
        Datagram.decode (Wire.readResponse (Except.ok : String → Except String String)) text.toUTF8 =
          .ok (resp, januaryTenthNine) := by
  have hsent : januaryTenthNine.length ≤ 128 := by decide
  -- the question reads as the count of a week that starts inside the calendar
  have hweeks : ∀ req, Datagram.decode Wire.readRequest (Datagram.received weekCountQuestion) = .ok req →
      ∀ u a, (u, a) ∈ Node.bookedInJanuary.weeksAsked req →
        a.weekStart? ≠ none ∨ ∀ c, (Node.bookedInJanuary.stores c).ledger.holds u = false := by
    intro req hreq u a ha
    rw [weekCountQuestion_decodes, Except.ok.injEq] at hreq
    subst hreq
    simp only [Cluster.weeksAsked, List.mem_singleton, Prod.mk.injEq] at ha
    obtain ⟨-, rfl⟩ := ha
    exact .inl (by decide)
  obtain ⟨text, w', resp, hrun, htext, hfits, hread, -⟩ :=
    (node_replies_fit_a_datagram .dvl .interNode Node.bookedInJanuary hsent weekCountQuestion hweeks).1
  exact ⟨hsent, hweeks, text, w', resp, hrun, htext, hfits, hread _ _ rfl⟩

end CampusBooking
