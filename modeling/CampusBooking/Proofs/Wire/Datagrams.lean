import Mathlib
import CampusBooking.Proofs.Wire.Messages
import CampusBooking.Proofs.Wire.Responses
import CampusBooking.Wire.Datagram

/-!
# Messages through datagrams

A message travels as one datagram holding its compact JSON text.  `Datagram.encode` sends
the text when it has at most `maxDatagram` bytes; `Datagram.decode` drops the trailing zero
bytes of a datagram and reads the rest as one message followed by nothing but blanks.

The text of an object ends with its closing brace, which is no zero byte, so the padding
that a datagram may carry is dropped and nothing more (`trimPadding_append_zeros`).  Hence
every request to a campus, every response and every request to the registry that is sent
comes back out of its datagram, padded or not (`request_datagrams_roundTrip`); a response
comes back with the time it was sent, for every time reader that takes that time back.
-/

namespace CampusBooking

namespace Datagram

open Json

/-! ## Padding -/

theorem dropWhile_replicate_append (k : Nat) (l : List UInt8) :
    (List.replicate k (0 : UInt8) ++ l).dropWhile (· = 0) = l.dropWhile (· = 0) := by
  induction k with
  | zero => rfl
  | succ k ih =>
    rw [List.replicate_succ, List.cons_append, List.dropWhile_cons_of_pos (by simp), ih]

/-- Zero bytes after a text that does not end in one are exactly the padding dropped. -/
theorem trimPadding_append_zeros {b : ByteArray} (hlast : b.data.toList.getLast? ≠ some 0)
    (k : Nat) : trimPadding (b ++ ⟨Array.replicate k 0⟩) = b := by
  have hbytes : (b ++ ⟨Array.replicate k 0⟩).toList = b.data.toList ++ List.replicate k 0 := by
    rw [ByteArray.toList_eq_data_toList, ByteArray.toList_data_append]
    simp
  -- the last byte of the text stops the dropping
  have hkeep : b.data.toList.reverse.dropWhile (· = 0) = b.data.toList.reverse := by
    cases h : b.data.toList.reverse with
    | nil => rfl
    | cons x xs =>
      have hx : x ≠ 0 := by
        rintro rfl
        apply hlast
        rw [← List.head?_reverse, h, List.head?_cons]
      exact List.dropWhile_cons_of_neg (by simpa using hx)
  rw [trimPadding, hbytes, List.reverse_append, List.reverse_replicate,
    dropWhile_replicate_append, hkeep, List.length_reverse]
  exact ByteArray.extract_append_eq_left (by simp)

/-! ## Sending and reading -/

theorem encode_eq_ok_iff {v : Value} {t : String} :
    encode v = .ok t ↔ v.text.utf8ByteSize ≤ maxDatagram ∧ v.text = t := by
  simp only [encode]
  split_ifs with h
  · exact ⟨fun he => (nomatch he), fun ⟨hle, _⟩ => absurd hle (Nat.not_le.mpr h)⟩
  · exact ⟨fun he => ⟨Nat.not_lt.mp h, Except.ok.inj he⟩, fun ⟨_, ht⟩ => ht ▸ rfl⟩

/-- A text is refused exactly when it is longer than a datagram may be. -/
theorem encode_error_iff (v : Value) :
    (∃ e, encode v = .error e) ↔ maxDatagram < v.text.utf8ByteSize := by
  simp only [encode]
  split_ifs with h
  · exact ⟨fun _ => h, fun _ => ⟨_, rfl⟩⟩
  · exact ⟨fun ⟨_, he⟩ => (nomatch he), fun h' => absurd h' h⟩

/-- A datagram holding a message that `r` reads, then padding, gives the message. -/
theorem decode_of_reads {r : Reader α} {nest : Nat} {b : ByteArray} {a : α} (hnest : nest < 128)
    (h : Reads r nest b.data.toList [] a) (hlast : b.data.toList.getLast? ≠ some 0)
    (hsize : b.size ≠ 0) (k : Nat) : decode r (b ++ ⟨Array.replicate k 0⟩) = .ok a := by
  have hall : Reads (do let x ← r; Reader.finish; pure x) nest (b.data.toList ++ ([] ++ [])) [] a :=
    Reads.bind h (Reads.bind reads_finish (Reads.pure a))
  have hrun : Reader.run (do let x ← r; Reader.finish; pure x) b = .ok a := by
    have hc := hall ⟨b, 0, 128⟩ (by simp [Cursor.rest]) hnest
    show (Reader.runAt _ ⟨b, 0, 128⟩).1 = _
    rw [hc]
  simp only [decode, trimPadding_append_zeros hlast k, if_neg hsize]
  rw [hrun]

/-- An object that `r` reads back from its text is read back from its datagram, whatever
padding follows. -/
theorem decode_encode_obj {r : Reader α} {nest : Nat} {ms : List (String × Value)} {a : α}
    (hnest : nest < 128) (h : Reads r nest (Value.obj ms).bytes [] a) {t : String}
    (ht : encode (.obj ms) = .ok t) (k : Nat) :
    decode r (t.toUTF8 ++ ⟨Array.replicate k 0⟩) = .ok a := by
  obtain ⟨-, rfl⟩ := encode_eq_ok_iff.mp ht
  have hbytes : (Value.obj ms).text.toUTF8.data.toList = (Value.obj ms).bytes := rfl
  have hlast : (Value.obj ms).bytes.getLast? = some 125 := by
    rw [Value.bytes_obj, List.getLast?_append, List.getLast?_singleton]
    rfl
  have hsize : (Value.obj ms).text.toUTF8.size = (Value.obj ms).bytes.length := by
    rw [← hbytes]
    simp
  refine decode_of_reads hnest (hbytes ▸ h) (by rw [hbytes, hlast]; decide) ?_ k
  rw [hsize, Value.bytes_obj]
  simp

/-- A request to a campus, a response and a request to the registry survive their datagram:
a text is sent exactly when it has at most `maxDatagram` bytes, and a message that is sent is
read back from the datagram followed by any number of zero bytes; a response is read back
with the time it was sent, by every time reader that takes that time back. -/
theorem request_datagrams_roundTrip :
    (∀ v : Value, (∃ e, encode v = .error e) ↔ maxDatagram < v.text.utf8ByteSize) ∧
    (∀ (r : Request) (t : String) (k : Nat), encode r.toJson = .ok t →
      decode Wire.readRequest (t.toUTF8 ++ ⟨Array.replicate k 0⟩) = .ok r) ∧
    (∀ {τ : Type} (parseTime : String → Except String τ) (r : Response) (sentAt : String) (tm : τ)
        (t : String) (k : Nat), parseTime sentAt = .ok tm → encode (r.toWire sentAt) = .ok t →
      decode (Wire.readResponse parseTime) (t.toUTF8 ++ ⟨Array.replicate k 0⟩) = .ok (r, tm)) ∧
    (∀ (r : RegistryRequest) (t : String) (k : Nat), encode r.toJson = .ok t →
      decode Wire.readRegistryRequest (t.toUTF8 ++ ⟨Array.replicate k 0⟩) = .ok r) :=
  ⟨encode_error_iff,
    fun r _ k ht => decode_encode_obj (by decide) (Wire.reads_readRequest r) ht k,
    fun _ r _ _ _ k htime ht => decode_encode_obj (by decide) (Wire.reads_readResponse r htime) ht k,
    fun r _ k ht => decode_encode_obj (by decide) (Wire.reads_readRegistryRequest r) ht k⟩

theorem encode_of_le {v : Value} (h : v.text.utf8ByteSize ≤ maxDatagram) :
    encode v = .ok v.text :=
  encode_eq_ok_iff.mpr ⟨h, rfl⟩

/-- A question from DVL about a student's week, padded with three zero bytes, the response to
a cancellation that released DVL 201 at 9:30 on 2021-01-10, padded with one, read with the
time kept as text, and a lookup of KKL's campus-to-campus endpoint, padded with none, come
back out of their datagrams. -/
theorem question_release_and_lookup_read_back :
    (encode (Request.bookingCount ⟨.dvl, .student, 1234⟩ ⟨19000, by decide, by decide⟩).toJson =
        .ok (Request.bookingCount ⟨.dvl, .student, 1234⟩ ⟨19000, by decide, by decide⟩).toJson.text ∧
      decode Wire.readRequest
        ((Request.bookingCount ⟨.dvl, .student, 1234⟩ ⟨19000, by decide, by decide⟩).toJson.text.toUTF8 ++
          ⟨Array.replicate 3 0⟩) =
        .ok (.bookingCount ⟨.dvl, .student, 1234⟩ ⟨19000, by decide, by decide⟩)) ∧
    (encode ({ Response.ok .cancelBooking "Booking cancelled" "None" with
          released := some ⟨.dvl, 201, ⟨18637, by decide, by decide⟩, ⟨570, 600, by decide, by decide⟩⟩ }.toWire
          "2021-01-10T09:00:00Z") =
        .ok ({ Response.ok .cancelBooking "Booking cancelled" "None" with
          released := some ⟨.dvl, 201, ⟨18637, by decide, by decide⟩, ⟨570, 600, by decide, by decide⟩⟩ }.toWire
          "2021-01-10T09:00:00Z").text ∧
      decode (Wire.readResponse (Except.ok : String → Except String String))
        (({ Response.ok .cancelBooking "Booking cancelled" "None" with
          released := some ⟨.dvl, 201, ⟨18637, by decide, by decide⟩, ⟨570, 600, by decide, by decide⟩⟩ }.toWire
          "2021-01-10T09:00:00Z").text.toUTF8 ++ ⟨Array.replicate 1 0⟩) =
        .ok ({ Response.ok .cancelBooking "Booking cancelled" "None" with
          released := some ⟨.dvl, 201, ⟨18637, by decide, by decide⟩, ⟨570, 600, by decide, by decide⟩⟩ },
          "2021-01-10T09:00:00Z")) ∧
    (encode (RegistryRequest.lookup .interNode .kkl).toJson =
        .ok (RegistryRequest.lookup .interNode .kkl).toJson.text ∧
      decode Wire.readRegistryRequest
        ((RegistryRequest.lookup .interNode .kkl).toJson.text.toUTF8 ++ ⟨Array.replicate 0 0⟩) =
        .ok (RegistryRequest.lookup .interNode .kkl)) := by
  have hcount := encode_of_le (v := (Request.bookingCount ⟨.dvl, .student, 1234⟩
    ⟨19000, by decide, by decide⟩).toJson) (by decide +kernel)
  have hlookup := encode_of_le (v := (RegistryRequest.lookup .interNode .kkl).toJson)
    (by decide +kernel)
  refine ⟨⟨hcount, request_datagrams_roundTrip.2.1 _ _ 3 hcount⟩,
    (fun hrelease => ⟨hrelease, request_datagrams_roundTrip.2.2.1 _ _ _ _ _ 1 rfl hrelease⟩)
      (encode_of_le ?_), ⟨hlookup, request_datagrams_roundTrip.2.2.2 _ _ 0 hlookup⟩⟩
  decide +kernel

end Datagram

end CampusBooking
