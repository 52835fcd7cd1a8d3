import Mathlib
import CampusBooking.Proofs.Wire.Messages
import CampusBooking.Wire.Response

/-!
# Responses read back from their JSON form

A response travels as a JSON object: its action, whether it succeeded, its message, the
time it was sent and the echo of the request, then the details that it gives
(`Response.toWire`).  This module proves that `Wire.readResponse` takes that text back to
the response and its time, for every response and every time of sending that the time
reader takes back (`reads_readResponse`).

* An enumeration written by the names of its variants is read back by its list of names
  when no two variants share a name (`lookup_namesOf`); actions and error kinds are such.
* The details are optional fields of the record.  The slot a cancellation released and a
  registry entry are records of their own, read one level deeper (`reads_readSlotRef`,
  `reads_readEntry`).
-/

namespace CampusBooking

namespace Wire

open Json Reader

/-! ## Enumerations by name -/

section Names

variable {α : Type} [DecidableEq α] {all : List α} {name : α → String}

/-- Among the names listed from place `n` on, a variant's name is found with its place. -/
theorem find?_names {a : α} (hnames : (all.map name).Nodup) (ha : a ∈ all) (n : Nat) :
    ((all.zip (List.range' n all.length)).map fun (b, i) => (name b, i)).find? (·.1 == name a) =
      some (name a, n + all.idxOf a) := by
  induction all generalizing n with
  | nil => exact absurd ha List.not_mem_nil
  | cons b bs ih =>
    rw [List.map_cons, List.nodup_cons] at hnames
    rw [List.length_cons, List.range'_succ, List.zip_cons_cons, List.map_cons, List.find?_cons]
    by_cases hb : b = a
    · subst hb
      simp
    · -- a later variant: its name differs from the first one's
      have ha' : a ∈ bs := (List.mem_cons.mp ha).resolve_left (Ne.symm hb)
      have hname : name b ≠ name a := fun h => hnames.1 (h ▸ List.mem_map_of_mem ha')
      rw [ih hnames.2 ha' (n + 1), List.idxOf_cons_ne _ (by simpa using hb)]
      have hskip : (name b == name a) = false := beq_false_of_ne hname
      simp only [hskip, Option.some.injEq, Prod.mk.injEq, true_and]
      omega

/-- A variant is read back from its name as its place in the list. -/
theorem lookup_namesOf {a : α} (hnames : (all.map name).Nodup) (ha : a ∈ all) :
    (namesOf all name).lookup (name a) = .ok (all.idxOf a) := by
  have hfind := find?_names hnames ha 0
  rw [← List.range_eq_range', Nat.zero_add] at hfind
  simp only [Variants.lookup, namesOf, hfind]

theorem getD_idxOf {a : α} (ha : a ∈ all) (d : α) : all.getD (all.idxOf a) d = a := by
  rw [List.getD_eq_getElem _ _ (List.idxOf_lt_length_of_mem ha), List.getElem_idxOf]

/-- A variant of an enumeration is read back from its name, when no two variants share one. -/
theorem reads_namesOf {nest : Nat} {rest : List UInt8} {a : α} (hnames : (all.map name).Nodup)
    (ha : a ∈ all) (d : α) :
    Reads (do let i ← textVariant (namesOf all name); pure (all.getD i d)) nest
      (Value.str (name a)).bytes rest a := by
  have hname : Reads (textVariant (namesOf all name)) nest (Value.str (name a)).bytes rest
      (all.idxOf a) :=
    reads_textVariant (lookup_namesOf hnames ha)
  have h := Reads.bind_pure (fun i => all.getD i d) hname
  rwa [getD_idxOf ha] at h

end Names

end Wire

theorem Action.mem_all (a : Action) : a ∈ Action.all := by
  cases a <;> decide

theorem ErrorKind.mem_all (k : ErrorKind) : k ∈ ErrorKind.all := by
  cases k <;> decide

namespace Wire

open Json Reader

/-! ## Fields from text -/

section Fields

variable {nest : Nat} {rest : List UInt8}

theorem reads_readAction (a : Action) :
    Reads (readAction : Reader Action) nest (Value.str a.name).bytes rest a :=
  reads_namesOf (by decide) (Action.mem_all a) .unrecognized

theorem reads_readErrorKind (k : ErrorKind) :
    Reads (readErrorKind : Reader ErrorKind) nest (Value.str k.name).bytes rest k :=
  reads_namesOf (by decide) (ErrorKind.mem_all k) .notFound

/-- A count, up to what may follow a value. -/
theorem reads_readCountField (n : UInt32) (hrest : Delimited rest) :
    Reads (readCountField : Reader UInt32) nest (Value.nat n.toNat).bytes rest n := by
  have hword : Reads (textWord "u32" 4294967295) nest (Value.nat n.toNat).bytes rest n.toNat :=
    reads_textWord "u32" (Nat.le_of_lt_succ (UInt32.toNat_lt n)) (by decide) hrest
  have h := Reads.bind_pure Nat.toUInt32 hword
  rwa [Nat.toUInt32, UInt32.ofNat_toNat] at h

theorem reads_textDate (d : Date) : Reads textDate nest d.toJson.bytes rest d := by
  refine reads_stringWith _ ?_
  rw [Date.readWire_toString]
  exact Reads.pure d

/-- A time of sending that the time reader takes back. -/
theorem reads_readTime {parseTime : String → Except String τ} {sentAt : String} {t : τ}
    (h : parseTime sentAt = .ok t) : Reads (readTime parseTime) nest (Value.str sentAt).bytes rest t := by
  refine reads_stringWith _ ?_
  rw [h]
  exact Reads.pure t

/-- The members of a slot's object form, as fields of its record. -/
def slotRefFields (t : SlotRef) : List (RecordField slotRefShape SlotRefDraft) :=
  [⟨"campus", 0, t.campus.toJson, fun d => { d with campus := some t.campus }, rfl⟩,
    ⟨"room", 1, roomJson t.room, fun d => { d with room := some t.room }, rfl⟩,
    ⟨"date", 2, t.date.toJson, fun d => { d with date := some t.date }, rfl⟩,
    ⟨"slot", 3, t.slot.toJson, fun d => { d with slot := some t.slot }, rfl⟩]

theorem reads_readSlotRef (t : SlotRef) :
    Reads (readSlotRef : Reader SlotRef) (nest + 1) t.toJson.bytes rest t := by
  show Reads _ _ (Value.obj ((slotRefFields t).map RecordField.member)).bytes _ _
  refine reads_textRecord ?_ (by simp [slotRefFields]) rfl
  simp only [slotRefFields, List.mem_cons, List.not_mem_nil, or_false]
  rintro f (rfl | rfl | rfl | rfl) s more hmore
  · exact Reads.bind_pure _ (reads_readCampus t.campus)
  · exact Reads.bind_pure _ (reads_readRoom t.room hmore)
  · exact Reads.bind_pure _ (reads_textDate t.date)
  · exact Reads.bind_pure _ (reads_parsed (Timeslot.parse_toString t.slot))

/-- The members of an entry's object form, as fields of its record. -/
def entryFields (e : RegistryEntry) : List (RecordField entryShape RegistryRequest) :=
  [⟨"service_kind", 0, e.kind.toJson, fun d => { d with kind := some e.kind }, rfl⟩,
    ⟨"campus", 1, e.campus.toJson, fun d => { d with campus := some e.campus }, rfl⟩,
    ⟨"host", 2, .str e.host, fun d => { d with host := some e.host }, rfl⟩,
    ⟨"port", 3, roomJson e.port, fun d => { d with port := some e.port }, rfl⟩,
    ⟨"path", 4, .str e.path, fun d => { d with path := some e.path }, rfl⟩]

theorem reads_readEntry (e : RegistryEntry) :
    Reads (readEntry : Reader RegistryEntry) (nest + 1) e.toJson.bytes rest e := by
  show Reads _ _ (Value.obj ((entryFields e).map RecordField.member)).bytes _ _
  refine reads_textRecord ?_ (by simp [entryFields]) rfl
  simp only [entryFields, List.mem_cons, List.not_mem_nil, or_false]
  rintro f (rfl | rfl | rfl | rfl | rfl) s more hmore
  · exact Reads.bind_pure _ (reads_readServiceKind e.kind)
  · exact Reads.bind_pure _ (reads_readCampus e.campus)
  · exact Reads.bind_pure _ (reads_textString e.host)
  · exact Reads.bind_pure _ (reads_readRoom e.port hmore)
  · exact Reads.bind_pure _ (reads_textString e.path)

end Fields

/-! ## Responses -/

section Response

variable {τ : Type}

/-- The members of a response's wire form, as fields of its record: the five that every
response has, then the details that it gives. -/
def responseFields (r : Response) (sentAt : String) (t : τ) :
    List (RecordField responseShape (ResponseDraft τ)) :=
  [⟨"action", 0, .str r.action.name, fun d => { d with action := some r.action }, rfl⟩,
    ⟨"success", 1, .bool r.success, fun d => { d with success := some r.success }, rfl⟩,
    ⟨"message", 2, .str r.message, fun d => { d with message := some r.message }, rfl⟩,
    ⟨"timestamp", 3, .str sentAt, fun d => { d with sentAt := some t }, rfl⟩,
    ⟨"parameters", 4, .str r.parameters, fun d => { d with parameters := some r.parameters }, rfl⟩] ++
  (RecordField.optional "error" 5 (by decide) (fun k => .str k.name) (fun o d => { d with error := o })
      r.error ++
    RecordField.optional "booking_id" 6 (by decide) (fun b => .str b.toString)
      (fun o d => { d with bookingId := o }) r.bookingId ++
    RecordField.optional "count" 7 (by decide) (fun n => .nat n.toNat) (fun o d => { d with count := o })
      r.count ++
    RecordField.optional "released" 8 (by decide) SlotRef.toJson (fun o d => { d with released := o })
      r.released ++
    RecordField.optional "entry" 9 (by decide) RegistryEntry.toJson (fun o d => { d with entry := o })
      r.entry ++
    RecordField.optional "port" 10 (by decide) (fun p => .nat p.toNat) (fun o d => { d with port := o })
      r.port)

theorem toWire_responseFields (r : Response) (sentAt : String) (t : τ) :
    r.toWire sentAt = .obj ((responseFields r sentAt t).map RecordField.member) := by
  simp only [responseFields, List.map_append, RecordField.map_member_optional]
  rfl

/-- The fields that a response gives stand in the order of the record. -/
theorem responseFields_index_nodup (r : Response) (sentAt : String) (t : τ) :
    ((responseFields r sentAt t).map RecordField.index).Nodup := by
  have hrange : List.range 11 = [0, 1, 2, 3, 4] ++ [5] ++ [6] ++ [7] ++ [8] ++ [9] ++ [10] := rfl
  refine List.Sublist.nodup ?_ (hrange ▸ List.nodup_range)
  simp only [responseFields, List.map_append, List.map_cons, List.map_nil, ← List.append_assoc]
  -- each detail stands at its own place or is left out
  exact ((((((List.Sublist.refl _).append (RecordField.map_index_optional_sublist _)).append
    (RecordField.map_index_optional_sublist _)).append (RecordField.map_index_optional_sublist _)).append
    (RecordField.map_index_optional_sublist _)).append (RecordField.map_index_optional_sublist _)).append
    (RecordField.map_index_optional_sublist _)

/-- Read from the empty draft, the fields give back the response and its time. -/
theorem finish_responseFields (r : Response) (sentAt : String) (t : τ) :
    (RecordField.applyAll (responseFields r sentAt t) {}).finish = .ok (r, t) := by
  -- every detail sets its own field of a draft in which it is still missing
  simp only [responseFields, RecordField.applyAll_append, RecordField.applyAll_cons,
    RecordField.applyAll_nil]
  simp (disch := exact rfl) only [RecordField.applyAll_optional]
  rfl

theorem reads_responseStep {parseTime : String → Except String τ} (r : Response) {sentAt : String}
    {t : τ} (ht : parseTime sentAt = .ok t) {nest : Nat} :
    ∀ f ∈ responseFields r sentAt t, ∀ s more, Delimited more →
      Reads (responseStep parseTime f.index s) (nest + 1) f.value.bytes more (f.update s) := by
  intro f hf s more hmore
  simp only [responseFields, List.mem_append, List.mem_cons, List.not_mem_nil, or_false,
    RecordField.mem_optional] at hf
  rcases hf with (rfl | rfl | rfl | rfl | rfl) |
    (((((⟨k, -, rfl⟩ | ⟨b, -, rfl⟩) | ⟨n, -, rfl⟩) | ⟨sl, -, rfl⟩) | ⟨e, -, rfl⟩) | ⟨p, -, rfl⟩)
  · exact Reads.bind_pure _ (reads_readAction r.action)
  · exact Reads.bind_pure _ (reads_textBool r.success)
  · exact Reads.bind_pure _ (reads_textString r.message)
  · exact Reads.bind_pure _ (reads_readTime ht)
  · exact Reads.bind_pure _ (reads_textString r.parameters)
  · exact Reads.bind_pure (fun o => { s with error := o })
      (reads_textOptional_some (opensPiece_str k.name) (reads_readErrorKind k))
  · exact Reads.bind_pure (fun o => { s with bookingId := o })
      (reads_textOptional_some (opensPiece_str b.toString) (reads_parsed (BookingId.parse_toString b)))
  · exact Reads.bind_pure (fun o => { s with count := o })
      (reads_textOptional_some (opensPiece_nat n.toNat) (reads_readCountField n hmore))
  · exact Reads.bind_pure (fun o => { s with released := o })
      (reads_textOptional_some (opensPiece_obj _) (reads_readSlotRef sl))
  · exact Reads.bind_pure (fun o => { s with entry := o })
      (reads_textOptional_some (opensPiece_obj _) (reads_readEntry e))
  · exact Reads.bind_pure (fun o => { s with port := o })
      (reads_textOptional_some (opensPiece_nat p.toNat) (reads_readRoom p hmore))

/-- A response is read back from its text with the time it was sent, for every time that
the time reader takes back, whatever follows the text. -/
theorem reads_readResponse {parseTime : String → Except String τ} (r : Response) {sentAt : String}
    {t : τ} (ht : parseTime sentAt = .ok t) {rest : List UInt8} :
    Reads (readResponse parseTime) 2 (r.toWire sentAt).bytes rest (r, t) := by
  rw [toWire_responseFields r sentAt t]
  exact reads_textRecord (reads_responseStep r ht) (responseFields_index_nodup r sentAt t)
    (finish_responseFields r sentAt t)

end Response

end Wire

end CampusBooking
