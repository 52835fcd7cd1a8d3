import Mathlib
import CampusBooking.Proofs.Json.Shapes
import CampusBooking.Wire.Registry

/-!
# Messages read back from their JSON form

A request to a campus (`Request.toJson`) and a request to the registry
(`RegistryRequest.toJson`) are written as JSON objects.  This module proves that their
readers take the written text back to the request:

* every field is read back from its written form, by its parser for campuses, user ids,
  timeslots and booking ids, and by its name for service kinds and registry actions, from
  text and from a value read before;
* a registry request is a record of its action and of the optional fields that it gives
  (`reads_readRegistryRequest`);
* a request is read in two passes: the first finds its action among the tags and keeps
  the other members as written (`reads_taggedText`), the second reads the kept members as
  the fields of that action (`run_requestOfTag`); together `reads_readRequest`.
-/

namespace CampusBooking

namespace Wire

open Json Reader

/-! ## Fields from text -/

section FieldText

variable {nest : Nat} {rest : List UInt8}

theorem reads_parsed {parse : String → Except Fault α} {s : String} {a : α} (h : parse s = .ok a) :
    Reads (parsed parse : Reader α) nest (Value.str s).bytes rest a :=
  reads_convert (show (parse s).mapError Fault.message = .ok a by rw [h]; rfl)

theorem reads_readCampus (c : Campus) :
    Reads (readCampus : Reader Campus) nest c.toJson.bytes rest c :=
  reads_parsed (Campus.code_spec c).2.2

/-- A room number, up to what may follow a value. -/
theorem reads_readRoom (r : UInt16) (hrest : Delimited rest) :
    Reads (readRoom : Reader UInt16) nest (roomJson r).bytes rest r := by
  have hword : Reads (textWord "u16" 65535) nest (roomJson r).bytes rest r.toNat :=
    reads_textWord "u16" (Nat.le_of_lt_succ (UInt16.toNat_lt r)) (by decide) hrest
  have h := Reads.bind_pure Nat.toUInt16 hword
  rwa [Nat.toUInt16, UInt16.ofNat_toNat] at h

theorem reads_readServiceKind (k : ServiceKind) :
    Reads (readServiceKind : Reader ServiceKind) nest k.toJson.bytes rest k := by
  cases k with
  | directory =>
    exact Reads.bind_pure (fun i => if i = 0 then ServiceKind.directory else .interNode)
      (reads_textVariant (show serviceKindNames.lookup "directory" = .ok 0 from rfl))
  | interNode =>
    exact Reads.bind_pure (fun i => if i = 0 then ServiceKind.directory else .interNode)
      (reads_textVariant (show serviceKindNames.lookup "inter-node" = .ok 1 from rfl))

theorem reads_readRegistryAction (a : RegistryAction) :
    Reads (readRegistryAction : Reader RegistryAction) nest
      (Value.str a.toAction.name).bytes rest a := by
  cases a with
  | register =>
    exact Reads.bind_nil_right
      (reads_textVariant (show registryTags.lookup "Register" = .ok 0 from rfl)) (Reads.pure _)
  | lookup =>
    exact Reads.bind_nil_right
      (reads_textVariant (show registryTags.lookup "Lookup" = .ok 1 from rfl)) (Reads.pure _)
  | getAvailablePort =>
    exact Reads.bind_nil_right
      (reads_textVariant (show registryTags.lookup "GetAvailablePort" = .ok 2 from rfl))
      (Reads.pure _)

end FieldText

/-! ## Fields from a value read before -/

section FieldTree

variable {kind : TreeKind}

theorem run_parsed {parse : String → Except Fault α} {s : String} {a : α} (h : parse s = .ok a) :
    (parsed parse : TreeReader α).run kind (.str s) = .ok a :=
  TreeReader.run_convert (show (parse s).mapError Fault.message = .ok a by rw [h]; rfl)

theorem run_readCampus (c : Campus) : (readCampus : TreeReader Campus).run kind c.toJson = .ok c :=
  run_parsed (Campus.code_spec c).2.2

theorem run_readUserId (u : UserId) :
    (readUserId : TreeReader UserId).run kind (.str u.toString) = .ok u :=
  run_parsed (UserId.parse_toString u)

theorem run_readBookingId (b : BookingId) :
    (readBookingId : TreeReader BookingId).run kind (.str b.toString) = .ok b :=
  run_parsed (BookingId.parse_toString b)

theorem run_readTimeslot (t : Timeslot) :
    (readTimeslot : TreeReader Timeslot).run kind t.toJson = .ok t :=
  run_parsed (Timeslot.parse_toString t)

theorem run_readDate (d : Date) : (readDate : TreeReader Date).run kind d.toJson = .ok d :=
  TreeReader.run_treeDate d

theorem run_readRoom (r : UInt16) : (readRoom : TreeReader UInt16).run kind (roomJson r) = .ok r := by
  have hword : (TreeReader.treeWord "u16" 65535).run kind (roomJson r) = .ok r.toNat :=
    TreeReader.run_treeWord "u16" (Nat.le_of_lt_succ (UInt16.toNat_lt r))
  have h := TreeReader.run_bind_pure Nat.toUInt16 hword
  rwa [Nat.toUInt16, UInt16.ofNat_toNat] at h

theorem run_readTimeslots (slots : List Timeslot) :
    (ShapeReader.list readTimeslot : TreeReader (List Timeslot)).run kind
      (.arr (slots.map (·.toJson))) = .ok slots :=
  TreeReader.run_treeList fun t _ => run_readTimeslot t

end FieldTree

/-! ## Requests to the registry -/

/-- A registry request read so far: the action, if read, and the other fields. -/
abbrev RegistryDraft := Option RegistryAction × RegistryRequest

/-- The members of a registry request's object form, as fields of its record: the action,
then each field that the request gives. -/
def registryFields (r : RegistryRequest) : List (RecordField registryShape RegistryDraft) :=
  ⟨"action", 0, .str r.action.toAction.name, fun d => (some r.action, d.2), rfl⟩ ::
    ((r.kind.map fun k =>
        ⟨"service_kind", 1, k.toJson, fun d => (d.1, { d.2 with kind := some k }), rfl⟩).toList ++
      (r.campus.map fun c =>
        ⟨"campus", 2, c.toJson, fun d => (d.1, { d.2 with campus := some c }), rfl⟩).toList ++
      (r.host.map fun h =>
        ⟨"host", 3, .str h, fun d => (d.1, { d.2 with host := some h }), rfl⟩).toList ++
      (r.port.map fun p =>
        ⟨"port", 4, .nat p.toNat, fun d => (d.1, { d.2 with port := some p }), rfl⟩).toList ++
      (r.path.map fun p =>
        ⟨"path", 5, .str p, fun d => (d.1, { d.2 with path := some p }), rfl⟩).toList)

theorem toJson_registryFields (r : RegistryRequest) :
    r.toJson = .obj ((registryFields r).map RecordField.member) := by
  rcases r with ⟨a, _ | k, _ | c, _ | h, _ | p, _ | q⟩ <;> rfl

/-- The fields that a registry request gives stand in the order of the record. -/
theorem registryFields_index_nodup (r : RegistryRequest) :
    ((registryFields r).map RecordField.index).Nodup := by
  rcases r with ⟨a, _ | k, _ | c, _ | h, _ | p, _ | q⟩ <;> simp [registryFields]

/-- Read from the empty draft, the fields give back the request. -/
theorem registryFields_applyAll (r : RegistryRequest) :
    RecordField.applyAll (registryFields r) (none, { action := .register }) =
      (some r.action, { r with action := .register }) := by
  rcases r with ⟨a, _ | k, _ | c, _ | h, _ | p, _ | q⟩ <;> rfl

theorem reads_registryStep (r : RegistryRequest) {nest : Nat} :
    ∀ f ∈ registryFields r, ∀ s more, Delimited more →
      Reads (registryStep f.index s : Reader RegistryDraft) nest f.value.bytes more (f.update s) := by
  intro f hf s more hmore
  simp only [registryFields, List.mem_cons, List.mem_append, Option.mem_toList,
    Option.map_eq_some_iff] at hf
  rcases hf with rfl | (((( ⟨k, -, rfl⟩ | ⟨c, -, rfl⟩) | ⟨h, -, rfl⟩) | ⟨p, -, rfl⟩) | ⟨q, -, rfl⟩)
  · exact Reads.bind_pure (fun a => (some a, s.2)) (reads_readRegistryAction r.action)
  · exact Reads.bind_pure (fun o => (s.1, { s.2 with kind := o }))
      (reads_textOptional_some (opensPiece_str k.name) (reads_readServiceKind k))
  · exact Reads.bind_pure (fun o => (s.1, { s.2 with campus := o }))
      (reads_textOptional_some (opensPiece_str c.code) (reads_readCampus c))
  · exact Reads.bind_pure (fun o => (s.1, { s.2 with host := o }))
      (reads_textOptional_some (opensPiece_str h) (reads_textString h))
  · exact Reads.bind_pure (fun o => (s.1, { s.2 with port := o }))
      (reads_textOptional_some (opensPiece_nat p.toNat) (reads_readRoom p hmore))
  · exact Reads.bind_pure (fun o => (s.1, { s.2 with path := o }))
      (reads_textOptional_some (opensPiece_str q) (reads_textString q))

/-- A registry request is read back from its text, whatever follows the text. -/
theorem reads_readRegistryRequest (r : RegistryRequest) {rest : List UInt8} :
    Reads (readRegistryRequest : Reader RegistryRequest) 1 r.toJson.bytes rest r := by
  rw [toJson_registryFields]
  refine reads_textRecord (reads_registryStep r) (registryFields_index_nodup r) ?_
  rw [registryFields_applyAll]
  rfl

/-! ## Requests to a campus: the fields of each action -/

section Actions

variable {kind : TreeKind}

/-- The fields of a change to a room's timeslots. -/
def roomFields (variant : String) (room : UInt16) (date : Date) (slots : List Timeslot) :
    List (RecordField (variantShape variant ["room", "date", "slots"]) RoomDraft) :=
  [⟨"room", 0, roomJson room, fun d => { d with room := some room }, rfl⟩,
    ⟨"date", 1, date.toJson, fun d => { d with date := some date }, rfl⟩,
    ⟨"slots", 2, .arr (slots.map (·.toJson)), fun d => { d with slots := some slots }, rfl⟩]

/-- The fields of a booking. -/
def bookRoomFields (student : UserId) (t : SlotRef) :
    List (RecordField (variantShape "BookRoom" ["student_id", "campus", "room", "date", "slot"])
      TargetDraft) :=
  [⟨"student_id", 0, .str student.toString, fun d => { d with student := some student }, rfl⟩,
    ⟨"campus", 1, t.campus.toJson, fun d => { d with campus := some t.campus }, rfl⟩,
    ⟨"room", 2, roomJson t.room, fun d => { d with room := some t.room }, rfl⟩,
    ⟨"date", 3, t.date.toJson, fun d => { d with date := some t.date }, rfl⟩,
    ⟨"slot", 4, t.slot.toJson, fun d => { d with slot := some t.slot }, rfl⟩]

/-- The fields of a move of a booking. -/
def changeFields (student : UserId) (booking : BookingId) (t : SlotRef) :
    List (RecordField (variantShape "ChangeReservation"
      ["student_id", "booking_id", "new_campus", "new_room", "new_date", "new_slot"]) TargetDraft) :=
  [⟨"student_id", 0, .str student.toString, fun d => { d with student := some student }, rfl⟩,
    ⟨"booking_id", 1, .str booking.toString, fun d => { d with booking := some booking }, rfl⟩,
    ⟨"new_campus", 2, t.campus.toJson, fun d => { d with campus := some t.campus }, rfl⟩,
    ⟨"new_room", 3, roomJson t.room, fun d => { d with room := some t.room }, rfl⟩,
    ⟨"new_date", 4, t.date.toJson, fun d => { d with date := some t.date }, rfl⟩,
    ⟨"new_slot", 5, t.slot.toJson, fun d => { d with slot := some t.slot }, rfl⟩]

/-- The one field of a question about a date. -/
def dateFields (variant : String) (date : Date) :
    List (RecordField (variantShape variant ["date"]) (Option Date)) :=
  [⟨"date", 0, date.toJson, fun _ => some date, rfl⟩]

/-- The fields of a cancellation. -/
def cancelFields (student : UserId) (booking : BookingId) :
    List (RecordField (variantShape "CancelBooking" ["student_id", "booking_id"])
      (Option UserId × Option BookingId)) :=
  [⟨"student_id", 0, .str student.toString, fun d => (some student, d.2), rfl⟩,
    ⟨"booking_id", 1, .str booking.toString, fun d => (d.1, some booking), rfl⟩]

/-- The fields of a question about a student's bookings in a week. -/
def countFields (student : UserId) (date : Date) :
    List (RecordField (variantShape "GetBookingCount" ["student_id", "date"])
      (Option UserId × Option Date)) :=
  [⟨"student_id", 0, .str student.toString, fun d => (some student, d.2), rfl⟩,
    ⟨"date", 1, date.toJson, fun d => (d.1, some date), rfl⟩]

theorem run_readRoomFields (variant : String) (room : UInt16) (date : Date)
    (slots : List Timeslot) :
    (readRoomFields variant : TreeReader _).run kind
      (.obj ((roomFields variant room date slots).map RecordField.member)) =
        .ok (room, date, slots) := by
  refine TreeReader.run_treeRecord ?_ (by simp [roomFields]) rfl
  simp only [roomFields, List.mem_cons, List.not_mem_nil, or_false]
  rintro f (rfl | rfl | rfl) d
  · exact TreeReader.run_bind_pure _ (run_readRoom room)
  · exact TreeReader.run_bind_pure _ (run_readDate date)
  · exact TreeReader.run_bind_pure _ (run_readTimeslots slots)

theorem run_readBookRoom (student : UserId) (t : SlotRef) :
    (readBookRoom : TreeReader Request).run kind
      (.obj ((bookRoomFields student t).map RecordField.member)) = .ok (.bookRoom student t) := by
  refine TreeReader.run_treeRecord ?_ (by simp [bookRoomFields]) rfl
  simp only [bookRoomFields, List.mem_cons, List.not_mem_nil, or_false]
  rintro f (rfl | rfl | rfl | rfl | rfl) d
  · exact TreeReader.run_bind_pure _ (run_readUserId student)
  · exact TreeReader.run_bind_pure _ (run_readCampus t.campus)
  · exact TreeReader.run_bind_pure _ (run_readRoom t.room)
  · exact TreeReader.run_bind_pure _ (run_readDate t.date)
  · exact TreeReader.run_bind_pure _ (run_readTimeslot t.slot)

theorem run_readChange (student : UserId) (booking : BookingId) (t : SlotRef) :
    (readChange : TreeReader Request).run kind
      (.obj ((changeFields student booking t).map RecordField.member)) =
        .ok (.changeReservation student booking t) := by
  refine TreeReader.run_treeRecord ?_ (by simp [changeFields]) rfl
  simp only [changeFields, List.mem_cons, List.not_mem_nil, or_false]
  rintro f (rfl | rfl | rfl | rfl | rfl | rfl) d
  · exact TreeReader.run_bind_pure _ (run_readUserId student)
  · exact TreeReader.run_bind_pure _ (run_readBookingId booking)
  · exact TreeReader.run_bind_pure _ (run_readCampus t.campus)
  · exact TreeReader.run_bind_pure _ (run_readRoom t.room)
  · exact TreeReader.run_bind_pure _ (run_readDate t.date)
  · exact TreeReader.run_bind_pure _ (run_readTimeslot t.slot)

theorem run_readDateOnly (variant : String) (date : Date) :
    (readDateOnly variant : TreeReader Date).run kind
      (.obj ((dateFields variant date).map RecordField.member)) = .ok date := by
  refine TreeReader.run_treeRecord ?_ (by simp [dateFields]) rfl
  simp only [dateFields, List.mem_cons, List.not_mem_nil, or_false]
  rintro f rfl d
  exact TreeReader.run_bind_pure _ (run_readDate date)

theorem run_readCancel (student : UserId) (booking : BookingId) :
    (readCancel : TreeReader Request).run kind
      (.obj ((cancelFields student booking).map RecordField.member)) =
        .ok (.cancelBooking student booking) := by
  refine TreeReader.run_treeRecord ?_ (by simp [cancelFields]) rfl
  simp only [cancelFields, List.mem_cons, List.not_mem_nil, or_false]
  rintro f (rfl | rfl) d
  · exact TreeReader.run_bind_pure _ (run_readUserId student)
  · exact TreeReader.run_bind_pure _ (run_readBookingId booking)

theorem run_readCount (student : UserId) (date : Date) :
    (readCount : TreeReader Request).run kind
      (.obj ((countFields student date).map RecordField.member)) =
        .ok (.bookingCount student date) := by
  refine TreeReader.run_treeRecord ?_ (by simp [countFields]) rfl
  simp only [countFields, List.mem_cons, List.not_mem_nil, or_false]
  rintro f (rfl | rfl) d
  · exact TreeReader.run_bind_pure _ (run_readUserId student)
  · exact TreeReader.run_bind_pure _ (run_readDate date)

end Actions

end Wire

/-! ## Requests to a campus: the two passes -/

namespace Request

open Wire Json

/-- The index of a request's action among the request tags. -/
def tagIndex : Request → Nat
  | .createRoom .. => 0
  | .deleteRoom .. => 1
  | .bookRoom .. => 2
  | .availableEverywhere _ => 3
  | .availableHere _ => 4
  | .cancelBooking .. => 5
  | .changeReservation .. => 6
  | .bookingCount .. => 7
  | .unrecognized => 8

/-- The members of a request's object form after its action. -/
def kept (r : Request) : List (String × Json.Value) :=
  match r.toJson with
  | .obj (_ :: ms) => ms
  | _ => []

theorem toJson_eq_kept (r : Request) : r.toJson = .obj (("action", .str r.action.name) :: r.kept) := by
  cases r <;> rfl

theorem lookup_action_name (r : Request) : requestTags.lookup r.action.name = .ok r.tagIndex := by
  cases r <;> rfl

theorem kept_key_ne_action (r : Request) : ∀ m ∈ r.kept, m.1 ≠ "action" := by
  cases r <;> simp [kept, Request.toJson]

/-- The kept members are strings, room numbers and lists of strings. -/
theorem kept_plain (r : Request) : ∀ m ∈ r.kept, m.2.Plain 1 := by
  have hstr : ∀ s, (Json.Value.str s).Plain 1 := fun s => .str s
  have hroom : ∀ room : UInt16, (roomJson room).Plain 1 := fun room =>
    .nat (le_trans (Nat.le_of_lt_succ (UInt16.toNat_lt room)) (by decide))
  have hslots : ∀ slots : List Timeslot, (Json.Value.arr (slots.map (·.toJson))).Plain 1 := fun slots =>
    .arr fun v hv => by
      obtain ⟨t, -, rfl⟩ := List.mem_map.mp hv
      exact .str _
  cases r <;> simp only [kept, Request.toJson, List.mem_cons, List.not_mem_nil, or_false] <;>
    rintro m (rfl | rfl | rfl | rfl | rfl | rfl) <;>
    first | exact hstr _ | exact hroom _ | exact hslots _

end Request

namespace Wire

open Json Reader

/-- The second pass reads the kept members as the fields of the request's action. -/
theorem run_requestOfTag (r : Request) :
    (requestOfTag r.tagIndex).run .buffered (.obj r.kept) = .ok r := by
  cases r with
  | createRoom room date slots =>
    have h : (readRoomFields "CreateRoom" : TreeReader _).run .buffered
        (.obj (Request.createRoom room date slots).kept) = .ok (room, date, slots) :=
      run_readRoomFields "CreateRoom" room date slots
    exact (TreeReader.run_bind _ _ _).trans (by rw [h]; rfl)
  | deleteRoom room date slots =>
    have h : (readRoomFields "DeleteRoom" : TreeReader _).run .buffered
        (.obj (Request.deleteRoom room date slots).kept) = .ok (room, date, slots) :=
      run_readRoomFields "DeleteRoom" room date slots
    exact (TreeReader.run_bind _ _ _).trans (by rw [h]; rfl)
  | bookRoom student t => exact run_readBookRoom student t
  | availableEverywhere date => exact TreeReader.run_bind_pure _ (run_readDateOnly _ date)
  | availableHere date => exact TreeReader.run_bind_pure _ (run_readDateOnly _ date)
  | cancelBooking student booking => exact run_readCancel student booking
  | changeReservation student booking t => exact run_readChange student booking t
  | bookingCount student date => exact run_readCount student date
  | unrecognized => rfl

section Tagged

variable {n : Nat} {rest : List UInt8}

/-- The members after the action, each after its comma, are kept as read, up to the
closing brace. -/
theorem reads_taggedMembers_more {tags : Variants} {tag : Option Nat}
    {ms : List (String × Json.Value)} (hkeys : ∀ m ∈ ms, m.1 ≠ "action")
    (hplain : ∀ m ∈ ms, m.2.Plain n) (kept : List (String × Json.Value)) {fuel : Nat}
    (hfuel : ms.length < fuel) :
    Reads (TaggedText.members tags false tag kept fuel) n
      (ms.flatMap fun m => 44 :: Value.memberBytes m) (125 :: rest) (tag, kept ++ ms) := by
  induction ms generalizing kept fuel with
  | nil =>
    obtain ⟨fuel, rfl⟩ : ∃ g, fuel = g + 1 := ⟨fuel - 1, by simp at hfuel; omega⟩
    rw [TaggedText.members, List.append_nil]
    exact Reads.bind_nil (reads_nextKey_end false) (Reads.pure _)
  | cons m ms ih =>
    obtain ⟨k, v⟩ := m
    obtain ⟨fuel, rfl⟩ : ∃ g, fuel = g + 1 := ⟨fuel - 1, by omega⟩
    have hk : k ≠ "action" := hkeys (k, v) List.mem_cons_self
    have hrest := ih (fun m hm => hkeys m (List.mem_cons_of_mem _ hm))
      (fun m hm => hplain m (List.mem_cons_of_mem _ hm)) (kept ++ [(k, v)])
      (show ms.length < fuel by simp at hfuel; omega)
    rw [List.append_assoc, List.singleton_append] at hrest
    have hval := reads_value (hplain (k, v) List.mem_cons_self)
      (delimited_flatMap_comma ms (fun m => Value.memberBytes m) (Or.inr (Or.inr rfl)) rest)
    rw [TaggedText.members, List.flatMap_cons, List.cons_append, Value.memberBytes_append,
      ← List.cons_append]
    refine Reads.bind (reads_nextKey_comma k) ?_
    show Reads (if k = "action" then _ else
      (Reader.colon >>= fun _ => Reader.value >>= fun v =>
        TaggedText.members tags false tag (kept ++ [(k, v)]) fuel)) n _ (125 :: rest) _
    rw [if_neg hk]
    exact Reads.bind reads_colon (Reads.bind hval hrest)

/-- The members of a tagged object whose first member is the action: the action's tag,
and the other members as read. -/
theorem reads_taggedMembers_first {tags : Variants} {name : String} {t : Nat}
    (ht : tags.lookup name = .ok t) {ms : List (String × Json.Value)}
    (hkeys : ∀ m ∈ ms, m.1 ≠ "action") (hplain : ∀ m ∈ ms, m.2.Plain n) {fuel : Nat}
    (hfuel : ms.length + 1 < fuel) :
    Reads (TaggedText.members tags true none [] fuel) n
      (commaJoin ((("action", .str name) :: ms).map Value.memberBytes)) (125 :: rest) (some t, ms) := by
  obtain ⟨fuel, rfl⟩ : ∃ g, fuel = g + 1 := ⟨fuel - 1, by omega⟩
  have hrest : Reads (TaggedText.members tags false (some t) [] fuel) n
      (ms.flatMap fun m => 44 :: Value.memberBytes m) (125 :: rest) (some t, [] ++ ms) :=
    reads_taggedMembers_more hkeys hplain [] (by omega)
  rw [commaJoin_map_cons, TaggedText.members, Value.memberBytes_append]
  refine Reads.bind (reads_nextKey_first "action") ?_
  show Reads (if "action" = "action" then
      (if (none : Option Nat).isSome then Reader.refuse (.duplicateField "action") else
        (Reader.colon >>= fun _ => Reader.variantName tags >>= fun t =>
          TaggedText.members tags false (some t) [] fuel)) else _) n _ (125 :: rest) _
  rw [if_pos rfl, if_neg (by decide)]
  exact Reads.bind reads_colon (Reads.bind (reads_variantName ht) hrest)

/-- The first pass over a tagged object: the tag of its action, and its other members
kept as read. -/
theorem reads_taggedText {tags : Variants} {name : String} {t : Nat}
    (ht : tags.lookup name = .ok t) {ms : List (String × Json.Value)}
    (hkeys : ∀ m ∈ ms, m.1 ≠ "action") (hplain : ∀ m ∈ ms, m.2.Plain n) (expecting : String) :
    Reads (TaggedText.read tags expecting) (n + 1) (Value.obj (("action", .str name) :: ms)).bytes
      rest (t, .obj ms) := by
  rw [Value.bytes_obj]
  refine Reads.positioned (Reads.bind_nil (reads_skipBlanks fun _ h => by cases h; rfl) ?_)
  refine Reads.nested (k := fun r => Pure.pure r) 123
    (Reads.closing (Reads.get_bind fun c hsize => ?_) reads_closeObject) (Reads.pure _)
  have hcount : ms.length + 1 ≤ (commaJoin ((("action", .str name) :: ms).map
      Value.memberBytes)).length := by
    have h := length_le_commaJoin ((("action", .str name) :: ms).map Value.memberBytes)
      (by simp only [List.mem_map]; rintro _ ⟨m, -, rfl⟩; exact memberBytes_ne_nil m)
    rwa [List.length_map, List.length_cons] at h
  simp only [List.length_append] at hsize
  exact Reads.bind_nil_right (reads_taggedMembers_first ht hkeys hplain
    (show ms.length + 1 < c.input.size + 1 by omega)) (Reads.pure _)

end Tagged

/-- A request is read back from its text, whatever follows the text: the first pass finds
its action and keeps its fields, the second reads them. -/
theorem reads_readRequest (r : Request) {rest : List UInt8} :
    Reads readRequest 2 r.toJson.bytes rest r := by
  rw [Request.toJson_eq_kept]
  refine Reads.bind_nil_right (reads_taggedText (Request.lookup_action_name r)
    (Request.kept_key_ne_action r) (Request.kept_plain r) _) ?_
  dsimp only
  rw [run_requestOfTag]
  exact Reads.pure r

end Wire

end CampusBooking
