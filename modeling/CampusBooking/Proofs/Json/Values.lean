import CampusBooking.Proofs.Json.Scalars

/-!
# Reading back written values

`Value.text` writes a value compactly.  This module proves that the reader takes the text
of a value back to the value, for every value built from `null`, booleans, strings,
unsigned integers below 2⁶⁴, arrays and objects (`Value.Plain`), whatever follows it in
the text as long as a value may end there (`Delimited`):

* `Value.bytes_arr`, `Value.bytes_obj`: the bytes of an array or an object are those of
  its items or members, separated by commas, between brackets;
* `reads_readValue`: `readValue` with more steps than the text has bytes reads the value,
  taking one level of nesting for each array or object it opens;
* `reads_value`: the same for `value`, whose steps come from the size of the whole text.

The steps between items and members (`nextItem`, `nextKey`, `colon`, `closeArray`,
`closeObject`, `finish`) are proved first, each for what a compact text puts there.
-/

namespace CampusBooking

namespace Json

open Reader

/-! ## The bytes of a written value -/

/-- The UTF-8 bytes of a text. -/
def textBytes (s : String) : List UInt8 := s.toByteArray.data.toList

@[simp] theorem textBytes_append (s t : String) : textBytes (s ++ t) = textBytes s ++ textBytes t := by
  simp only [textBytes, String.toByteArray_append, ByteArray.toList_data_append]

theorem textBytes_quote (s : String) :
    textBytes (quote s) = 34 :: s.toList.flatMap escapedBytes ++ [34] :=
  quote_bytes s

theorem textBytes_decimal (n : Nat) :
    textBytes (Text.decimal n) = (Nat.toDigits 10 n).flatMap String.utf8EncodeChar := by
  rw [textBytes, String.toByteArray_data_toList, Text.decimal_toList]

/-- Pieces of text separated by commas. -/
def commaJoin : List (List UInt8) → List UInt8
  | [] => []
  | x :: xs => x ++ xs.flatMap (44 :: ·)

namespace Value

/-- The bytes of the written text of a value. -/
def bytes (v : Value) : List UInt8 := textBytes v.text

/-- The bytes of a member of a written object: its key, a colon and its value. -/
def memberBytes (m : String × Value) : List UInt8 := textBytes (quote m.1) ++ 58 :: m.2.bytes

theorem bytes_null : Value.null.bytes = [110, 117, 108, 108] := rfl

theorem bytes_true : (Value.bool true).bytes = [116, 114, 117, 101] := rfl

theorem bytes_false : (Value.bool false).bytes = [102, 97, 108, 115, 101] := rfl

theorem bytes_str (s : String) : (Value.str s).bytes = 34 :: s.toList.flatMap escapedBytes ++ [34] := by
  rw [bytes, text, textBytes_quote]

theorem bytes_nat (n : Nat) :
    (Value.num (.nat n)).bytes = (Nat.toDigits 10 n).flatMap String.utf8EncodeChar := by
  rw [bytes, text, Number.text, textBytes_decimal]

theorem textBytes_itemsText (items : List Value) :
    textBytes (itemsText items) = commaJoin (items.map bytes) := by
  induction items with
  | nil => rfl
  | cons v vs ih =>
    cases vs with
    | nil => simp [itemsText, commaJoin, bytes]
    | cons w ws =>
      rw [itemsText, textBytes_append, textBytes_append, ih]
      · simp [commaJoin, bytes, textBytes]
        rfl
      · exact List.cons_ne_nil _ _

theorem textBytes_membersText (ms : List (String × Value)) :
    textBytes (membersText ms) = commaJoin (ms.map memberBytes) := by
  induction ms with
  | nil => rfl
  | cons m ms ih =>
    obtain ⟨k, v⟩ := m
    cases ms with
    | nil => simp [membersText, commaJoin, memberBytes, bytes, textBytes]; rfl
    | cons m' ms' =>
      rw [membersText, textBytes_append, textBytes_append, textBytes_append, textBytes_append, ih]
      · simp [commaJoin, memberBytes, bytes, textBytes]
        rfl
      · exact List.cons_ne_nil _ _

/-- The text of a number starts with a digit. -/
theorem bytes_nat_head (m : Nat) :
    ∃ b bs, (Value.num (.nat m)).bytes = b :: bs ∧ isDigitByte b = true := by
  obtain ⟨d, ds, hds⟩ : ∃ d ds, Nat.toDigits 10 m = d :: ds :=
    List.exists_cons_of_ne_nil Nat.toDigits_ne_nil
  have hd : d.isDigit = true := Text.isDigit_of_mem_toDigits (by rw [hds]; exact List.mem_cons_self)
  obtain ⟨hbytes, hdigit, -⟩ := digit_bytes hd
  exact ⟨_, _, by rw [bytes_nat, hds, List.flatMap_cons, hbytes, List.singleton_append], hdigit⟩

/-- A member's bytes, split where the reader splits them: key, colon, value. -/
theorem memberBytes_append (k : String) (v : Value) (more : List UInt8) :
    memberBytes (k, v) ++ more = textBytes (quote k) ++ ([58] ++ (v.bytes ++ more)) := by
  simp [memberBytes]

theorem bytes_arr (items : List Value) :
    (Value.arr items).bytes = 91 :: commaJoin (items.map bytes) ++ [93] := by
  rw [bytes, text, textBytes_append, textBytes_append, textBytes_itemsText]
  rfl

theorem bytes_obj (ms : List (String × Value)) :
    (Value.obj ms).bytes = 123 :: commaJoin (ms.map memberBytes) ++ [125] := by
  rw [bytes, text, textBytes_append, textBytes_append, textBytes_membersText]
  rfl

end Value

theorem length_bytes (v : Value) : v.bytes.length = v.text.utf8ByteSize := by
  simp [Value.bytes, textBytes]

/-! ## What follows a value -/

/-- What may follow a value inside a text: a comma, the end of an array or of an object, or
the end of the text. -/
def Delimited (rest : List UInt8) : Prop := ∀ b ∈ rest.head?, b = 44 ∨ b = 93 ∨ b = 125

section Delimited

variable {rest : List UInt8}

theorem Delimited.endsNumber (h : Delimited rest) : EndsNumber rest := by
  intro b hb
  rcases h b hb with rfl | rfl | rfl <;> decide

/-- After a list of items or members, each led by a comma, comes what followed the list. -/
theorem delimited_flatMap_comma {α : Type} (xs : List α) (f : α → List UInt8) {b : UInt8}
    (hb : b = 44 ∨ b = 93 ∨ b = 125) (more : List UInt8) :
    Delimited (xs.flatMap (fun x => 44 :: f x) ++ b :: more) := by
  cases xs with
  | nil => exact fun _ h => by cases h; exact hb
  | cons x xs => exact fun _ h => by cases h; exact Or.inl rfl

end Delimited

/-- A byte that may open a value: not a separator, not a closing bracket and not blank. -/
def OpensValue (b : UInt8) : Prop := b ≠ 44 ∧ b ≠ 93 ∧ b ≠ 125 ∧ isBlankByte b = false

instance (b : UInt8) : Decidable (OpensValue b) :=
  inferInstanceAs (Decidable (b ≠ 44 ∧ b ≠ 93 ∧ b ≠ 125 ∧ isBlankByte b = false))

theorem opensValue_of_isDigitByte {b : UInt8} (h : isDigitByte b = true) : OpensValue b := by
  simp only [isDigitByte, Bool.and_eq_true, decide_eq_true_eq, UInt8.le_iff_toNat_le] at h
  simp only [OpensValue, isBlankByte, ne_eq, Bool.or_eq_false_iff, decide_eq_false_iff_not,
    ← UInt8.toNat_inj]
  simp only [UInt8.reduceToNat] at h ⊢
  omega

/-! ## Between items and members -/

section Separators

variable {nest : Nat} {rest : List UInt8}

theorem reads_nextItem_first {b : UInt8} (hb : OpensValue b) :
    Reads (nextItem true) nest [] (b :: rest) true := by
  obtain ⟨h44, h93, -, hblank⟩ := hb
  intro c hc _
  rw [List.nil_append] at hc
  have hnb : NoBlank c.rest := by rw [hc]; exact fun _ h => by cases h; exact hblank
  rw [nextItem, runAt_bind, runAt_skipBlanks_of hnb, hc, List.head?_cons]
  dsimp only
  split
  · rename_i h; cases h; exact absurd rfl h93
  · rename_i h; cases h; exact absurd rfl h44
  · rename_i b' _ _ h
    cases h
    rw [if_pos rfl, runAt_bind, runAt_pure]
    dsimp only
    split
    · rename_i h; cases h
    · rename_i h; cases h; exact absurd rfl h93
    · rfl
    · rename_i h; cases h
  · rename_i h; cases h

theorem reads_nextItem_comma {b : UInt8} (hb : OpensValue b) :
    Reads (nextItem false) nest [44] (b :: rest) true := by
  obtain ⟨h44, h93, -, hblank⟩ := hb
  intro c hc _
  have hnb : NoBlank c.rest := by rw [hc]; exact fun _ h => by cases h; rfl
  have hafter : (c.skip 1).rest = b :: rest := Cursor.rest_skip_of_eq hc
  have hnb' : NoBlank (c.skip 1).rest := by rw [hafter]; exact fun _ h => by cases h; exact hblank
  rw [nextItem, runAt_bind, runAt_skipBlanks_of hnb, hc]
  show runAt (advance >>= fun _ => skipBlanks >>= fun l => Pure.pure (some l) >>= _) c = _
  rw [runAt_bind, runAt_advance]
  dsimp only
  rw [runAt_bind, runAt_skipBlanks_of hnb', hafter, List.head?_cons]
  dsimp only
  rw [runAt_bind, runAt_pure]
  dsimp only
  split
  · rename_i h; cases h
  · rename_i h; cases h; exact absurd rfl h93
  · rfl
  · rename_i h; cases h

theorem reads_nextItem_end (first : Bool) : Reads (nextItem first) nest [] (93 :: rest) false := by
  intro c hc _
  rw [List.nil_append] at hc
  have hnb : NoBlank c.rest := by rw [hc]; exact fun _ h => by cases h; rfl
  rw [nextItem, runAt_bind, runAt_skipBlanks_of hnb, hc]
  rfl

theorem reads_nextKey_first (k : String) :
    Reads (nextKey true) nest (textBytes (quote k)) rest (some k) := by
  intro c hc hd
  rw [textBytes_quote, List.cons_append] at hc
  have hnb : NoBlank c.rest := by rw [hc]; exact fun _ h => by cases h; rfl
  have hafter : (c.skip 1).rest = k.toList.flatMap escapedBytes ++ [34] ++ rest :=
    Cursor.rest_skip_of_eq (show c.rest = [34] ++ _ from hc)
  rw [nextKey, runAt_bind, runAt_skipBlanks_of hnb, hc]
  show runAt (advance >>= fun _ => readString >>= fun s => Pure.pure (some s)) c = _
  rw [runAt_bind, runAt_advance]
  dsimp only
  rw [runAt_bind, reads_readString k _ hafter hd]
  simp [textBytes_quote, Nat.add_comm]

theorem reads_nextKey_comma (k : String) :
    Reads (nextKey false) nest (44 :: textBytes (quote k)) rest (some k) := by
  intro c hc hd
  rw [textBytes_quote, List.cons_append, List.cons_append] at hc
  have hnb : NoBlank c.rest := by rw [hc]; exact fun _ h => by cases h; rfl
  have hafter : (c.skip 1).rest = 34 :: (k.toList.flatMap escapedBytes ++ [34] ++ rest) :=
    Cursor.rest_skip_of_eq (show c.rest = [44] ++ _ from hc)
  have hnb' : NoBlank (c.skip 1).rest := by rw [hafter]; exact fun _ h => by cases h; rfl
  have hstring : ((c.skip 1).skip 1).rest = k.toList.flatMap escapedBytes ++ [34] ++ rest :=
    Cursor.rest_skip_of_eq (show (c.skip 1).rest = [34] ++ _ from hafter)
  rw [nextKey, runAt_bind, runAt_skipBlanks_of hnb, hc]
  show runAt (advance >>= fun _ => skipBlanks >>= fun l => Pure.pure (some l) >>= _) c = _
  rw [runAt_bind, runAt_advance]
  dsimp only
  rw [runAt_bind, runAt_skipBlanks_of hnb', hafter, List.head?_cons]
  dsimp only
  rw [runAt_bind, runAt_pure]
  show runAt (advance >>= fun _ => readString >>= fun s => Pure.pure (some s)) (c.skip 1) = _
  rw [runAt_bind, runAt_advance]
  dsimp only
  rw [runAt_bind, reads_readString k _ hstring hd]
  simp only [Cursor.skip_skip, textBytes_quote, List.length_cons, List.length_append]
  congr 2
  omega

theorem reads_nextKey_end (first : Bool) : Reads (nextKey first) nest [] (125 :: rest) none := by
  intro c hc _
  rw [List.nil_append] at hc
  have hnb : NoBlank c.rest := by rw [hc]; exact fun _ h => by cases h; rfl
  rw [nextKey, runAt_bind, runAt_skipBlanks_of hnb, hc]
  rfl

theorem reads_colon : Reads colon nest [58] rest () := by
  intro c hc _
  have hnb : NoBlank c.rest := by rw [hc]; exact fun _ h => by cases h; rfl
  rw [colon, runAt_bind, runAt_skipBlanks_of hnb, hc]
  rfl

theorem reads_closeArray : Reads closeArray nest [93] rest () := by
  intro c hc _
  have hnb : NoBlank c.rest := by rw [hc]; exact fun _ h => by cases h; rfl
  rw [closeArray, runAt_bind, runAt_skipBlanks_of hnb, hc]
  rfl

theorem reads_closeObject : Reads closeObject nest [125] rest () := by
  intro c hc _
  have hnb : NoBlank c.rest := by rw [hc]; exact fun _ h => by cases h; rfl
  rw [closeObject, runAt_bind, runAt_skipBlanks_of hnb, hc]
  rfl

theorem reads_finish : Reads finish nest [] [] () := by
  intro c hc _
  have hnb : NoBlank c.rest := by rw [hc]; exact fun _ h => nomatch h
  rw [finish, runAt_bind, runAt_skipBlanks_of hnb, hc]
  rfl

end Separators

/-! ## Values -/

namespace Value

/-- A value that the reader takes back from its text: built from `null`, booleans, strings,
unsigned integers below 2⁶⁴, arrays and objects, with arrays and objects nested at most
`n` deep. -/
inductive Plain : Nat → Value → Prop
  | null {n : Nat} : Plain n .null
  | bool {n : Nat} (b : Bool) : Plain n (.bool b)
  | str {n : Nat} (s : String) : Plain n (.str s)
  | nat {n m : Nat} (h : m ≤ u64Max) : Plain n (.num (.nat m))
  | arr {n : Nat} {items : List Value} (h : ∀ v ∈ items, Plain n v) : Plain (n + 1) (.arr items)
  | obj {n : Nat} {ms : List (String × Value)} (h : ∀ m ∈ ms, Plain n m.2) :
      Plain (n + 1) (.obj ms)

/-- The text of a value starts with a byte that opens a value. -/
theorem Plain.opens {n : Nat} {v : Value} (hv : v.Plain n) :
    ∃ b bs, v.bytes = b :: bs ∧ OpensValue b := by
  cases hv with
  | null => exact ⟨110, _, bytes_null, by decide⟩
  | bool b => cases b
              · exact ⟨102, _, bytes_false, by decide⟩
              · exact ⟨116, _, bytes_true, by decide⟩
  | str s => exact ⟨34, _, by rw [bytes_str, List.cons_append], by decide⟩
  | nat h =>
    rename_i m
    obtain ⟨b, bs, hbs, hdigit⟩ := bytes_nat_head m
    exact ⟨b, bs, hbs, opensValue_of_isDigitByte hdigit⟩
  | arr h => exact ⟨91, _, by rw [bytes_arr, List.cons_append], by decide⟩
  | obj h => exact ⟨123, _, by rw [bytes_obj, List.cons_append], by decide⟩

end Value

section Items

variable {n : Nat} {rest : List UInt8}

/-- The items after the first, each after its comma, are read one by one onto those read
before, up to the closing bracket. -/
theorem reads_readItems_more {items : List Value}
    (hitems : ∀ v ∈ items, v.Plain n ∧ ∀ fuel more, v.bytes.length < fuel → Delimited more →
      Reads (readValue fuel) n v.bytes more v)
    (acc : List Value) {fuel : Nat} (hf : (items.flatMap fun v => 44 :: v.bytes).length < fuel) :
    Reads (readItems false acc fuel) n (items.flatMap fun v => 44 :: v.bytes) (93 :: rest)
      (acc ++ items) := by
  induction items generalizing acc fuel with
  | nil =>
    obtain ⟨fuel, rfl⟩ : ∃ f, fuel = f + 1 := ⟨fuel - 1, by simp at hf; omega⟩
    rw [readItems, List.append_nil]
    exact Reads.bind_nil (reads_nextItem_end false) (Reads.pure acc)
  | cons v vs ih =>
    obtain ⟨fuel, rfl⟩ : ∃ f, fuel = f + 1 := ⟨fuel - 1, by simp at hf; omega⟩
    obtain ⟨hplain, hread⟩ := hitems v List.mem_cons_self
    obtain ⟨b, bs, hbs, hopen⟩ := hplain.opens
    rw [List.flatMap_cons, List.length_append, List.length_cons] at hf
    have hvs := ih (fun w hw => hitems w (List.mem_cons_of_mem _ hw)) (acc ++ [v])
      (show _ < fuel by omega)
    rw [List.append_assoc, List.singleton_append] at hvs
    have hcomma : Reads (nextItem false) n [44]
        ((v.bytes ++ vs.flatMap fun v => 44 :: v.bytes) ++ 93 :: rest) true := by
      rw [hbs, List.cons_append, List.cons_append]
      exact reads_nextItem_comma hopen
    have hitem := hread fuel ((vs.flatMap fun v => 44 :: v.bytes) ++ 93 :: rest) (by omega)
      (delimited_flatMap_comma vs _ (Or.inr (Or.inl rfl)) rest)
    rw [readItems, List.flatMap_cons, ← List.singleton_append, List.append_assoc]
    exact Reads.bind hcomma (Reads.bind hitem hvs)

theorem commaJoin_map_cons {α : Type} (f : α → List UInt8) (x : α) (xs : List α) :
    commaJoin ((x :: xs).map f) = f x ++ xs.flatMap fun y => 44 :: f y := by
  simp only [List.map_cons, commaJoin, List.flatMap_map]

/-- The items of an array are read up to its closing bracket. -/
theorem reads_readItems_first {items : List Value}
    (hitems : ∀ v ∈ items, v.Plain n ∧ ∀ fuel more, v.bytes.length < fuel → Delimited more →
      Reads (readValue fuel) n v.bytes more v)
    {fuel : Nat} (hf : (commaJoin (items.map Value.bytes)).length + 1 < fuel) :
    Reads (readItems true [] fuel) n (commaJoin (items.map Value.bytes)) (93 :: rest) items := by
  obtain ⟨fuel, rfl⟩ : ∃ f, fuel = f + 1 := ⟨fuel - 1, by omega⟩
  cases items with
  | nil =>
    rw [readItems]
    exact Reads.bind_nil (reads_nextItem_end true) (Reads.pure [])
  | cons v vs =>
    obtain ⟨hplain, hread⟩ := hitems v List.mem_cons_self
    obtain ⟨b, bs, hbs, hopen⟩ := hplain.opens
    rw [commaJoin_map_cons] at hf ⊢
    rw [List.length_append] at hf
    have hvs : Reads (readItems false [v] fuel) n (vs.flatMap fun v => 44 :: v.bytes) (93 :: rest)
        ([v] ++ vs) :=
      reads_readItems_more (fun w hw => hitems w (List.mem_cons_of_mem _ hw)) [v]
        (show _ < fuel by omega)
    have hfirst : Reads (nextItem true) n []
        ((v.bytes ++ vs.flatMap fun v => 44 :: v.bytes) ++ 93 :: rest) true := by
      rw [hbs, List.cons_append, List.cons_append]
      exact reads_nextItem_first hopen
    have hitem := hread fuel ((vs.flatMap fun v => 44 :: v.bytes) ++ 93 :: rest) (by omega)
      (delimited_flatMap_comma vs _ (Or.inr (Or.inl rfl)) rest)
    rw [readItems]
    exact Reads.bind_nil hfirst (Reads.bind hitem hvs)

/-- The members after the first, each after its comma, are read one by one onto those read
before, up to the closing brace. -/
theorem reads_readMembers_more {ms : List (String × Value)}
    (hms : ∀ m ∈ ms, ∀ fuel more, m.2.bytes.length < fuel → Delimited more →
      Reads (readValue fuel) n m.2.bytes more m.2)
    (acc : List (String × Value)) {fuel : Nat}
    (hf : (ms.flatMap fun m => 44 :: Value.memberBytes m).length < fuel) :
    Reads (readMembers false acc fuel) n (ms.flatMap fun m => 44 :: Value.memberBytes m)
      (125 :: rest) (acc ++ ms) := by
  induction ms generalizing acc fuel with
  | nil =>
    obtain ⟨fuel, rfl⟩ : ∃ f, fuel = f + 1 := ⟨fuel - 1, by simp at hf; omega⟩
    rw [readMembers, List.append_nil]
    exact Reads.bind_nil (reads_nextKey_end false) (Reads.pure acc)
  | cons m ms ih =>
    obtain ⟨k, v⟩ := m
    obtain ⟨fuel, rfl⟩ : ∃ f, fuel = f + 1 := ⟨fuel - 1, by simp at hf; omega⟩
    simp only [List.flatMap_cons, Value.memberBytes, List.length_append, List.length_cons] at hf
    have hms' := ih (fun w hw => hms w (List.mem_cons_of_mem _ hw)) (acc ++ [(k, v)])
      (show _ < fuel by simp only [Value.memberBytes]; omega)
    rw [List.append_assoc, List.singleton_append] at hms'
    have hval := hms (k, v) List.mem_cons_self fuel
      ((ms.flatMap fun m => 44 :: Value.memberBytes m) ++ 125 :: rest)
      (show v.bytes.length < fuel by omega)
      (delimited_flatMap_comma ms _ (Or.inr (Or.inr rfl)) rest)
    rw [readMembers, List.flatMap_cons, List.cons_append, Value.memberBytes_append,
      ← List.cons_append]
    exact Reads.bind (reads_nextKey_comma k) (Reads.bind reads_colon (Reads.bind hval hms'))

/-- The members of an object are read up to its closing brace. -/
theorem reads_readMembers_first {ms : List (String × Value)}
    (hms : ∀ m ∈ ms, ∀ fuel more, m.2.bytes.length < fuel → Delimited more →
      Reads (readValue fuel) n m.2.bytes more m.2)
    {fuel : Nat} (hf : (commaJoin (ms.map Value.memberBytes)).length + 1 < fuel) :
    Reads (readMembers true [] fuel) n (commaJoin (ms.map Value.memberBytes)) (125 :: rest) ms := by
  obtain ⟨fuel, rfl⟩ : ∃ f, fuel = f + 1 := ⟨fuel - 1, by omega⟩
  cases ms with
  | nil =>
    rw [readMembers]
    exact Reads.bind_nil (reads_nextKey_end true) (Reads.pure [])
  | cons m ms =>
    obtain ⟨k, v⟩ := m
    rw [commaJoin_map_cons] at hf ⊢
    simp only [Value.memberBytes, List.length_append, List.length_cons] at hf
    have hms' : Reads (readMembers false [(k, v)] fuel) n
        (ms.flatMap fun m => 44 :: Value.memberBytes m) (125 :: rest) ([(k, v)] ++ ms) :=
      reads_readMembers_more (fun w hw => hms w (List.mem_cons_of_mem _ hw)) [(k, v)]
        (show _ < fuel by simp only [Value.memberBytes]; omega)
    have hval := hms (k, v) List.mem_cons_self fuel
      ((ms.flatMap fun m => 44 :: Value.memberBytes m) ++ 125 :: rest)
      (show v.bytes.length < fuel by omega)
      (delimited_flatMap_comma ms _ (Or.inr (Or.inr rfl)) rest)
    rw [readMembers, Value.memberBytes_append]
    exact Reads.bind (reads_nextKey_first k) (Reads.bind reads_colon (Reads.bind hval hms'))

end Items

section Whole

variable {n : Nat} {rest : List UInt8}

/-- At a digit, a value is read as a number. -/
theorem reads_readValue_digit {b : UInt8} (hb : isDigitByte b = true) {bs : List UInt8}
    {r : ReadNumber} (hnum : Reads (readNumber true) n (b :: bs) rest r) (fuel : Nat) :
    Reads (readValue (fuel + 1)) n (b :: bs) rest (.num r.toNumber) := by
  rw [readValue]
  refine Reads.bind_nil (reads_skipBlanks fun _ h => ?_) ?_
  · cases h
    exact (opensValue_of_isDigitByte hb).2.2.2
  · dsimp only [List.cons_append, List.head?_cons]
    split
    case h_9 heq =>
      cases heq
      rw [if_pos hb]
      exact Reads.bind_pure _ hnum
    case h_1 h => cases h
    -- the other patterns are bytes that are no digits
    all_goals
      rename_i h
      cases h
      exact absurd hb (by decide)

/-- Every plain value is read back from its text by `readValue` given more steps than the
text has bytes, whatever may follow a value. -/
theorem reads_readValue {v : Value} (hv : v.Plain n) {fuel : Nat} (hf : v.bytes.length < fuel)
    (hrest : Delimited rest) : Reads (readValue fuel) n v.bytes rest v := by
  induction hv generalizing fuel rest
  -- every value takes a step of its own
  all_goals obtain ⟨fuel, rfl⟩ : ∃ f, fuel = f + 1 := ⟨fuel - 1, by omega⟩
  case null =>
    rw [readValue, Value.bytes_null]
    refine Reads.bind_nil (reads_skipBlanks fun _ h => by cases h; rfl) ?_
    exact reads_advance_then 110 (Reads.bind_pure (fun _ => Value.null) (reads_expectWord restOfNull))
  case bool b =>
    cases b
    · rw [readValue, Value.bytes_false]
      refine Reads.bind_nil (reads_skipBlanks fun _ h => by cases h; rfl) ?_
      exact reads_advance_then 102
        (Reads.bind_pure (fun _ => Value.bool false) (reads_expectWord restOfFalse))
    · rw [readValue, Value.bytes_true]
      refine Reads.bind_nil (reads_skipBlanks fun _ h => by cases h; rfl) ?_
      exact reads_advance_then 116
        (Reads.bind_pure (fun _ => Value.bool true) (reads_expectWord restOfTrue))
  case str s =>
    rw [readValue, Value.bytes_str]
    refine Reads.bind_nil (reads_skipBlanks fun _ h => by cases h; rfl) ?_
    exact reads_advance_then 34 (Reads.bind_pure Value.str (reads_readString s))
  case nat k m hm =>
    obtain ⟨b, bs, hbs, hdigit⟩ := Value.bytes_nat_head m
    have hnum : Reads (readNumber true) k (Value.num (.nat m)).bytes rest (.unsigned m) := by
      rw [Value.bytes_nat]
      exact reads_readNumber hm hrest.endsNumber
    rw [hbs] at hnum ⊢
    exact reads_readValue_digit hdigit hnum fuel
  case arr items h ih =>
    simp only [Value.bytes_arr, List.length_append, List.length_cons] at hf
    rw [readValue, Value.bytes_arr]
    refine Reads.bind_nil (reads_skipBlanks fun _ h => by cases h; rfl) ?_
    have hitems : ∀ w ∈ items, w.Plain _ ∧ ∀ fuel more, w.bytes.length < fuel →
        Delimited more → Reads (readValue fuel) _ w.bytes more w :=
      fun w hw => ⟨h w hw, fun _ _ hl hd => ih w hw hl hd⟩
    exact Reads.nested (k := fun items => Pure.pure (Value.arr items)) 91
      (Reads.closing (reads_readItems_first hitems (show _ + 1 < fuel by omega)) reads_closeArray)
      (Reads.pure _)
  case obj ms h ih =>
    simp only [Value.bytes_obj, List.length_append, List.length_cons] at hf
    rw [readValue, Value.bytes_obj]
    refine Reads.bind_nil (reads_skipBlanks fun _ h => by cases h; rfl) ?_
    exact Reads.nested (k := fun ms => Pure.pure (Value.obj ms)) 123
      (Reads.closing (reads_readMembers_first (fun m hm _ _ hl hd => ih m hm hl hd)
        (show _ + 1 < fuel by omega)) reads_closeObject) (Reads.pure _)

/-- The same for `value`, whose steps come from the size of the whole text. -/
theorem reads_value {v : Value} (hv : v.Plain n) (hrest : Delimited rest) :
    Reads value n v.bytes rest v := by
  intro c hc hd
  have hsize : v.bytes.length ≤ c.input.size := by
    have := congrArg List.length hc
    rw [Cursor.length_rest, List.length_append] at this
    omega
  simp only [value, budget, runAt_bind, runAt_get, runAt_pure]
  exact reads_readValue hv (show v.bytes.length < 2 * c.input.size + 4 by omega) hrest c hc hd

end Whole

end Json

end CampusBooking
