import CampusBooking.Proofs.Json.Reads
import CampusBooking.Proofs.Wire.Forms
import CampusBooking.Json.Write

/-!
# Reading back written strings and numbers

The written text of a string is its characters, escaped, between quotes; the written text
of an unsigned number is its decimal digits.  This module proves that the reader takes
each back to what was written:

* `reads_readString`: after the opening quote, `readString` reads the escaped characters
  of any string and its closing quote, and gives the string.  Characters that need no
  escape travel as their UTF-8 bytes (`runAt_stringBytes_plainRun`), the quote, the
  backslash and the controls as escapes (`reads_escape_short`, `reads_escape_unicode`),
  and either way the reader collects the UTF-8 bytes of the character
  (`runAt_stringBytes_char`).
* `reads_readNumber`: `readNumber true` reads the decimal digits of any number below
  2⁶⁴ as that unsigned number, when no digit, point or exponent follows.
-/

namespace CampusBooking

theorem ByteArray.ext_data_toList {a b : ByteArray} (h : a.data.toList = b.data.toList) : a = b :=
  ByteArray.ext (Array.toList_inj.mp h)

theorem ByteArray.push_eq_append (a : ByteArray) (b : UInt8) : a.push b = a ++ [b].toByteArray := by
  apply ByteArray.ext_data_toList
  simp [ByteArray.data_push]

/-- An ASCII character is its own one byte. -/
theorem String.utf8EncodeChar_of_lt {x : Char} (h : x.toNat < 128) :
    String.utf8EncodeChar x = [UInt8.ofNat x.toNat] := by
  simp only [String.utf8EncodeChar, Char.toNat] at h ⊢
  rw [if_pos (by omega)]

theorem UInt8.toNat_ofNat_of_lt {n : Nat} (h : n < 256) : (UInt8.ofNat n).toNat = n := by
  simp only [UInt8.toNat_ofNat', Nat.mod_eq_of_lt h]

namespace Json

open Reader

/-! ## Strings -/

/-- The bytes that stand for a character inside a written string. -/
def escapedBytes (x : Char) : List UInt8 := (escapeChar x).flatMap String.utf8EncodeChar

theorem quote_bytes (s : String) :
    (quote s).toByteArray.data.toList = 34 :: s.toList.flatMap escapedBytes ++ [34] := by
  rw [String.toByteArray_data_toList, quote, String.toList_ofList, List.flatMap_append,
    List.flatMap_cons, List.flatMap_assoc]
  rfl

/-- A byte that a string holds as it is: not a control, a quote or a backslash. -/
def PlainByte (b : UInt8) : Prop := 32 ≤ b.toNat ∧ b.toNat ≠ 34 ∧ b.toNat ≠ 92

/-- A character that needs no escape is written as bytes that need none either: an ASCII
character as itself, any other as bytes from 128 up. -/
theorem plainByte_of_mem_utf8EncodeChar {x : Char} (h32 : 32 ≤ x.toNat) (hq : x ≠ '"')
    (hb : x ≠ '\\') {b : UInt8} (hmem : b ∈ String.utf8EncodeChar x) : PlainByte b := by
  have hq' : x.toNat ≠ 34 := fun h => hq (Char.toNat_inj.mp h)
  have hb' : x.toNat ≠ 92 := fun h => hb (Char.toNat_inj.mp h)
  have hval : x.val.toNat = x.toNat := rfl
  unfold String.utf8EncodeChar at hmem
  dsimp only at hmem
  unfold PlainByte
  split_ifs at hmem <;> simp only [List.mem_cons, List.not_mem_nil, or_false] at hmem <;>
    rcases hmem with rfl | rfl | rfl | rfl <;> simp <;> omega

theorem runAt_stringBytes_plain {acc : ByteArray} {fuel : Nat} {c : Cursor} {b : UInt8}
    {more : List UInt8} (hb : PlainByte b) (hc : c.rest = b :: more) :
    runAt (stringBytes acc (fuel + 1)) c = runAt (stringBytes (acc.push b) fuel) (c.skip 1) := by
  obtain ⟨h32, h34, h92⟩ := hb
  have hlt : ¬ b < 32 := fun h => by
    have := UInt8.lt_iff_toNat_lt.mp h
    simp only [UInt8.reduceToNat] at this
    omega
  rw [stringBytes, runAt_bind, runAt_peek, hc, List.head?_cons]
  dsimp only
  split
  · rename_i h; cases h
  · rename_i h; cases h; exact absurd rfl h34
  · rename_i h; cases h; exact absurd rfl h92
  · rename_i b' h
    cases h
    rw [runAt_bind, runAt_advance]
    dsimp only
    rw [if_neg hlt]

/-- A run of plain bytes is collected byte by byte, one step each. -/
theorem runAt_stringBytes_plainRun {bs : List UInt8} (hbs : ∀ b ∈ bs, PlainByte b)
    {acc : ByteArray} {fuel : Nat} {c : Cursor} {more : List UInt8} (hf : bs.length ≤ fuel)
    (hc : c.rest = bs ++ more) :
    runAt (stringBytes acc fuel) c =
      runAt (stringBytes (acc ++ bs.toByteArray) (fuel - bs.length)) (c.skip bs.length) := by
  induction bs generalizing acc fuel c with
  | nil => simp [ByteArray.append_empty]
  | cons b bs ih =>
    obtain ⟨fuel, rfl⟩ : ∃ f, fuel = f + 1 := ⟨fuel - 1, by simp at hf; omega⟩
    have hrest : (c.skip 1).rest = bs ++ more :=
      Cursor.rest_skip_of_eq (show c.rest = [b] ++ (bs ++ more) from hc)
    rw [runAt_stringBytes_plain (hbs b List.mem_cons_self) hc,
      ih (fun b' h => hbs b' (List.mem_cons_of_mem _ h)) (by simp at hf; omega) hrest,
      Cursor.skip_skip, ByteArray.push_eq_append, ByteArray.append_assoc,
      ← List.toByteArray_append]
    simp only [List.singleton_append, List.length_cons]
    rw [Nat.add_sub_add_right, Nat.add_comm 1]

theorem runAt_stringBytes_escape {acc bytes : ByteArray} {fuel nest : Nat} {c : Cursor}
    {ebs more : List UInt8} (hesc : Reads escape nest ebs more bytes)
    (hc : c.rest = 92 :: ebs ++ more) (hd : nest < c.depth) :
    runAt (stringBytes acc (fuel + 1)) c =
      runAt (stringBytes (acc ++ bytes) fuel) (c.skip (ebs.length + 1)) := by
  have hrest : (c.skip 1).rest = ebs ++ more :=
    Cursor.rest_skip_of_eq (show c.rest = [92] ++ (ebs ++ more) from hc)
  rw [stringBytes, runAt_bind, runAt_peek, hc, List.cons_append, List.head?_cons]
  dsimp only
  split
  · rename_i h; cases h
  · rename_i h; cases h
  · rename_i h
    rw [runAt_bind, runAt_advance]
    dsimp only
    rw [runAt_bind, hesc _ hrest hd, Cursor.skip_skip, Nat.add_comm]
  · rename_i b' _ hne heq
    cases heq
    exact absurd rfl hne

/-- The escapes of one byte after the backslash, each with the byte it stands for. -/
theorem reads_escape_short {nest : Nat} {rest : List UInt8} :
    Reads escape nest [34] rest [34].toByteArray ∧ Reads escape nest [92] rest [92].toByteArray ∧
    Reads escape nest [110] rest [10].toByteArray ∧ Reads escape nest [114] rest [13].toByteArray ∧
    Reads escape nest [116] rest [9].toByteArray ∧ Reads escape nest [98] rest [8].toByteArray ∧
    Reads escape nest [102] rest [12].toByteArray := by
  refine ⟨?_, ?_, ?_, ?_, ?_, ?_, ?_⟩ <;>
  · intro c hc _
    rw [escape, runAt_bind, runAt_next_of hc]
    rfl

theorem flatMap_utf8EncodeChar_of_ascii {ds : List Char} (h : ∀ d ∈ ds, d.toNat < 128) :
    ds.flatMap String.utf8EncodeChar = ds.map fun d => UInt8.ofNat d.toNat := by
  induction ds with
  | nil => rfl
  | cons d ds ih =>
    rw [List.flatMap_cons, String.utf8EncodeChar_of_lt (h d List.mem_cons_self),
      ih (fun d' hd' => h d' (List.mem_cons_of_mem _ hd')), List.map_cons, List.singleton_append]

/-- Four ASCII hexadecimal digits of an escape read as their value. -/
theorem reads_hexEscape {ds : List Char} (hlen : ds.length = 4) (hascii : ∀ d ∈ ds, d.toNat < 128)
    {v nest : Nat} {rest : List UInt8} (hv : Text.hexValueList? ds 0 = some v) :
    Reads hexEscape nest (ds.flatMap String.utf8EncodeChar) rest v := by
  intro c hc _
  rw [flatMap_utf8EncodeChar_of_ascii hascii] at hc ⊢
  have hroom : ¬ c.pos + 4 > c.input.size := by
    have := congrArg List.length hc
    rw [Cursor.length_rest, List.length_append, List.length_map, hlen] at this
    omega
  -- the four bytes under the reader are the digits, one byte each
  have hdigits : ((c.input.extract c.pos (c.pos + 4)).toList.map fun b => Char.ofNat b.toNat) =
      ds := by
    have htake : (c.input.extract c.pos (c.pos + 4)).toList = ds.map fun d => UInt8.ofNat d.toNat := by
      rw [ByteArray.toList_eq_data_toList, ByteArray.data_extract, Array.toList_extract,
        List.extract_eq_take_drop, Nat.add_sub_cancel_left]
      have : c.input.data.toList.drop c.pos = _ := hc
      rw [this, List.take_append_of_le_length (by simp [hlen]),
        List.take_of_length_le (by simp [hlen])]
    rw [htake, List.map_map]
    conv => rhs; rw [← List.map_id ds]
    apply List.map_congr_left
    intro d hd
    have hd128 := hascii d hd
    simp only [Function.comp_apply, UInt8.toNat_ofNat_of_lt (show d.toNat < 256 by omega), id,
      Char.ofNat_toNat]
  show runAt (get >>= fun c => _) c = _
  rw [runAt_bind, runAt_get]
  dsimp only
  rw [if_neg hroom, runAt_bind]
  simp only [hdigits, hv, List.length_map, hlen]
  rfl

theorem utf8Of_toNat (x : Char) : utf8Of x.toNat = (String.utf8EncodeChar x).toByteArray := by
  apply ByteArray.ext_data_toList
  rw [utf8Of, Char.ofNat_toNat, String.toUTF8_eq_toByteArray, String.toByteArray_data_toList,
    String.toList_singleton, List.toList_data_toByteArray]
  simp

/-- A control character written as `\u` and four hexadecimal digits is read back as its
one byte. -/
theorem reads_escape_unicode {x : Char} (hx : x.toNat < 32) {nest : Nat} {rest : List UInt8} :
    Reads escape nest (117 :: (Text.hexDigits 4 x.toNat).flatMap String.utf8EncodeChar) rest
      (String.utf8EncodeChar x).toByteArray := by
  intro c hc hd
  have hascii : ∀ d ∈ Text.hexDigits 4 x.toNat, d.toNat < 128 := by
    intro d hd
    obtain ⟨k, hk, rfl⟩ := Text.mem_hexDigits hd
    exact (Text.hexDigit_ascii k hk).1
  have hvalue : Text.hexValueList? (Text.hexDigits 4 x.toNat) 0 = some x.toNat := by
    rw [Text.hexValueList?_hexDigits, Nat.zero_mul, Nat.zero_add, Nat.mod_eq_of_lt (by omega)]
  have hhex : Reads hexEscape nest ((Text.hexDigits 4 x.toNat).flatMap String.utf8EncodeChar) rest
      x.toNat := reads_hexEscape (Text.length_hexDigits 4 x.toNat) hascii hvalue
  have hrest : (c.skip 1).rest = (Text.hexDigits 4 x.toNat).flatMap String.utf8EncodeChar ++ rest :=
    Cursor.rest_skip_of_eq (show c.rest = [117] ++ _ from hc)
  rw [escape, runAt_bind, runAt_next_of hc]
  show runAt unicodeEscape (c.skip 1) = _
  rw [unicodeEscape, runAt_bind, hhex _ hrest hd]
  dsimp only
  rw [if_neg (by omega), if_pos (Or.inl (by omega)), utf8Of_toNat, runAt_pure, Cursor.skip_skip,
    List.length_cons, Nat.add_comm]

/-- A character is written either as plain bytes, its own UTF-8 bytes, or as an escape after
a backslash that reads back as those bytes. -/
theorem escapedBytes_plain_or_escape (x : Char) :
    ((∀ b ∈ escapedBytes x, PlainByte b) ∧ escapedBytes x = String.utf8EncodeChar x) ∨
    ∃ ebs, escapedBytes x = 92 :: ebs ∧
      ∀ nest rest, Reads escape nest ebs rest (String.utf8EncodeChar x).toByteArray := by
  unfold escapedBytes escapeChar
  split_ifs with hq hb hn hr ht h8 h12 hc
  · subst hq
    exact Or.inr ⟨[34], rfl, fun _ _ => reads_escape_short.1⟩
  · subst hb
    exact Or.inr ⟨[92], rfl, fun _ _ => reads_escape_short.2.1⟩
  · subst hn
    exact Or.inr ⟨[110], rfl, fun _ _ => reads_escape_short.2.2.1⟩
  · subst hr
    exact Or.inr ⟨[114], rfl, fun _ _ => reads_escape_short.2.2.2.1⟩
  · subst ht
    exact Or.inr ⟨[116], rfl, fun _ _ => reads_escape_short.2.2.2.2.1⟩
  · have hx : String.utf8EncodeChar x = [8] := by
      rw [String.utf8EncodeChar_of_lt (by omega), h8]
      rfl
    exact Or.inr ⟨[98], rfl, fun _ _ => hx ▸ reads_escape_short.2.2.2.2.2.1⟩
  · have hx : String.utf8EncodeChar x = [12] := by
      rw [String.utf8EncodeChar_of_lt (by omega), h12]
      rfl
    exact Or.inr ⟨[102], rfl, fun _ _ => hx ▸ reads_escape_short.2.2.2.2.2.2⟩
  · exact Or.inr ⟨_, rfl, fun _ _ => reads_escape_unicode hc⟩
  · have hplain : ∀ b ∈ String.utf8EncodeChar x, PlainByte b :=
      fun b hmem => plainByte_of_mem_utf8EncodeChar (by omega) hq hb hmem
    exact Or.inl ⟨by simpa using hplain, by simp⟩

/-- The bytes of one character, plain or escaped, add its UTF-8 bytes to what the reader
has collected, at most one step per byte. -/
theorem runAt_stringBytes_char (x : Char) (acc : ByteArray) {fuel nest : Nat} {c : Cursor}
    {more : List UInt8} (hc : c.rest = escapedBytes x ++ more) (hd : nest < c.depth)
    (hf : (escapedBytes x).length ≤ fuel) :
    ∃ fuel', fuel - (escapedBytes x).length ≤ fuel' ∧
      runAt (stringBytes acc fuel) c =
        runAt (stringBytes (acc ++ (String.utf8EncodeChar x).toByteArray) fuel')
          (c.skip (escapedBytes x).length) := by
  rcases escapedBytes_plain_or_escape x with ⟨hplain, heq⟩ | ⟨ebs, heq, hesc⟩
  · refine ⟨fuel - (escapedBytes x).length, le_rfl, ?_⟩
    rw [runAt_stringBytes_plainRun hplain hf hc, heq]
  · rw [heq] at hc hf ⊢
    obtain ⟨fuel, rfl⟩ : ∃ f, fuel = f + 1 := ⟨fuel - 1, by simp at hf; omega⟩
    refine ⟨fuel, by simp, ?_⟩
    rw [runAt_stringBytes_escape (hesc nest more) hc hd, List.length_cons]

/-- The escaped characters of a string and the closing quote are collected as the UTF-8
bytes of the characters, given a step for each byte. -/
theorem runAt_stringBytes_escaped (cs : List Char) {acc : ByteArray} {fuel nest : Nat}
    {c : Cursor} {more : List UInt8} (hc : c.rest = cs.flatMap escapedBytes ++ 34 :: more)
    (hd : nest < c.depth) (hf : (cs.flatMap escapedBytes).length < fuel) :
    runAt (stringBytes acc fuel) c =
      (.ok (acc ++ (cs.flatMap String.utf8EncodeChar).toByteArray),
        c.skip ((cs.flatMap escapedBytes).length + 1)) := by
  induction cs generalizing acc fuel c with
  | nil =>
    obtain ⟨fuel, rfl⟩ : ∃ f, fuel = f + 1 := ⟨fuel - 1, by simp at hf; omega⟩
    rw [List.flatMap_nil, List.nil_append] at hc
    rw [stringBytes, runAt_bind, runAt_peek, hc, List.head?_cons]
    show runAt (advance >>= fun _ => Pure.pure acc) c = _
    rw [runAt_bind, runAt_advance]
    simp [ByteArray.append_empty]
  | cons x cs ih =>
    rw [List.flatMap_cons, List.append_assoc] at hc
    rw [List.flatMap_cons, List.length_append] at hf
    obtain ⟨fuel', hfuel', hstep⟩ :=
      runAt_stringBytes_char x acc hc hd (show (escapedBytes x).length ≤ fuel by omega)
    have hlt : (cs.flatMap escapedBytes).length < fuel' := by omega
    rw [hstep, ih (Cursor.rest_skip_of_eq hc) hd hlt]
    simp [ByteArray.append_assoc, List.toByteArray_append, Nat.add_assoc]

theorem String.fromUTF8?_toByteArray (s : String) : String.fromUTF8? s.toByteArray = some s := by
  rw [String.fromUTF8?, dif_pos s.isValidUTF8]
  rfl

/-- After its opening quote, a written string is read back: its escaped characters and its
closing quote give the string. -/
theorem reads_readString (s : String) {nest : Nat} {rest : List UInt8} :
    Reads readString nest (s.toList.flatMap escapedBytes ++ [34]) rest s := by
  intro c hc hd
  rw [List.append_assoc, List.singleton_append] at hc
  have hsize : (s.toList.flatMap escapedBytes).length < c.input.size + 1 := by
    have := congrArg List.length hc
    rw [Cursor.length_rest, List.length_append] at this
    omega
  have hbytes : ByteArray.empty ++ (s.toList.flatMap String.utf8EncodeChar).toByteArray =
      s.toByteArray := by
    rw [ByteArray.empty_append]
    apply ByteArray.ext_data_toList
    rw [List.toList_data_toByteArray, String.toByteArray_data_toList]
  rw [readString, runAt_bind, runAt_get]
  dsimp only
  rw [runAt_bind, runAt_stringBytes_escaped s.toList hc hd hsize]
  dsimp only
  rw [hbytes, String.fromUTF8?_toByteArray]
  simp

/-! ## Numbers -/

/-- The leading digit of a positive number is not zero. -/
theorem toDigits_leading {n : Nat} (hn : 0 < n) : ∃ d ds, Nat.toDigits 10 n = d :: ds ∧ d ≠ '0' := by
  induction n using Nat.strong_induction_on with
  | _ n ih =>
    by_cases h10 : n < 10
    · refine ⟨Nat.digitChar n, [], Nat.toDigits_of_lt_base h10, ?_⟩
      interval_cases n <;> decide
    · -- the digits of `n` are those of `n / 10` and then its last digit
      obtain ⟨d, ds, hds, hd⟩ := ih (n / 10) (by omega) (by omega)
      refine ⟨d, ds ++ Nat.toDigits 10 (n % 10), ?_, hd⟩
      rw [← List.cons_append, ← hds, Nat.toDigits_append_toDigits (by decide) (by omega)
        (Nat.mod_lt _ (by decide)), Nat.div_add_mod]

/-- Nothing that could continue a number follows it. -/
def EndsNumber (rest : List UInt8) : Prop :=
  ∀ b ∈ rest.head?, isDigitByte b = false ∧ b ≠ 46 ∧ b ≠ 101 ∧ b ≠ 69

theorem overflows_eq_false {a d limit : Nat} (h : a * 10 + d ≤ limit) : overflows a d limit = false := by
  simp only [overflows, Bool.and_eq_false_iff, decide_eq_false_iff_not, Bool.or_eq_false_iff]
  omega

theorem le_foldl_pushDigit (ds : List Char) (a : Nat) : a ≤ ds.foldl Text.pushDigit a := by
  induction ds generalizing a with
  | nil => exact le_rfl
  | cons d ds ih => exact le_trans (by simp only [Text.pushDigit]; omega) (ih _)

/-- A decimal digit is one ASCII byte, a digit byte of the same value. -/
theorem digit_bytes {d : Char} (h : d.isDigit = true) :
    String.utf8EncodeChar d = [UInt8.ofNat d.toNat] ∧ isDigitByte (UInt8.ofNat d.toNat) = true ∧
      digitOf (UInt8.ofNat d.toNat) = Text.digitValue d := by
  obtain ⟨h1, h2⟩ := Text.toNat_bounds_of_isDigit h
  have hval := UInt8.toNat_ofNat_of_lt (show d.toNat < 256 by omega)
  refine ⟨String.utf8EncodeChar_of_lt (by omega), ?_, ?_⟩
  · simp only [isDigitByte, Bool.and_eq_true, decide_eq_true_eq, UInt8.le_iff_toNat_le, hval,
      UInt8.reduceToNat]
    omega
  · simp only [digitOf, hval, Text.digitValue]
    rfl

theorem runAt_afterInteger {c : Cursor} (v : Nat) (h : EndsNumber c.rest) :
    runAt (afterInteger true v) c = (.ok (.unsigned v), c) := by
  have hb : c.rest.head?.getD 0 ≠ 46 ∧ c.rest.head?.getD 0 ≠ 101 ∧ c.rest.head?.getD 0 ≠ 69 := by
    cases hh : c.rest.head? with
    | none => exact ⟨by decide, by decide, by decide⟩
    | some b => exact (h b hh).2
  rw [afterInteger, runAt_bind, runAt_peekOrZero]
  dsimp only
  split
  · rename_i heq; exact absurd heq hb.1
  · rename_i heq; exact absurd heq hb.2.1
  · rename_i heq; exact absurd heq hb.2.2
  · rfl

/-- The digits after the first are read one by one, each added to the value, and the
number ends where they end. -/
theorem runAt_integerDigits {ds : List Char} (hds : ∀ d ∈ ds, d.isDigit = true) {acc fuel : Nat}
    {c : Cursor} {rest : List UInt8} (hc : c.rest = ds.flatMap String.utf8EncodeChar ++ rest)
    (hrest : EndsNumber rest) (hf : ds.length ≤ fuel) (hv : ds.foldl Text.pushDigit acc ≤ u64Max) :
    runAt (integerDigits true acc fuel) c =
      (.ok (.unsigned (ds.foldl Text.pushDigit acc)), c.skip ds.length) := by
  induction ds generalizing acc fuel c with
  | nil =>
    rw [List.flatMap_nil, List.nil_append] at hc
    have hends : EndsNumber c.rest := hc ▸ hrest
    cases fuel with
    | zero => exact runAt_afterInteger acc hends
    | succ fuel =>
      have hnd : isDigitByte (c.rest.head?.getD 0) = false := by
        cases hh : c.rest.head? with
        | none => rfl
        | some b => exact (hends b hh).1
      rw [integerDigits, runAt_bind, runAt_peekOrZero]
      dsimp only
      rw [if_neg (by rw [hnd]; decide), runAt_afterInteger acc hends]
      rfl
  | cons d ds ih =>
    obtain ⟨fuel, rfl⟩ : ∃ f, fuel = f + 1 := ⟨fuel - 1, by simp at hf; omega⟩
    obtain ⟨hbytes, hdigit, hvalue⟩ := digit_bytes (hds d List.mem_cons_self)
    rw [List.flatMap_cons, hbytes, List.singleton_append] at hc
    have hrest' : (c.skip 1).rest = ds.flatMap String.utf8EncodeChar ++ rest :=
      Cursor.rest_skip_of_eq (show c.rest = [_] ++ _ from hc)
    -- the value so far stays below the final value, so it never overflows
    have hstep : acc * 10 + Text.digitValue d ≤ u64Max :=
      le_trans (le_foldl_pushDigit ds _) hv
    rw [integerDigits, runAt_bind, runAt_peekOrZero, hc, List.cons_append, List.head?_cons,
      Option.getD_some]
    dsimp only
    rw [if_pos hdigit, hvalue, overflows_eq_false hstep]
    simp only [Bool.false_eq_true, if_false, runAt_bind, runAt_advance]
    show runAt (integerDigits true (Text.pushDigit acc d) fuel) (c.skip 1) = _
    rw [ih (fun d' hd' => hds d' (List.mem_cons_of_mem _ hd')) hrest' (by simp at hf; omega) hv,
      Cursor.skip_skip, List.length_cons, Nat.add_comm 1]
    rfl

/-- The decimal digits of a number below 2⁶⁴ are read as that unsigned number, when nothing
that could continue a number follows. -/
theorem reads_readNumber {n nest : Nat} {rest : List UInt8} (hn : n ≤ u64Max)
    (hrest : EndsNumber rest) :
    Reads (readNumber true) nest ((Nat.toDigits 10 n).flatMap String.utf8EncodeChar) rest
      (.unsigned n) := by
  intro c hc hd
  rcases Nat.eq_zero_or_pos n with rfl | hpos
  · -- zero is the digit `0` alone
    have hzero : (Nat.toDigits 10 0).flatMap String.utf8EncodeChar = [48] := by decide
    rw [hzero] at hc ⊢
    have hends : EndsNumber (c.skip 1).rest := (Cursor.rest_skip_of_eq hc).symm ▸ hrest
    have hnd : isDigitByte ((c.skip 1).rest.head?.getD 0) = false := by
      cases hh : (c.skip 1).rest.head? with
      | none => rfl
      | some b => exact (hends b hh).1
    rw [readNumber, runAt_bind, runAt_next_of hc]
    show runAt (peekOrZero >>= fun b => if isDigitByte b = true then _ else _) (c.skip 1) = _
    rw [runAt_bind, runAt_peekOrZero]
    dsimp only
    rw [if_neg (by rw [hnd]; decide), runAt_afterInteger 0 hends]
    rfl
  · obtain ⟨d, ds, hdigits, hd0⟩ := toDigits_leading hpos
    have hdig : ∀ x ∈ d :: ds, x.isDigit = true := by
      rw [← hdigits]
      exact fun x hx => Text.isDigit_of_mem_toDigits hx
    obtain ⟨hbytes, hdigit, hvalue⟩ := digit_bytes (hdig d List.mem_cons_self)
    obtain ⟨h48, h57⟩ := Text.toNat_bounds_of_isDigit (hdig d List.mem_cons_self)
    have hne : UInt8.ofNat d.toNat ≠ 48 := by
      intro h
      apply hd0
      have := congrArg UInt8.toNat h
      rw [UInt8.toNat_ofNat_of_lt (by omega)] at this
      exact Char.toNat_inj.mp this
    -- the value of the digits after the first, read onto the first, is the number
    have hval : ds.foldl Text.pushDigit (Text.digitValue d) = n := by
      rw [← Text.decimalValue_toDigits n, hdigits]
      simp only [Text.decimalValue, List.foldl_cons, Nat.zero_mul, Nat.zero_add]
      rfl
    rw [hdigits, List.flatMap_cons, hbytes, List.singleton_append] at hc
    have hrest' : (c.skip 1).rest = ds.flatMap String.utf8EncodeChar ++ rest :=
      Cursor.rest_skip_of_eq (show c.rest = [_] ++ _ from hc)
    have hascii : ∀ x ∈ ds, x.toNat < 128 := fun x hx =>
      lt_of_le_of_lt (Text.toNat_bounds_of_isDigit (hdig x (List.mem_cons_of_mem _ hx))).2 (by decide)
    have hdslen : (ds.flatMap String.utf8EncodeChar).length = ds.length := by
      rw [flatMap_utf8EncodeChar_of_ascii hascii, List.length_map]
    have hlen : ((d :: ds).flatMap String.utf8EncodeChar).length = 1 + ds.length := by
      rw [List.flatMap_cons, hbytes, List.length_append, hdslen, List.length_singleton]
    have hfuel : ds.length ≤ (c.skip 1).input.size := by
      have := congrArg List.length hc
      rw [Cursor.length_rest, List.cons_append, List.length_cons, List.length_append,
        hdslen] at this
      simp only [Cursor.skip_input]
      omega
    rw [hdigits, readNumber, runAt_bind, runAt_next_of hc]
    dsimp only
    split
    · rename_i h; cases h
    · rename_i h
      simp only [Option.some.injEq] at h
      exact absurd h hne
    · rename_i b _ heq
      cases heq
      rw [if_pos hdigit, runAt_bind, runAt_get]
      dsimp only
      rw [hvalue, runAt_integerDigits (fun x hx => hdig x (List.mem_cons_of_mem _ hx)) hrest' hrest
        hfuel (by rw [hval]; exact hn), hval, Cursor.skip_skip, hlen]

end Json

end CampusBooking
