import CampusBooking.Proofs.Calendar.Civil
import CampusBooking.Wire.Fields

/-!
# Reading back the written forms

Campuses, user ids, timeslots, booking ids and dates travel as the text their `toString`
gives, and each is read back by its parser.  This module proves that every parser takes the
written text of every value back to that value:

* decimal digits read back to their number, with or without leading zeros
  (`Text.decimalValue_toDigits`, `Text.decimalValue_padded`), and hexadecimal digits likewise
  (`Text.hexValueList?_hexDigits`);
* a user id (`UserId.parse_toString`), a timeslot (`Timeslot.parse_toString`), a UUID
  (`Uuid.parse?_toString`) and a booking id (`BookingId.parse_toString`);
* a date, in every year of the calendar, through the reading of request messages
  (`Date.readWire_toString`).

None of the written texts has a blank character, so trimming leaves them as they are.
-/

namespace CampusBooking

namespace Text

/-! ## Digits -/

/-- One more digit: the value so far times ten, plus the digit. -/
def pushDigit (acc : Nat) (c : Char) : Nat := acc * 10 + digitValue c

theorem decimalValue_append (cs ds : List Char) :
    decimalValue (cs ++ ds) = ds.foldl pushDigit (decimalValue cs) := by
  simp only [decimalValue, List.foldl_append]
  rfl

theorem digitValue_digitChar {d : Nat} (h : d < 10) : digitValue (Nat.digitChar d) = d := by
  simp only [digitValue]
  exact Nat.toNat_digitChar_sub_48_of_lt_ten h

/-- The decimal digits of a number read back to it. -/
theorem decimalValue_toDigits (n : Nat) : decimalValue (Nat.toDigits 10 n) = n := by
  induction n using Nat.strong_induction_on with
  | _ n ih =>
    rw [Nat.toDigits_eq_if (by decide)]
    split
    · rename_i hn
      simp only [decimalValue, List.foldl_cons, List.foldl_nil]
      rw [Nat.zero_mul, Nat.zero_add]
      exact digitValue_digitChar hn
    · -- the last digit comes after the digits of the number divided by ten
      rw [decimalValue_append, ih (n / 10) (by omega), List.foldl_cons, List.foldl_nil, pushDigit,
        digitValue_digitChar (Nat.mod_lt n (by decide))]
      omega

/-- Leading zeros do not change the value of digits. -/
theorem decimalValue_zeros_append (k : Nat) (ds : List Char) :
    decimalValue (List.replicate k '0' ++ ds) = decimalValue ds := by
  have hzeros : decimalValue (List.replicate k '0') = 0 := by
    induction k with
    | zero => rfl
    | succ k ih =>
      rw [List.replicate_succ', decimalValue_append, ih]
      rfl
  rw [decimalValue_append, hzeros]
  rfl

theorem decimal_toList (n : Nat) : (decimal n).toList = Nat.toDigits 10 n := by
  simp [decimal, String.toList_ofList]

theorem padded_toList (w n : Nat) :
    (padded w n).toList = List.replicate (w - (Nat.toDigits 10 n).length) '0' ++ Nat.toDigits 10 n := by
  simp [padded, String.toList_ofList]

theorem decimalValue_padded (w n : Nat) : decimalValue (padded w n).toList = n := by
  rw [padded_toList, decimalValue_zeros_append, decimalValue_toDigits]

theorem isDigit_of_mem_toDigits {n : Nat} {c : Char} (h : c ∈ Nat.toDigits 10 n) : c.isDigit = true :=
  Nat.isDigit_of_mem_toDigits (by decide) (by decide) h

theorem isDigit_of_mem_padded {w n : Nat} {c : Char} (h : c ∈ (padded w n).toList) : c.isDigit = true := by
  rw [padded_toList, List.mem_append] at h
  rcases h with h | h
  · rw [List.eq_of_mem_replicate h]
    rfl
  · exact isDigit_of_mem_toDigits h

/-- A number below `10 ^ w` is padded to exactly `w` digits. -/
theorem length_padded {w n : Nat} (hw : 0 < w) (h : n < 10 ^ w) : (padded w n).toList.length = w := by
  have hlen : (Nat.toDigits 10 n).length ≤ w := (Nat.length_toDigits_le_iff (by decide) hw).mpr h
  rw [padded_toList, List.length_append, List.length_replicate]
  omega

/-! ## Blanks -/

/-- A digit is a character of code 48 to 57. -/
theorem toNat_bounds_of_isDigit {c : Char} (h : c.isDigit = true) : 48 ≤ c.toNat ∧ c.toNat ≤ 57 := by
  simp only [Char.isDigit, Bool.and_eq_true, decide_eq_true_eq] at h
  exact h

theorem not_isBlank_of_isDigit {c : Char} (h : c.isDigit = true) : isBlank c = false := by
  have hc := toNat_bounds_of_isDigit h
  simp only [isBlank, Bool.or_eq_false_iff, Bool.and_eq_false_iff, decide_eq_false_iff_not,
    beq_eq_false_iff_ne, ne_eq]
  omega

/-- A text with no blank character is its own trimmed form. -/
theorem trimList_of_forall {cs : List Char} (h : ∀ c ∈ cs, isBlank c = false) : trimList cs = cs := by
  have hdrop : ∀ l : List Char, (∀ c ∈ l, isBlank c = false) → l.dropWhile isBlank = l := by
    intro l hl
    cases l with
    | nil => rfl
    | cons c l => exact List.dropWhile_cons_of_neg (by simp [hl c List.mem_cons_self])
  unfold trimList
  rw [hdrop cs h, hdrop cs.reverse (fun c hc => h c (List.mem_reverse.mp hc)), List.reverse_reverse]

theorem trimStartList_of_head {c : Char} {cs : List Char} (h : isBlank c = false) :
    trimStartList (c :: cs) = c :: cs :=
  List.dropWhile_cons_of_neg (by simp [h])

/-- A text with no blank character is its own trimmed form. -/
theorem trim_of_forall {s : String} (h : ∀ c ∈ s.toList, isBlank c = false) : trim s = s := by
  rw [trim, trimList_of_forall h, String.ofList_toList]

end Text

/-! ## User ids -/

theorem Except.eq_ok_of_toOption {ε α : Type} {e : Except ε α} {a : α} (h : e.toOption = some a) :
    e = .ok a := by
  cases e with
  | error => cases h
  | ok b => cases h; rfl

/-- The lower-case code of a campus: three ASCII letters, none blank, read back as the
campus. -/
theorem Campus.lowerCode_spec (c : Campus) :
    (Text.lowerAscii c.code).toList.length = 3 ∧
      (∀ ch ∈ (Text.lowerAscii c.code).toList, ch.toNat < 128 ∧ Text.isBlank ch = false) ∧
      Campus.parse (String.ofList (Text.lowerAscii c.code).toList) = .ok c := by
  have hcase : ∀ l : List Char, (Text.lowerAscii c.code).toList = l → l.length = 3 →
      (∀ ch ∈ l, ch.toNat < 128 ∧ Text.isBlank ch = false) →
      (Campus.parse (String.ofList l)).toOption = some c →
      (Text.lowerAscii c.code).toList.length = 3 ∧
        (∀ ch ∈ (Text.lowerAscii c.code).toList, ch.toNat < 128 ∧ Text.isBlank ch = false) ∧
        Campus.parse (String.ofList (Text.lowerAscii c.code).toList) = .ok c := by
    rintro l rfl hlen hchars hparse
    exact ⟨hlen, hchars, Except.eq_ok_of_toOption hparse⟩
  cases c
  · exact hcase ['d', 'v', 'l'] (by decide +kernel) rfl (by simp [Text.isBlank]) (by decide +kernel)
  · exact hcase ['k', 'k', 'l'] (by decide +kernel) rfl (by simp [Text.isBlank]) (by decide +kernel)
  · exact hcase ['w', 's', 't'] (by decide +kernel) rfl (by simp [Text.isBlank]) (by decide +kernel)

theorem Campus.code_spec (c : Campus) :
    ':' ∉ c.code.toList ∧ (∀ ch ∈ c.code.toList, Text.isBlank ch = false) ∧
      Campus.parse c.code = .ok c := by
  have hcase : ∀ l : List Char, c.code.toList = l → ':' ∉ l → (∀ ch ∈ l, Text.isBlank ch = false) →
      (Campus.parse (String.ofList l)).toOption = some c →
      ':' ∉ c.code.toList ∧ (∀ ch ∈ c.code.toList, Text.isBlank ch = false) ∧
        Campus.parse c.code = .ok c := by
    rintro l hl hcolon hblank hparse
    rw [← String.ofList_toList (s := c.code), hl]
    exact ⟨by simpa using hcolon, by simpa using hblank, Except.eq_ok_of_toOption hparse⟩
  cases c
  · exact hcase ['D', 'V', 'L'] (by decide +kernel) (by decide) (by simp [Text.isBlank]) (by decide +kernel)
  · exact hcase ['K', 'K', 'L'] (by decide +kernel) (by decide) (by simp [Text.isBlank]) (by decide +kernel)
  · exact hcase ['W', 'S', 'T'] (by decide +kernel) (by decide) (by simp [Text.isBlank]) (by decide +kernel)

theorem Role.code_spec (r : Role) :
    r.code.toNat < 128 ∧ Text.isBlank r.code = false ∧ UserId.roleOfLetter? r.code = some r := by
  cases r <;> decide

theorem UserId.toString_toList (u : UserId) :
    u.toString.toList =
      (Text.lowerAscii u.campus.code).toList ++ u.role.code :: (Text.padded 4 u.number.val).toList := by
  simp [UserId.toString, String.toList_append]

/-- A user id is read back from its text. -/
theorem UserId.parse_toString (u : UserId) : UserId.parse u.toString = .ok u := by
  obtain ⟨hlen, hcode, hparse⟩ := Campus.lowerCode_spec u.campus
  obtain ⟨hrole, hrblank, hletter⟩ := Role.code_spec u.role
  have hdigits : ∀ ch ∈ (Text.padded 4 u.number.val).toList, ch.isDigit = true :=
    fun _ h => Text.isDigit_of_mem_padded h
  have hplen : (Text.padded 4 u.number.val).toList.length = 4 :=
    Text.length_padded (by decide) (by simp)
  have hlist := UserId.toString_toList u
  -- every character is ASCII and none is blank
  have hchars : ∀ ch ∈ u.toString.toList, ch.toNat < 128 ∧ Text.isBlank ch = false := by
    intro ch hch
    rw [hlist, List.mem_append, List.mem_cons] at hch
    rcases hch with h | rfl | h
    · exact hcode ch h
    · exact ⟨hrole, hrblank⟩
    · have hd := hdigits ch h
      have := (Text.toNat_bounds_of_isDigit hd).2
      exact ⟨by omega, Text.not_isBlank_of_isDigit hd⟩
  unfold UserId.parse
  rw [Text.trim_of_forall (fun ch h => (hchars ch h).2)]
  have hascii : Text.isAscii u.toString = true := by
    simp only [Text.isAscii, List.all_eq_true, decide_eq_true_eq]
    exact fun ch h => (hchars ch h).1
  rw [if_neg (by simp [hlist, hlen, hplen, hascii]), hlist, List.take_left' hlen,
    List.drop_left' hlen, hparse]
  simp only [hletter]
  have hall : Text.allDigits (Text.padded 4 u.number.val).toList = true := by
    simp only [Text.allDigits, List.all_eq_true]
    exact hdigits
  rw [if_pos hall, Text.decimalValue_padded]
  simp [UserId.make, u.number.isLt]

/-! ## Timeslots -/

namespace Timeslot

/-- Splitting at the first separator finds the one after a text without separators. -/
theorem splitFirst_append {sep : Char} {xs : List Char} (ys : List Char) (h : sep ∉ xs) :
    splitFirst sep (xs ++ sep :: ys) = some (xs, ys) := by
  have hidx : (xs ++ sep :: ys).findIdx? (· == sep) = some xs.length := by
    rw [List.findIdx?_append, List.findIdx?_eq_none_iff.mpr (fun c hc => by simpa using ne_of_mem_of_not_mem hc h)]
    simp [List.findIdx?_cons]
  simp [splitFirst, hidx]

theorem clockText_toList (h m : Nat) :
    (clockText h m).toList = Nat.toDigits 10 h ++ ':' :: (Text.padded 2 m).toList := by
  simp [clockText, String.toList_append, Text.decimal_toList]

theorem isDigit_or_colon_of_mem_clockText {h m : Nat} {c : Char} (hc : c ∈ (clockText h m).toList) :
    c.isDigit = true ∨ c = ':' := by
  rw [clockText_toList, List.mem_append, List.mem_cons] at hc
  rcases hc with hc | hc | hc
  · exact Or.inl (Text.isDigit_of_mem_toDigits hc)
  · exact Or.inr hc
  · exact Or.inl (Text.isDigit_of_mem_padded hc)

theorem not_isBlank_of_mem_clockText {h m : Nat} {c : Char} (hc : c ∈ (clockText h m).toList) :
    Text.isBlank c = false := by
  rcases isDigit_or_colon_of_mem_clockText hc with hd | rfl
  · exact Text.not_isBlank_of_isDigit hd
  · decide

/-- A clock time before midnight is read back from its text. -/
theorem readClock_clockText {h m : Nat} (hh : h < 24) (hm : m < 60) :
    readClock (clockText h m).toList = some (h, m) := by
  have hdig : ∀ c ∈ Nat.toDigits 10 h, c.isDigit = true := fun _ hc => Text.isDigit_of_mem_toDigits hc
  have hcolon : ':' ∉ Nat.toDigits 10 h := fun hc => absurd (hdig ':' hc) (by decide)
  have hhlen : (Nat.toDigits 10 h).length ≤ 2 :=
    (Nat.length_toDigits_le_iff (by decide) (by decide)).mpr (by omega)
  have hmlen : (Text.padded 2 m).toList.length = 2 := Text.length_padded (by decide) (by omega)
  have hne : Nat.toDigits 10 h ≠ [] := Nat.toDigits_ne_nil
  have hall : Text.allDigits (Nat.toDigits 10 h) = true := by
    simpa [Text.allDigits] using hdig
  have hallm : Text.allDigits (Text.padded 2 m).toList = true := by
    simpa [Text.allDigits] using fun c hc => Text.isDigit_of_mem_padded (w := 2) (n := m) (c := c) hc
  simp [readClock, clockText_toList, splitFirst_append _ hcolon, hne, hhlen, hmlen, hall, hallm,
    Text.decimalValue_toDigits, Text.decimalValue_padded]

theorem trimList_clockText (h m : Nat) : Text.trimList (clockText h m).toList = (clockText h m).toList :=
  Text.trimList_of_forall fun _ hc => not_isBlank_of_mem_clockText hc

theorem toString_toList (t : Timeslot) :
    t.toString.toList = (clockText (t.start / 60) (t.start % 60)).toList ++
      '-' :: (clockText (t.stop / 60) (t.stop % 60)).toList := by
  simp [Timeslot.toString, String.toList_append]

/-- A timeslot is read back from its text. -/
theorem parse_toString (t : Timeslot) : parse t.toString = .ok t := by
  obtain ⟨start, stop, hlt, hday⟩ := t
  have hday' : stop < 1440 := hday
  have hdash : ∀ {h m : Nat}, '-' ∉ (clockText h m).toList := fun hc =>
    absurd (isDigit_or_colon_of_mem_clockText hc) (by decide)
  have hblank : ∀ c ∈ (Timeslot.toString ⟨start, stop, hlt, hday⟩).toList, Text.isBlank c = false := by
    intro c hc
    rw [toString_toList, List.mem_append, List.mem_cons] at hc
    rcases hc with hc | rfl | hc
    · exact not_isBlank_of_mem_clockText hc
    · decide
    · exact not_isBlank_of_mem_clockText hc
  have hstart := readClock_clockText (h := start / 60) (m := start % 60) (by omega) (by omega)
  have hstop := readClock_clockText (h := stop / 60) (m := stop % 60) (by omega) (by omega)
  unfold parse
  rw [Text.trimList_of_forall hblank, toString_toList]
  simp only [splitFirst_append _ hdash, trimList_clockText, hstart, hstop]
  -- the minutes of each clock time are those of the slot
  have hs : start / 60 * 60 + start % 60 = start := Nat.div_add_mod' start 60
  have he : stop / 60 * 60 + stop % 60 = stop := Nat.div_add_mod' stop 60
  simp only [make, minutesOf, if_neg (show ¬(start / 60 > 23 ∨ start % 60 > 59) by omega),
    if_neg (show ¬(stop / 60 > 23 ∨ stop % 60 > 59) by omega), hs, he, bind, Except.bind]
  rw [dif_pos ⟨hlt, hday⟩]
  rfl

end Timeslot

/-! ## UUIDs and booking ids -/

namespace Text

theorem hexValue?_hexDigit : ∀ d < 16, hexValue? (hexDigit d) = some d := by decide

theorem hexDigit_ascii : ∀ d < 16, (hexDigit d).toNat < 128 ∧ hexDigit d ≠ '-' ∧ hexDigit d ≠ ':' ∧
    isBlank (hexDigit d) = false := by
  decide

theorem hexDigits_succ (k n : Nat) :
    hexDigits (k + 1) n = hexDigit (n / 16 ^ k % 16) :: hexDigits k n := by
  simp [hexDigits, List.range_succ, Nat.pow_eq]

theorem length_hexDigits (k n : Nat) : (hexDigits k n).length = k := by
  simp [hexDigits]

theorem mem_hexDigits {k n : Nat} {c : Char} (h : c ∈ hexDigits k n) : ∃ d < 16, c = hexDigit d := by
  simp only [hexDigits, List.mem_map] at h
  obtain ⟨i, -, rfl⟩ := h
  exact ⟨_, Nat.mod_lt _ (by decide), rfl⟩

/-- The `k` lowest hexadecimal digits of a number read back to the number modulo `16 ^ k`,
after what was read before. -/
theorem hexValueList?_hexDigits (k n acc : Nat) :
    hexValueList? (hexDigits k n) acc = some (acc * 16 ^ k + n % 16 ^ k) := by
  induction k generalizing acc with
  | zero => simp [hexDigits, hexValueList?, Nat.mod_one]
  | succ k ih =>
    rw [hexDigits_succ, hexValueList?, hexValue?_hexDigit _ (Nat.mod_lt _ (by decide)), Option.bind_some,
      ih, Nat.mod_pow_succ, Nat.pow_succ]
    congr 1
    ring

end Text

namespace Uuid

/-- The hyphenated form cut into its five groups, with the hyphens at 8, 13, 18 and 23. -/
theorem hyphenated_layout {a b c d e : List Char} (ha : a.length = 8) (hb : b.length = 4)
    (hc : c.length = 4) (hd : d.length = 4) (he : e.length = 12) :
    let cs := a ++ '-' :: b ++ '-' :: c ++ '-' :: d ++ '-' :: e
    cs.length = 36 ∧ cs[8]? = some '-' ∧ cs[13]? = some '-' ∧ cs[18]? = some '-' ∧ cs[23]? = some '-' ∧
      cs.take 8 ++ (cs.drop 9).take 4 ++ (cs.drop 14).take 4 ++ (cs.drop 19).take 4 ++ cs.drop 24 =
        a ++ b ++ c ++ d ++ e := by
  intro cs
  simp [cs, List.drop_append, List.drop_of_length_le, ha, hb, hc, hd, he]

theorem toString_toList (u : Uuid) :
    u.toString.toList = u.digits.take 8 ++ '-' :: (u.digits.drop 8).take 4 ++ '-' ::
      (u.digits.drop 12).take 4 ++ '-' :: (u.digits.drop 16).take 4 ++ '-' :: u.digits.drop 20 := by
  simp [Uuid.toString, String.toList_ofList]

theorem mem_toString {u : Uuid} {c : Char} (h : c ∈ u.toString.toList) :
    c = '-' ∨ ∃ d < 16, c = Text.hexDigit d := by
  rw [toString_toList] at h
  have hdig : c = '-' ∨ c ∈ u.digits := by
    simp only [List.mem_append, List.mem_cons] at h
    rcases h with ((((h | h | h) | h | h) | h | h) | h | h)
    all_goals first
      | exact Or.inl h
      | exact Or.inr (List.mem_of_mem_take h)
      | exact Or.inr (List.mem_of_mem_drop (List.mem_of_mem_take h))
      | exact Or.inr (List.mem_of_mem_drop h)
  exact hdig.imp_right Text.mem_hexDigits

/-- A UUID is read back from its hyphenated text. -/
theorem parse?_toString (u : Uuid) : parse? u.toString = some u := by
  have hlen : u.digits.length = 32 := Text.length_hexDigits 32 u.value
  obtain ⟨hl, h8, h13, h18, h23, hjoin⟩ := hyphenated_layout (a := u.digits.take 8)
    (b := (u.digits.drop 8).take 4) (c := (u.digits.drop 12).take 4) (d := (u.digits.drop 16).take 4)
    (e := u.digits.drop 20) (by simp [hlen]) (by simp [hlen]) (by simp [hlen]) (by simp [hlen])
    (by simp [hlen])
  -- the five groups make up the digits again
  have hgroups : u.digits.take 8 ++ (u.digits.drop 8).take 4 ++ (u.digits.drop 12).take 4 ++
      (u.digits.drop 16).take 4 ++ u.digits.drop 20 = u.digits := by
    rw [← List.take_add, ← List.take_add, ← List.take_add, List.take_append_drop]
  have hascii : (u.toString.toList.all fun c => decide (c.toNat < 128)) = true := by
    simp only [List.all_eq_true, decide_eq_true_eq]
    intro c hc
    rcases mem_toString hc with rfl | ⟨d, hd, rfl⟩
    · decide
    · exact (Text.hexDigit_ascii d hd).1
  have hvalue : Text.hexValueList? u.digits 0 = some u.value := by
    rw [digits, Text.hexValueList?_hexDigits, Nat.mod_eq_of_lt (by simpa [Nat.pow_eq] using u.value_lt)]
    simp
  unfold parse?
  rw [← toString_toList] at hl h8 h13 h18 h23 hjoin
  simp only [hascii, Bool.not_true, Bool.false_eq_true, if_false, hl]
  simp only [ofHyphenated?, hl, h8, h13, h18, h23, and_self, if_true, hjoin, hgroups, ofDigits?, hlen,
    hvalue, dif_pos u.value_lt]
  simp

end Uuid

/-- A booking id is read back from its text. -/
theorem BookingId.parse_toString (b : BookingId) : BookingId.parse b.toString = .ok b := by
  obtain ⟨hcolon, hblank, hparse⟩ := Campus.code_spec b.campus
  have hlist : b.toString.toList = b.campus.code.toList ++ ':' :: b.uuid.toString.toList := by
    simp [BookingId.toString, String.toList_append]
  have hublank : ∀ c ∈ b.uuid.toString.toList, Text.isBlank c = false := by
    intro c hc
    rcases Uuid.mem_toString hc with rfl | ⟨d, hd, rfl⟩
    · decide
    · exact (Text.hexDigit_ascii d hd).2.2.2
  have hall : ∀ c ∈ b.toString.toList, Text.isBlank c = false := by
    intro c hc
    rw [hlist, List.mem_append, List.mem_cons] at hc
    rcases hc with hc | rfl | hc
    · exact hblank c hc
    · decide
    · exact hublank c hc
  unfold BookingId.parse
  rw [Text.trimList_of_forall hall, hlist, Timeslot.splitFirst_append _ hcolon]
  simp only [hparse, String.ofList_toList, Uuid.parse?_toString]

/-! ## Dates -/

theorem Text.le_length_padded (w n : Nat) : w ≤ (Text.padded w n).toList.length := by
  rw [Text.padded_toList, List.length_append, List.length_replicate]
  omega

theorem monthLength_le_31 (y : Int) (m : Nat) : monthLength y m ≤ 31 := by
  unfold monthLength
  split
  · split <;> omega
  all_goals omega

namespace DateReading

/-- Digits followed by a non-digit are read as one number, when there are few enough of
them. -/
theorem number_digits {ds rest : List Char} {least most : Nat} (hds : ∀ c ∈ ds, c.isDigit = true)
    (hleast : least ≤ ds.length) (hmost : ds.length ≤ most)
    (hstop : ∀ c ∈ rest.head?, c.isDigit = false) (hv : Text.decimalValue ds ≤ numberLimit) :
    number (ds ++ rest) least most = .ok (Text.decimalValue ds, rest) := by
  -- the reading stops at the first character of the rest, or at its end
  have hrest : ∀ k, (rest.take k).takeWhile Char.isDigit = [] := by
    intro k
    cases rest with
    | nil => simp
    | cons c r =>
      cases k with
      | zero => simp
      | succ k => simp [hstop c rfl]
  have hds' : ((ds ++ rest).take most).takeWhile Char.isDigit = ds := by
    rw [List.take_append, List.take_of_length_le hmost, List.takeWhile_append_of_pos hds, hrest,
      List.append_nil]
  unfold number
  rw [if_neg (by simp only [List.length_append]; omega)]
  simp only [hds', if_neg (Nat.not_lt.mpr hleast), if_neg (Nat.not_lt.mpr hv), List.drop_left]

theorem numberLimit_eq : numberLimit = 9223372036854775807 := by decide

theorem dash_head (rest : List Char) : ∀ c ∈ ('-' :: rest).head?, c.isDigit = false := by
  simp

theorem number_padded {n w : Nat} {rest : List Char} (hw : 0 < w) (hn : n < 10 ^ w)
    (hsmall : n ≤ numberLimit) (hstop : ∀ c ∈ rest.head?, c.isDigit = false) :
    number ((Text.padded w n).toList ++ rest) 1 w = .ok (n, rest) := by
  rw [number_digits (fun _ h => Text.isDigit_of_mem_padded h)
      (by rw [Text.length_padded hw hn]; omega) (Text.length_padded hw hn).le hstop
      (by rwa [Text.decimalValue_padded]),
    Text.decimalValue_padded]

/-- After a sign, a year's digits are read up to the dash that follows them, however many. -/
theorem number_padded_signed {n : Nat} (hsmall : n ≤ numberLimit) (rest : List Char) :
    number ((Text.padded 4 n).toList ++ '-' :: rest) 1 ((Text.padded 4 n).toList ++ '-' :: rest).length =
      .ok (n, '-' :: rest) := by
  rw [number_digits (fun _ h => Text.isDigit_of_mem_padded h)
      (le_trans (by decide) (Text.le_length_padded 4 _)) (by simp) (dash_head rest)
      (by rwa [Text.decimalValue_padded]),
    Text.decimalValue_padded]

/-- The year as written is read back, in every year of the calendar. -/
theorem year_yearText {y : Int} (hlo : firstYear ≤ y) (hhi : y ≤ lastYear) (rest : List Char) :
    year ((Date.yearText y).toList ++ '-' :: rest) = .ok (y, '-' :: rest) := by
  have hfirst : firstYear = -262143 := rfl
  have hlast : lastYear = 262142 := rfl
  unfold Date.yearText
  split_ifs with h4 hneg
  · -- four digits, no sign
    obtain ⟨c, cs, hcs⟩ : ∃ c cs, (Text.padded 4 y.toNat).toList = c :: cs :=
      List.exists_cons_of_length_pos (by rw [Text.length_padded (by decide) (by omega)]; decide)
    have hc : c.isDigit = true := Text.isDigit_of_mem_padded (by rw [hcs]; exact List.mem_cons_self)
    have hminus : c ≠ '-' := by rintro rfl; exact absurd hc (by decide)
    have hplus : c ≠ '+' := by rintro rfl; exact absurd hc (by decide)
    have hnum : number ((Text.padded 4 y.toNat).toList ++ '-' :: rest) 1 4 = .ok (y.toNat, '-' :: rest) :=
      number_padded (by decide) (by omega) (by rw [numberLimit_eq]; omega) (dash_head rest)
    rw [hcs, List.cons_append] at hnum ⊢
    unfold year
    split
    · rename_i heq
      exact absurd (List.cons.inj heq).1 hminus
    · rename_i heq
      exact absurd (List.cons.inj heq).1 hplus
    · simp only [hnum, bind, Except.bind, pure, Except.pure]
      rw [Int.toNat_of_nonneg h4.1]
  · -- a minus sign and the digits of the absolute value
    have hsmall : y.natAbs ≤ numberLimit := by
      rw [numberLimit_eq]
      omega
    have hlist : ("-" ++ Text.padded 4 y.natAbs).toList ++ '-' :: rest =
        '-' :: ((Text.padded 4 y.natAbs).toList ++ '-' :: rest) := by
      simp [String.toList_append]
    rw [hlist]
    simp only [year, number_padded_signed hsmall rest, bind, Except.bind, pure, Except.pure]
    rw [show -(y.natAbs : Int) = y by omega]
  · -- a plus sign and the digits
    have hsmall : y.toNat ≤ numberLimit := by
      rw [numberLimit_eq]
      omega
    have hlist : ("+" ++ Text.padded 4 y.toNat).toList ++ '-' :: rest =
        '+' :: ((Text.padded 4 y.toNat).toList ++ '-' :: rest) := by
      simp [String.toList_append]
    rw [hlist]
    simp only [year, number_padded_signed hsmall rest, bind, Except.bind, pure, Except.pure]
    rw [Int.toNat_of_nonneg (by omega)]

theorem trimStartList_padded (w n : Nat) (hw : 0 < w) (rest : List Char) :
    Text.trimStartList ((Text.padded w n).toList ++ rest) = (Text.padded w n).toList ++ rest := by
  obtain ⟨c, cs, hcs⟩ : ∃ c cs, (Text.padded w n).toList = c :: cs :=
    List.exists_cons_of_length_pos (lt_of_lt_of_le hw (Text.le_length_padded w n))
  have hc : c.isDigit = true := Text.isDigit_of_mem_padded (by rw [hcs]; exact List.mem_cons_self)
  rw [hcs, List.cons_append]
  exact Text.trimStartList_of_head (Text.not_isBlank_of_isDigit hc)

theorem trimStartList_yearText (y : Int) (rest : List Char) :
    Text.trimStartList ((Date.yearText y).toList ++ rest) = (Date.yearText y).toList ++ rest := by
  unfold Date.yearText
  split_ifs
  · exact trimStartList_padded 4 _ (by decide) rest
  · simp only [String.toList_append, List.append_assoc]
    exact Text.trimStartList_of_head (by decide)
  · simp only [String.toList_append, List.append_assoc]
    exact Text.trimStartList_of_head (by decide)

/-- The written year, followed by the rest of a date, fills in the year. -/
theorem item_year {y : Int} (hlo : firstYear ≤ y) (hhi : y ≤ lastYear) (parts : DateParts)
    (rest : List Char) :
    item parts ((Date.yearText y).toList ++ '-' :: rest) .year =
      .ok ({ parts with year := some y }, '-' :: rest) := by
  have hpow : Int.pow 2 31 = 2147483648 := by decide
  have hfirst : firstYear = -262143 := rfl
  have hlast : lastYear = 262142 := rfl
  simp only [item, trimStartList_yearText, year_yearText hlo hhi, hpow, bind, Except.bind, pure,
    Except.pure]
  rw [if_neg (by omega)]

/-- A two-digit number followed by a non-digit is read as the number. -/
theorem number_trimStart_padded {n : Nat} (hn : n < 100) {rest : List Char}
    (hstop : ∀ c ∈ rest.head?, c.isDigit = false) :
    number (Text.trimStartList ((Text.padded 2 n).toList ++ rest)) 1 2 = .ok (n, rest) := by
  rw [trimStartList_padded 2 n (by decide),
    number_padded (by decide) hn (by rw [numberLimit_eq]; omega) hstop]

theorem item_month {m : Nat} (h1 : 1 ≤ m) (h12 : m ≤ 12) (parts : DateParts) {rest : List Char}
    (hstop : ∀ c ∈ rest.head?, c.isDigit = false) :
    item parts ((Text.padded 2 m).toList ++ rest) .month =
      .ok ({ parts with month := some m }, rest) := by
  simp only [item, number_trimStart_padded (show m < 100 by omega) hstop, bind, Except.bind, pure, Except.pure]
  rw [if_neg (by omega)]

theorem item_day {d : Nat} (h1 : 1 ≤ d) (h31 : d ≤ 31) (parts : DateParts) {rest : List Char}
    (hstop : ∀ c ∈ rest.head?, c.isDigit = false) :
    item parts ((Text.padded 2 d).toList ++ rest) .day =
      .ok ({ parts with day := some d }, rest) := by
  simp only [item, number_trimStart_padded (show d < 100 by omega) hstop, bind, Except.bind, pure, Except.pure]
  rw [if_neg (by omega)]

theorem nil_head : ∀ c ∈ ([] : List Char).head?, c.isDigit = false := by
  simp

theorem item_gap_dash (parts : DateParts) (rest : List Char) :
    item parts ('-' :: rest) .gap = .ok (parts, '-' :: rest) := by
  simp only [item, Text.trimStartList_of_head (show Text.isBlank '-' = false by decide)]

theorem item_dash (parts : DateParts) (rest : List Char) :
    item parts ('-' :: rest) .dash = .ok (parts, rest) := by
  simp [item]

end DateReading

/-- A date is read back from its written form by the reading of request messages, in every
year of the calendar. -/
theorem Date.readWire_toString (d : Date) : Date.readWire d.toString = .ok d := by
  obtain ⟨hm1, hm12, hd1, hdl⟩ : 1 ≤ d.month ∧ d.month ≤ 12 ∧ 1 ≤ d.day ∧
      d.day ≤ monthLength d.year d.month := civilFromDays_valid d.epochDay
  obtain ⟨hy1, hy2⟩ : firstYear ≤ d.year ∧ d.year ≤ lastYear :=
    civilFromDays_year_mem d.first_le d.le_last
  have hd31 : d.day ≤ 31 := le_trans hdl (monthLength_le_31 _ _)
  have hlist : d.toString.toList = (Date.yearText d.year).toList ++ '-' ::
      ((Text.padded 2 d.month).toList ++ '-' :: ((Text.padded 2 d.day).toList ++ [])) := by
    simp [Date.toString, String.toList_append]
  -- the items of the pattern take the text apart piece by piece
  have hitems : DateReading.items {} d.toString.toList DateItem.wire =
      .ok (⟨some d.year, some d.month, some d.day⟩, []) := by
    rw [hlist]
    simp only [DateItem.wire, DateReading.items, DateReading.item_year hy1 hy2,
      DateReading.item_gap_dash, DateReading.item_dash,
      DateReading.item_month hm1 hm12 _ (DateReading.dash_head _),
      DateReading.item_day hd1 hd31 _ DateReading.nil_head, bind, Except.bind]
    rfl
  unfold Date.readWire DateReading.run
  simp only [hitems, bind, Except.bind, List.isEmpty_nil, Bool.not_true, Bool.false_eq_true,
    if_false, Date.ofYmd?_ymd]
  rfl

end CampusBooking
