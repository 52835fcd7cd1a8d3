import CampusBooking.Proofs.Wire.Forms
import CampusBooking.Proofs.Store.RoomHistory

/-!
# The texts user ids and timeslots are read from

`Proofs/Wire/Forms` shows that each parser reads back what `toString` writes.  This module
states the converse for user ids and timeslots: which texts each parser accepts at all, and what
it reads from them.

* A user id is read from a text exactly when the text, trimmed, spells one (`UserId.Spells`): a
  campus code, a role letter and four digits, in any ASCII case.  The id then prints as that
  text lowered (`UserId.toString_of_parse`).
* A timeslot is read exactly from a `Timeslot.SlotText`: two clock times on either side of the
  first dash, each one or two digits, a colon and two digits, with blanks around the whole and
  around each time; hours at most 23, minutes at most 59, and the start before the end
  (`Timeslot.parse_eq_ok_iff`).
* A timeslot prints as its only `Timeslot.Written` form: no blanks and no padding on the hours
  (`Timeslot.toString_eq_iff`), and timeslots are ordered as their pairs of start and end
  minutes (`Timeslot.compare_eq_compare_toLex`).
* A comma-separated list reads its pieces that are not blank, in order, and needs one
  (`Timeslot.parseList_eq_ok_iff`).

The digits of a fixed width are determined by their value (`Text.decimalValue_inj`), so the
printed forms are the only spellings without padding.
-/

namespace CampusBooking

namespace Text

/-! ## Digits -/

theorem foldl_pushDigit (ds : List Char) (acc : Nat) :
    ds.foldl pushDigit acc = acc * 10 ^ ds.length + decimalValue ds := by
  induction ds generalizing acc with
  | nil => simp [decimalValue]
  | cons d ds ih =>
    have hd : decimalValue (d :: ds) = ds.foldl pushDigit (pushDigit 0 d) := rfl
    rw [List.foldl_cons, ih, hd, ih, List.length_cons, pushDigit, pushDigit, Nat.pow_succ]
    ring

theorem decimalValue_cons (d : Char) (ds : List Char) :
    decimalValue (d :: ds) = digitValue d * 10 ^ ds.length + decimalValue ds := by
  have hd : decimalValue (d :: ds) = ds.foldl pushDigit (pushDigit 0 d) := rfl
  rw [hd, foldl_pushDigit, pushDigit, Nat.zero_mul, Nat.zero_add]

theorem digitValue_lt {c : Char} (h : c.isDigit = true) : digitValue c < 10 := by
  have hc := toNat_bounds_of_isDigit h
  simp only [digitValue, Char.reduceToNat]
  omega

theorem digitValue_pos {c : Char} (h : c.isDigit = true) (h0 : c ≠ '0') : 0 < digitValue c := by
  have hc := toNat_bounds_of_isDigit h
  have hne : c.toNat ≠ '0'.toNat := fun e => h0 (Char.toNat_inj.mp e)
  simp only [digitValue, Char.reduceToNat] at hne ⊢
  omega

theorem digitValue_inj {c d : Char} (hc : c.isDigit = true) (hd : d.isDigit = true)
    (h : digitValue c = digitValue d) : c = d := by
  have hc' := toNat_bounds_of_isDigit hc
  have hd' := toNat_bounds_of_isDigit hd
  simp only [digitValue, Char.reduceToNat] at h
  exact Char.toNat_inj.mp (by omega)

theorem toNat_lt_of_isDigit {c : Char} (h : c.isDigit = true) : c.toNat < 128 := by
  have hc := toNat_bounds_of_isDigit h
  omega

/-- `k` digits stand for a number below `10 ^ k`. -/
theorem decimalValue_lt {ds : List Char} (h : ∀ c ∈ ds, c.isDigit = true) :
    decimalValue ds < 10 ^ ds.length := by
  induction ds with
  | nil => simp [decimalValue]
  | cons d ds ih =>
    have hd := digitValue_lt (h d List.mem_cons_self)
    have hrest := ih fun c hc => h c (List.mem_cons_of_mem _ hc)
    rw [decimalValue_cons, List.length_cons, Nat.pow_succ]
    nlinarith

/-- Two digit texts of one length with one value are the same text. -/
theorem decimalValue_inj {xs ys : List Char} (hx : ∀ c ∈ xs, c.isDigit = true)
    (hy : ∀ c ∈ ys, c.isDigit = true) (hlen : xs.length = ys.length)
    (h : decimalValue xs = decimalValue ys) : xs = ys := by
  induction xs generalizing ys with
  | nil => exact (List.length_eq_zero_iff.mp hlen.symm).symm
  | cons x xs ih =>
    obtain ⟨y, ys, rfl⟩ := List.exists_cons_of_length_eq_add_one hlen.symm
    have hxs := fun c hc => hx c (List.mem_cons_of_mem x hc)
    have hys := fun c hc => hy c (List.mem_cons_of_mem y hc)
    have hlen' : xs.length = ys.length := by simpa using hlen
    rw [decimalValue_cons, decimalValue_cons, ← hlen'] at h
    -- the leading digit is the quotient by `10 ^ k`, the other digits the remainder
    have hpos : 0 < 10 ^ xs.length := Nat.pow_pos (by decide)
    have hlt := decimalValue_lt hxs
    have hlt' : decimalValue ys < 10 ^ xs.length := hlen' ▸ decimalValue_lt hys
    have hdiv : ∀ a v, v < 10 ^ xs.length → (a * 10 ^ xs.length + v) / 10 ^ xs.length = a := by
      intro a v hv
      rw [Nat.add_comm, Nat.add_mul_div_right _ _ hpos, Nat.div_eq_of_lt hv, Nat.zero_add]
    have hmod : ∀ a v, v < 10 ^ xs.length → (a * 10 ^ xs.length + v) % 10 ^ xs.length = v := by
      intro a v hv
      rw [Nat.add_comm, Nat.add_mul_mod_self_right, Nat.mod_eq_of_lt hv]
    have hhead : digitValue x = digitValue y := by
      rw [← hdiv (digitValue x) _ hlt, h, hdiv _ _ hlt']
    have hrest : decimalValue xs = decimalValue ys := by
      rw [← hmod (digitValue x) _ hlt, h, hmod _ _ hlt']
    rw [digitValue_inj (hx x List.mem_cons_self) (hy y List.mem_cons_self) hhead, ih hxs hys hlen' hrest]

/-- Digits of a fixed width are the padded text of their value. -/
theorem padded_decimalValue {ds : List Char} (h : ∀ c ∈ ds, c.isDigit = true) (hw : 0 < ds.length) :
    (padded ds.length (decimalValue ds)).toList = ds :=
  decimalValue_inj (fun _ hc => isDigit_of_mem_padded hc) h (length_padded hw (decimalValue_lt h))
    (decimalValue_padded _ _)

/-- Digits with no leading zero, or a single digit, are the decimal text of their value. -/
theorem toDigits_decimalValue {ds : List Char} (h : ∀ c ∈ ds, c.isDigit = true) (hne : ds ≠ [])
    (hu : ds.length = 1 ∨ ds.head? ≠ some '0') : Nat.toDigits 10 (decimalValue ds) = ds := by
  refine decimalValue_inj (fun _ hc => isDigit_of_mem_toDigits hc) h ?_ (decimalValue_toDigits _)
  have hle : (Nat.toDigits 10 (decimalValue ds)).length ≤ ds.length :=
    (Nat.length_toDigits_le_iff (by decide) (List.length_pos_of_ne_nil hne)).mpr (decimalValue_lt h)
  refine le_antisymm hle ?_
  rcases hu with h1 | hhead
  · rw [h1]
    exact Nat.length_toDigits_pos
  · -- a leading digit other than zero puts the value at `10 ^ k` or above
    obtain ⟨d, rest, rfl⟩ := List.exists_cons_of_ne_nil hne
    have hd : 0 < digitValue d :=
      digitValue_pos (h d List.mem_cons_self) fun e => hhead (by rw [e]; rfl)
    have hge : 10 ^ rest.length ≤ decimalValue (d :: rest) := by
      rw [decimalValue_cons]
      exact le_trans (Nat.le_mul_of_pos_left _ hd) (Nat.le_add_right _ _)
    rw [List.length_cons]
    by_contra hlt
    rcases Nat.eq_zero_or_pos rest.length with h0 | hpos
    · have := @Nat.length_toDigits_pos 10 (decimalValue (d :: rest))
      omega
    · have := (Nat.length_toDigits_le_iff (b := 10) (n := decimalValue (d :: rest)) (by decide) hpos).mp
        (by omega)
      omega

/-! ## ASCII case and trimming -/

/-- Lowering adds 32 to the code of a capital `A`–`Z` and keeps every other character. -/
theorem toNat_toLower (c : Char) :
    c.toLower.toNat = if 65 ≤ c.toNat ∧ c.toNat ≤ 90 then c.toNat + 32 else c.toNat := by
  have hval : c.toNat = c.val.toNat := rfl
  unfold Char.toLower
  split
  · rename_i h
    rw [if_pos ⟨h.1, h.2⟩]
    show (c.val + ('a'.val - 'A'.val)).toNat = c.toNat + 32
    have h32 : ('a'.val - 'A'.val).toNat = 32 := by decide
    have hle : c.toNat ≤ 90 := h.2
    rw [UInt32.toNat_add, hval, h32]
    omega
  · rename_i h
    rw [if_neg fun h' => h ⟨h'.1, h'.2⟩]

theorem toLower_eq_self {c : Char} (h : ¬(65 ≤ c.toNat ∧ c.toNat ≤ 90)) : c.toLower = c :=
  Char.toNat_inj.mp (by rw [toNat_toLower, if_neg h])

theorem toLower_of_isDigit {c : Char} (h : c.isDigit = true) : c.toLower = c :=
  toLower_eq_self fun hc => by
    have := toNat_bounds_of_isDigit h
    omega

/-- A character that lowers to an ASCII character is ASCII. -/
theorem toNat_lt_of_toLower {c : Char} (h : c.toLower.toNat < 128) : c.toNat < 128 := by
  have hl := toNat_toLower c
  split at hl <;> omega

/-- A character that lowers to one that is not blank is not blank. -/
theorem not_isBlank_of_toLower {c : Char} (h : isBlank c.toLower = false) : isBlank c = false := by
  by_cases hc : 65 ≤ c.toNat ∧ c.toNat ≤ 90
  · simp only [isBlank, Bool.or_eq_false_iff, Bool.and_eq_false_iff, decide_eq_false_iff_not,
      beq_eq_false_iff_ne, ne_eq]
    omega
  · rwa [toLower_eq_self hc] at h

theorem trim_toList (s : String) : (trim s).toList = trimList s.toList := by
  simp [trim]

theorem lowerAscii_trim_toList (s : String) :
    (lowerAscii (trim s)).toList = (trimList s.toList).map Char.toLower := by
  simp [lowerAscii, trim, String.toList_map]

/-- What is left once the blanks at the end are dropped starts the text without its leading
blanks. -/
theorem trimList_prefix_dropWhile (cs : List Char) : trimList cs <+: cs.dropWhile isBlank := by
  simpa only [trimList, List.reverse_reverse] using
    List.reverse_prefix.mpr (List.dropWhile_suffix (l := (cs.dropWhile isBlank).reverse) isBlank)

/-- A trimmed text is a piece of the text. -/
theorem trimList_infix (cs : List Char) : trimList cs <:+: cs :=
  (trimList_prefix_dropWhile cs).isInfix.trans (List.dropWhile_suffix _).isInfix

/-- Trimming a trimmed text changes nothing. -/
theorem trimList_trimList (cs : List Char) : trimList (trimList cs) = trimList cs := by
  have hpre := trimList_prefix_dropWhile cs
  -- the trimmed text starts with the first character that is not blank
  have hhead : (trimList cs).dropWhile isBlank = trimList cs := by
    rw [List.dropWhile_eq_self_iff]
    intro hl
    have hA : 0 < (cs.dropWhile isBlank).length := lt_of_lt_of_le hl hpre.length_le
    rw [hpre.getElem hl]
    simpa using List.dropWhile_get_zero_not isBlank cs hA
  unfold trimList at hhead ⊢
  rw [hhead, List.reverse_reverse, List.dropWhile_idempotent]

end Text

/-! ## User ids -/

/-- A campus is read from a text exactly when the text, trimmed and lowered, is its lowered
code. -/
theorem Campus.parse_eq_ok_iff (s : String) (c : Campus) :
    Campus.parse s = .ok c ↔ Text.lowerAscii (Text.trim s) = Text.lowerAscii c.code := by
  have hd : Text.lowerAscii "DVL" = "dvl" := by decide +kernel
  have hk : Text.lowerAscii "KKL" = "kkl" := by decide +kernel
  have hw : Text.lowerAscii "WST" = "wst" := by decide +kernel
  unfold Campus.parse
  cases c <;> simp only [Campus.code, hd, hk, hw] <;> split_ifs <;> simp_all

/-- A campus is read from three characters exactly when they lower to its code: trimming
cannot help, as it would leave fewer than three. -/
theorem Campus.parse_ofList_eq_ok_iff {xs : List Char} (hlen : xs.length = 3) (c : Campus) :
    Campus.parse (String.ofList xs) = .ok c ↔ xs.map Char.toLower = (Text.lowerAscii c.code).toList := by
  obtain ⟨hclen, hchars, -⟩ := Campus.lowerCode_spec c
  rw [Campus.parse_eq_ok_iff, ← String.toList_inj, Text.lowerAscii_trim_toList, String.toList_ofList]
  constructor
  · intro h
    have htlen : (Text.trimList xs).length = xs.length := by
      rw [hlen, ← hclen, ← h, List.length_map]
    rwa [(Text.trimList_infix xs).eq_of_length htlen] at h
  · intro h
    have hblank : ∀ x ∈ xs, Text.isBlank x = false := fun x hx =>
      Text.not_isBlank_of_toLower (hchars _ (h ▸ List.mem_map_of_mem hx)).2
    rwa [Text.trimList_of_forall hblank]

namespace UserId

theorem make_eq_ok_iff {c : Campus} {r : Role} {n : Nat} {u : UserId} :
    make c r n = .ok u ↔ u.campus = c ∧ u.role = r ∧ u.number.val = n := by
  obtain ⟨uc, ur, ⟨un, hun⟩⟩ := u
  unfold make
  split
  · constructor
    · intro h
      cases h
      exact ⟨rfl, rfl, rfl⟩
    · rintro ⟨rfl, rfl, rfl⟩
      rfl
  · rename_i hn
    simp only [reduceCtorEq, false_iff, not_and]
    intro _ _ h
    exact hn (h ▸ hun)

theorem roleOfLetter?_eq_some_iff {c : Char} {r : Role} : roleOfLetter? c = some r ↔ c.toLower = r.code := by
  have hl := Text.toNat_toLower c
  rw [← Char.toNat_inj, hl]
  unfold roleOfLetter?
  cases r <;> simp only [Role.code, ← Char.toNat_inj, Char.reduceToNat] <;> split_ifs <;> simp_all <;> omega

/-- How a user id is spelled, in any ASCII case: the campus code, the role letter and the four
digits `ds`. -/
def Spells (cs : List Char) (c : Campus) (r : Role) (ds : List Char) : Prop :=
  ∃ code letter, cs = code ++ letter :: ds ∧ code.map Char.toLower = (Text.lowerAscii c.code).toList ∧
    letter.toLower = r.code ∧ ds.length = 4 ∧ ∀ d ∈ ds, d.isDigit = true

/-- The text a user id was read from spells it, once trimmed. -/
theorem spells_of_parse {s : String} {u : UserId} (h : parse s = .ok u) :
    ∃ ds, Spells (Text.trimList s.toList) u.campus u.role ds ∧ Text.decimalValue ds = u.number.val := by
  unfold parse at h
  simp only [Text.trim_toList] at h
  split at h
  · cases h
  · rename_i hcond
    have hlen : (Text.trimList s.toList).length = 8 := by
      simp only [ne_eq, Bool.not_eq_eq_eq_not, Bool.not_true, not_or, Decidable.not_not] at hcond
      exact hcond.1
    split at h
    · rename_i campus r digits hcampus hdrop
      split at h
      · rename_i role hrole
        split at h
        · rename_i hdig
          obtain ⟨rfl, rfl, hnum⟩ := make_eq_ok_iff.mp h
          have hdlen := congrArg List.length hdrop
          simp only [List.length_drop, hlen, List.length_cons] at hdlen
          refine ⟨digits, ⟨(Text.trimList s.toList).take 3, r, ?_, ?_, ?_, ?_, ?_⟩, hnum.symm⟩
          · rw [← hdrop, List.take_append_drop]
          · exact (Campus.parse_ofList_eq_ok_iff (by simp [hlen]) _).mp hcampus
          · exact roleOfLetter?_eq_some_iff.mp hrole
          · omega
          · simpa [Text.allDigits] using hdig
        · cases h
      · cases h
    · cases h

/-- A text that, trimmed, spells a user id is read as that id. -/
theorem parse_of_spells {s : String} {u : UserId} {ds : List Char}
    (hspell : Spells (Text.trimList s.toList) u.campus u.role ds) (hnum : Text.decimalValue ds = u.number.val) :
    parse s = .ok u := by
  obtain ⟨code, letter, hcs, hcode, hletter, hds, hdig⟩ := hspell
  obtain ⟨hclen, hchars, -⟩ := Campus.lowerCode_spec u.campus
  have hlen3 : code.length = 3 := by rw [← hclen, ← hcode, List.length_map]
  -- every character lowers to an ASCII one, so is ASCII
  have hascii : Text.isAscii (Text.trim s) = true := by
    simp only [Text.isAscii, List.all_eq_true, decide_eq_true_eq, Text.trim_toList, hcs,
      List.mem_append, List.mem_cons]
    rintro c (hc | rfl | hc)
    · exact Text.toNat_lt_of_toLower (hchars _ (hcode ▸ List.mem_map_of_mem hc)).1
    · exact Text.toNat_lt_of_toLower (hletter ▸ (Role.code_spec u.role).1)
    · exact Text.toNat_lt_of_isDigit (hdig c hc)
  have hlen : (code ++ letter :: ds).length = 8 := by simp [hlen3, hds]
  have hall : Text.allDigits ds = true := by simpa [Text.allDigits] using hdig
  unfold parse
  simp only [Text.trim_toList, hcs, hascii, hlen, ne_eq, not_true_eq_false, Bool.not_true, false_or,
    Bool.false_eq_true, if_false, List.take_left' hlen3, List.drop_left' hlen3,
    (Campus.parse_ofList_eq_ok_iff hlen3 _).mpr hcode, roleOfLetter?_eq_some_iff.mpr hletter, hall,
    if_true]
  exact make_eq_ok_iff.mpr ⟨rfl, rfl, hnum.symm⟩

/-- A user id is read from a text exactly when the trimmed text spells it. -/
theorem parse_eq_ok_iff (s : String) (u : UserId) :
    parse s = .ok u ↔ ∃ ds, Spells (Text.trimList s.toList) u.campus u.role ds ∧
      Text.decimalValue ds = u.number.val :=
  ⟨spells_of_parse, fun ⟨_, hspell, hnum⟩ => parse_of_spells hspell hnum⟩

/-- A text is read as some user id exactly when, trimmed, it spells one. -/
theorem parse_accepts_iff (s : String) :
    (∃ u, parse s = .ok u) ↔ ∃ c r ds, Spells (Text.trimList s.toList) c r ds := by
  constructor
  · rintro ⟨u, hu⟩
    obtain ⟨ds, hspell, -⟩ := spells_of_parse hu
    exact ⟨u.campus, u.role, ds, hspell⟩
  · rintro ⟨c, r, ds, code, letter, hcs, hcode, hletter, hds, hdig⟩
    -- four digits stand for a number below `10 ^ 4`
    have hlt : Text.decimalValue ds < 10000 := by
      have := Text.decimalValue_lt hdig
      rwa [hds] at this
    exact ⟨⟨c, r, ⟨_, hlt⟩⟩, parse_of_spells ⟨code, letter, hcs, hcode, hletter, hds, hdig⟩ rfl⟩

/-- A user id read from a text prints as that text, trimmed and lowered. -/
theorem toString_of_parse {s : String} {u : UserId} (h : parse s = .ok u) :
    u.toString = Text.lowerAscii (Text.trim s) := by
  obtain ⟨ds, ⟨code, letter, hcs, hcode, hletter, hds, hdig⟩, hnum⟩ := spells_of_parse h
  have hpad : (Text.padded 4 u.number.val).toList = ds := by
    rw [← hnum, ← hds]
    exact Text.padded_decimalValue hdig (by omega)
  have hlow : ds.map Char.toLower = ds := by
    conv_rhs => rw [← List.map_id ds]
    exact List.map_congr_left fun d hd => Text.toLower_of_isDigit (hdig d hd)
  rw [← String.toList_inj, toString_toList, Text.lowerAscii_trim_toList, hcs, List.map_append,
    List.map_cons, hcode, hletter, hpad, hlow]

end UserId

/-- User ids are read exactly from their spellings: a text is read when, trimmed, it is a campus
code, a role letter and four digits in any ASCII case; the id read prints as that text lowered;
and every id is read back from its text. -/
theorem userId_read_exactly_from_its_spellings :
    (∀ s : String, (∃ u, UserId.parse s = .ok u) ↔
      ∃ c r ds, UserId.Spells (Text.trimList s.toList) c r ds) ∧
    (∀ (s : String) (u : UserId), UserId.parse s = .ok u →
      u.toString = Text.lowerAscii (Text.trim s)) ∧
    ∀ u : UserId, UserId.parse u.toString = .ok u :=
  ⟨UserId.parse_accepts_iff, fun _ _ => UserId.toString_of_parse, UserId.parse_toString⟩

/-- An administrator's id written in capitals with blanks around it is read, and prints in
lower case. -/
theorem capitals_read_as_lower_case_admin :
    UserId.parse " KKLA0001 " = .ok ⟨.kkl, .admin, 1⟩ ∧
      (⟨.kkl, .admin, 1⟩ : UserId).toString = Text.lowerAscii (Text.trim " KKLA0001 ") :=
  have hread : UserId.parse " KKLA0001 " = .ok ⟨.kkl, .admin, 1⟩ :=
    Except.eq_ok_of_toOption (by decide +kernel)
  ⟨hread, userId_read_exactly_from_its_spellings.2.1 _ _ hread⟩

/-! ## Timeslots -/

/-- A run over a list in `Except` succeeds exactly when every member does, with the results in
order. -/
theorem List.mapM_eq_ok_iff {α β ε : Type} (f : α → Except ε β) :
    ∀ (l : List α) (bs : List β), l.mapM f = .ok bs ↔ List.Forall₂ (fun a b => f a = .ok b) l bs
  | [], bs => by
    rw [List.mapM_nil, List.forall₂_nil_left_iff]
    exact ⟨fun h => (Except.ok.inj h).symm, fun h => h ▸ rfl⟩
  | a :: l, bs => by
    rw [List.mapM_cons, List.forall₂_cons_left_iff]
    rcases hfa : f a with e | b
    · simp [bind, Except.bind]
    · rcases hl : l.mapM f with e | bs'
      · simp only [bind, Except.bind, reduceCtorEq, false_iff, not_exists, not_and, Except.ok.injEq]
        intro b' bs'' hb hrest
        have := (List.mapM_eq_ok_iff f l bs'').mpr hrest
        rw [hl] at this
        cases this
      · have ih := List.mapM_eq_ok_iff f l bs'
        simp only [bind, Except.bind, pure, Except.pure, Except.ok.injEq, hl, true_iff] at ih ⊢
        constructor
        · rintro rfl
          exact ⟨b, bs', rfl, ih, rfl⟩
        · rintro ⟨b', bs'', rfl, hrest, rfl⟩
          have := (List.mapM_eq_ok_iff f l bs'').mpr hrest
          rw [hl] at this
          rw [Except.ok.inj this]

namespace Timeslot

theorem splitFirst_eq_some_iff {sep : Char} {cs a b : List Char} :
    splitFirst sep cs = some (a, b) ↔ cs = a ++ sep :: b ∧ sep ∉ a := by
  constructor
  · intro h
    unfold splitFirst at h
    split at h
    · rename_i i hi
      obtain ⟨hlt, hsep, hbefore⟩ := List.findIdx?_eq_some_iff_getElem.mp hi
      simp only [Option.some.injEq, Prod.mk.injEq] at h
      obtain ⟨rfl, rfl⟩ := h
      have hsep' : cs[i] = sep := by simpa using hsep
      refine ⟨?_, ?_⟩
      · rw [← hsep', ← List.drop_eq_getElem_cons, List.take_append_drop]
      · -- no separator stands before the first one
        intro hmem
        obtain ⟨j, hj, hget⟩ := List.getElem_of_mem hmem
        have hji : j < i := by simp at hj; omega
        have := hbefore j hji
        simp_all
    · cases h
  · rintro ⟨rfl, h⟩
    exact splitFirst_append _ h

/-- `hs:ms` spells the clock time `h:m`: one or two digits for the hour and exactly two for
the minutes. -/
def ClockSpelling (hs ms : List Char) (h m : Nat) : Prop :=
  hs ≠ [] ∧ hs.length ≤ 2 ∧ ms.length = 2 ∧ (∀ c ∈ hs ++ ms, c.isDigit = true) ∧
    Text.decimalValue hs = h ∧ Text.decimalValue ms = m

/-- The text of a clock time: the digits of its hour, a colon and the digits of its minutes. -/
def ClockText (cs : List Char) (h m : Nat) : Prop :=
  ∃ hs ms, cs = hs ++ ':' :: ms ∧ ClockSpelling hs ms h m

theorem readClock_eq_some_iff {cs : List Char} {h m : Nat} :
    readClock cs = some (h, m) ↔ ClockText cs h m := by
  constructor
  · intro hr
    unfold readClock at hr
    rcases hsplit : splitFirst ':' cs with _ | ⟨hs, ms⟩ <;> rw [hsplit] at hr
    · cases hr
    · obtain ⟨rfl, -⟩ := splitFirst_eq_some_iff.mp hsplit
      simp only [bind, Option.bind] at hr
      split at hr
      · cases hr
      · rename_i hcond
        simp only [Option.some.injEq, Prod.mk.injEq] at hr
        simp only [List.isEmpty_iff, gt_iff_lt, ne_eq, Bool.not_eq_eq_eq_not, Bool.not_true, not_or,
          Bool.not_eq_false, Text.allDigits, List.all_eq_true, not_lt, Decidable.not_not] at hcond
        obtain ⟨hne, hlen, hmlen, hhd, hmd⟩ := hcond
        refine ⟨hs, ms, rfl, hne, hlen, hmlen, ?_, hr.1, hr.2⟩
        intro c hc
        rcases List.mem_append.mp hc with hc | hc
        · exact hhd c hc
        · exact hmd c hc
  · rintro ⟨hs, ms, rfl, hne, hlen, hmlen, hdig, rfl, rfl⟩
    have hcolon : ':' ∉ hs := fun hc => absurd (hdig ':' (List.mem_append_left _ hc)) (by decide)
    have hhd : Text.allDigits hs = true := by
      simpa [Text.allDigits] using fun c hc => hdig c (List.mem_append_left _ hc)
    have hmd : Text.allDigits ms = true := by
      simpa [Text.allDigits] using fun c hc => hdig c (List.mem_append_right _ hc)
    simp [readClock, splitFirst_append _ hcolon, hne, hlen, hmlen, hhd, hmd]

theorem minutesOf_eq_ok_iff {h m n : Nat} : minutesOf h m = .ok n ↔ h ≤ 23 ∧ m ≤ 59 ∧ n = h * 60 + m := by
  unfold minutesOf
  split
  · simp only [reduceCtorEq, false_iff]
    omega
  · simp only [Except.ok.injEq]
    omega

theorem make_eq_ok_iff {sh sm eh em : Nat} {t : Timeslot} :
    make sh sm eh em = .ok t ↔
      sh ≤ 23 ∧ sm ≤ 59 ∧ eh ≤ 23 ∧ em ≤ 59 ∧ t.start = sh * 60 + sm ∧ t.stop = eh * 60 + em := by
  constructor
  · intro h
    unfold make at h
    rcases hs : minutesOf sh sm with e | start <;> rw [hs] at h
    · cases h
    · rcases he : minutesOf eh em with e | stop <;> rw [he] at h
      · cases h
      · simp only [bind, Except.bind] at h
        split at h
        · cases h
          obtain ⟨h1, h2, rfl⟩ := minutesOf_eq_ok_iff.mp hs
          obtain ⟨h3, h4, rfl⟩ := minutesOf_eq_ok_iff.mp he
          exact ⟨h1, h2, h3, h4, rfl, rfl⟩
        · cases h
  · rintro ⟨h1, h2, h3, h4, hst, hsp⟩
    unfold make
    rw [minutesOf_eq_ok_iff.mpr ⟨h1, h2, rfl⟩, minutesOf_eq_ok_iff.mpr ⟨h3, h4, rfl⟩]
    simp only [bind, Except.bind]
    rw [dif_pos ⟨hst ▸ hsp ▸ t.start_lt_stop, hsp ▸ t.stop_lt⟩]
    exact congrArg Except.ok (eq_of_start_stop hst.symm hsp.symm)

/-- The text of a timeslot as read, once trimmed: the texts of its start and of its end, each
with blanks around it, on either side of the first dash. -/
def SlotText (cs : List Char) (sh sm eh em : Nat) : Prop :=
  ∃ a b, cs = a ++ '-' :: b ∧ '-' ∉ a ∧ ClockText (Text.trimList a) sh sm ∧
    ClockText (Text.trimList b) eh em

/-- What a timeslot is read from: a slot text of valid clock times, and the slot is theirs. -/
theorem parse_eq_ok_iff {s : String} {t : Timeslot} :
    parse s = .ok t ↔ ∃ sh sm eh em, SlotText (Text.trimList s.toList) sh sm eh em ∧
      sh ≤ 23 ∧ sm ≤ 59 ∧ eh ≤ 23 ∧ em ≤ 59 ∧ t.start = sh * 60 + sm ∧ t.stop = eh * 60 + em := by
  constructor
  · intro h
    unfold parse at h
    split at h
    · cases h
    · rename_i a b hsplit
      obtain ⟨hcs, hdash⟩ := splitFirst_eq_some_iff.mp hsplit
      split at h
      · rename_i sh sm eh em ha hb
        obtain ⟨h1, h2, h3, h4, hst, hsp⟩ := make_eq_ok_iff.mp h
        exact ⟨sh, sm, eh, em, ⟨a, b, hcs, hdash, readClock_eq_some_iff.mp ha, readClock_eq_some_iff.mp hb⟩,
          h1, h2, h3, h4, hst, hsp⟩
      · cases h
  · rintro ⟨sh, sm, eh, em, ⟨a, b, hcs, hdash, ha, hb⟩, hmake⟩
    unfold parse
    rw [hcs, splitFirst_append _ hdash]
    simp only [readClock_eq_some_iff.mpr ha, readClock_eq_some_iff.mpr hb]
    exact make_eq_ok_iff.mpr hmake

/-- A text is read as some timeslot exactly when, trimmed, it is a slot text of valid clock times
with the start before the end. -/
theorem parse_accepts_iff (s : String) :
    (∃ t, parse s = .ok t) ↔ ∃ sh sm eh em, SlotText (Text.trimList s.toList) sh sm eh em ∧
      sh ≤ 23 ∧ sm ≤ 59 ∧ eh ≤ 23 ∧ em ≤ 59 ∧ sh * 60 + sm < eh * 60 + em := by
  constructor
  · rintro ⟨t, ht⟩
    obtain ⟨sh, sm, eh, em, htext, h1, h2, h3, h4, hst, hsp⟩ := parse_eq_ok_iff.mp ht
    exact ⟨sh, sm, eh, em, htext, h1, h2, h3, h4, hst ▸ hsp ▸ t.start_lt_stop⟩
  · rintro ⟨sh, sm, eh, em, htext, h1, h2, h3, h4, hlt⟩
    have hday : eh * 60 + em < minutesPerDay := by
      unfold minutesPerDay
      omega
    exact ⟨⟨sh * 60 + sm, eh * 60 + em, hlt, hday⟩,
      parse_eq_ok_iff.mpr ⟨sh, sm, eh, em, htext, h1, h2, h3, h4, rfl, rfl⟩⟩

/-! ### The written form -/

/-- An hour written without padding: one digit, or two that do not start with zero. -/
def Unpadded (hs : List Char) : Prop := hs.length = 1 ∨ hs.head? ≠ some '0'

/-- The text of a timeslot as it is written: its start and its end with no blanks, each hour
without padding and the minutes in two digits. -/
def Written (cs : List Char) (t : Timeslot) : Prop :=
  ∃ hs ms hs' ms', cs = hs ++ ':' :: ms ++ '-' :: (hs' ++ ':' :: ms') ∧
    ClockSpelling hs ms (t.start / 60) (t.start % 60) ∧ Unpadded hs ∧
    ClockSpelling hs' ms' (t.stop / 60) (t.stop % 60) ∧ Unpadded hs'

theorem unpadded_toDigits : ∀ h < 24, Unpadded (Nat.toDigits 10 h) := by
  unfold Unpadded
  decide

/-- The text of a clock time before midnight spells it, with the hour unpadded. -/
theorem clockText_spelling {h m : Nat} (hh : h < 24) (hm : m < 60) :
    ClockSpelling (Nat.toDigits 10 h) (Text.padded 2 m).toList h m ∧ Unpadded (Nat.toDigits 10 h) := by
  refine ⟨⟨Nat.toDigits_ne_nil, (Nat.length_toDigits_le_iff (by decide) (by decide)).mpr (by omega),
    Text.length_padded (by decide) (by omega), ?_, Text.decimalValue_toDigits h,
    Text.decimalValue_padded 2 m⟩, unpadded_toDigits h hh⟩
  intro c hc
  rcases List.mem_append.mp hc with hc | hc
  · exact Text.isDigit_of_mem_toDigits hc
  · exact Text.isDigit_of_mem_padded hc

/-- A clock time spelled with its hour unpadded is its written text. -/
theorem eq_clockText_of_spelling {hs ms : List Char} {h m : Nat} (hsp : ClockSpelling hs ms h m)
    (hu : Unpadded hs) : hs ++ ':' :: ms = (clockText h m).toList := by
  obtain ⟨hne, -, hmlen, hdig, rfl, rfl⟩ := hsp
  have hhd : ∀ c ∈ hs, c.isDigit = true := fun c hc => hdig c (List.mem_append_left _ hc)
  have hmd : ∀ c ∈ ms, c.isDigit = true := fun c hc => hdig c (List.mem_append_right _ hc)
  rw [clockText_toList, Text.toDigits_decimalValue hhd hne hu, ← hmlen,
    Text.padded_decimalValue hmd (by omega)]

/-- The text of a timeslot is its only written form. -/
theorem toString_eq_iff (t : Timeslot) (cs : List Char) : t.toString.toList = cs ↔ Written cs t := by
  have hday : t.stop < 1440 := t.stop_lt
  have hstart : t.start / 60 < 24 := by have := t.start_lt_stop; omega
  have hstop : t.stop / 60 < 24 := by omega
  constructor
  · rintro rfl
    obtain ⟨hsp, hu⟩ := clockText_spelling hstart (Nat.mod_lt t.start (by decide))
    obtain ⟨hsp', hu'⟩ := clockText_spelling hstop (Nat.mod_lt t.stop (by decide))
    refine ⟨_, _, _, _, ?_, hsp, hu, hsp', hu'⟩
    rw [toString_toList, clockText_toList, clockText_toList]
  · rintro ⟨hs, ms, hs', ms', rfl, hsp, hu, hsp', hu'⟩
    rw [toString_toList, ← eq_clockText_of_spelling hsp hu, ← eq_clockText_of_spelling hsp' hu']

/-! ### Order -/

theorem compare_eq_lt_iff (a b : Timeslot) :
    compare a b = .lt ↔ toLex (a.start, a.stop) < toLex (b.start, b.stop) := by
  show (compare a.start b.start).then (compare a.stop b.stop) = .lt ↔ _
  rw [Ordering.then_eq_lt, Nat.compare_eq_lt, Nat.compare_eq_eq, Nat.compare_eq_lt,
    Prod.Lex.toLex_lt_toLex]

theorem compare_eq_eq_iff (a b : Timeslot) : compare a b = .eq ↔ a = b := by
  show (compare a.start b.start).then (compare a.stop b.stop) = .eq ↔ _
  rw [Ordering.then_eq_eq, Nat.compare_eq_eq, Nat.compare_eq_eq]
  exact ⟨fun h => eq_of_start_stop h.1 h.2, fun h => h ▸ ⟨rfl, rfl⟩⟩

theorem compare_eq_gt_iff (a b : Timeslot) :
    compare a b = .gt ↔ toLex (b.start, b.stop) < toLex (a.start, a.stop) := by
  show (compare a.start b.start).then (compare a.stop b.stop) = .gt ↔ _
  rw [Ordering.then_eq_gt, Nat.compare_eq_gt, Nat.compare_eq_eq, Nat.compare_eq_gt,
    Prod.Lex.toLex_lt_toLex]
  constructor
  · rintro (h | ⟨h, h'⟩)
    · exact Or.inl h
    · exact Or.inr ⟨h.symm, h'⟩
  · rintro (h | ⟨h, h'⟩)
    · exact Or.inl h
    · exact Or.inr ⟨h.symm, h'⟩

/-- Timeslots are ordered as the pairs of their start and end minutes, lexicographically. -/
theorem compare_eq_compare_toLex (a b : Timeslot) :
    compare a b = compare (toLex (a.start, a.stop)) (toLex (b.start, b.stop)) := by
  cases h : compare (toLex (a.start, a.stop)) (toLex (b.start, b.stop))
  · exact (compare_eq_lt_iff a b).mpr (compare_lt_iff_lt.mp h)
  · have hpair := compare_eq_iff_eq.mp h
    simp only [toLex_inj, Prod.mk.injEq] at hpair
    exact (compare_eq_eq_iff a b).mpr (eq_of_start_stop hpair.1 hpair.2)
  · exact (compare_eq_gt_iff a b).mpr (compare_gt_iff_gt.mp h)

/-- The order a room keeps its timeslots in is the order of `compare`. -/
theorem before_iff (a b : Timeslot) : a.before b = true ↔ compare a b = .lt := by
  rw [compare_eq_lt_iff, Prod.Lex.toLex_lt_toLex]
  simp [before]

/-! ### Lists -/

/-- The pieces of a comma-separated list that are not blank, in order. -/
def listPieces (s : String) : List String := (s.splitOn ",").filter fun p => Text.trim p ≠ ""

theorem parse_trim_eq_ok_iff (p : String) (t : Timeslot) : parse (Text.trim p) = .ok t ↔ parse p = .ok t := by
  rw [parse_eq_ok_iff, parse_eq_ok_iff, Text.trim_toList, Text.trimList_trimList]

/-- A list of timeslots is read exactly when every piece that is not blank is a timeslot and
there is such a piece; the slots come in the order of their pieces. -/
theorem parseList_eq_ok_iff (s : String) (ts : List Timeslot) :
    parseList s = .ok ts ↔ ts ≠ [] ∧ List.Forall₂ (fun p t => parse p = .ok t) (listPieces s) ts := by
  have hpieces : ((s.splitOn ",").map Text.trim).filter (fun p => p ≠ "") = (listPieces s).map Text.trim := by
    rw [listPieces, List.filter_map]
    rfl
  have hread : ∀ slots, ((listPieces s).map Text.trim).mapM parse = .ok slots ↔
      List.Forall₂ (fun p t => parse p = .ok t) (listPieces s) slots := by
    intro slots
    rw [List.mapM_eq_ok_iff, List.forall₂_map_left_iff]
    simp only [parse_trim_eq_ok_iff]
  unfold parseList
  simp only [hpieces]
  rcases hm : ((listPieces s).map Text.trim).mapM parse with e | slots
  · simp only [bind, Except.bind, reduceCtorEq, false_iff, not_and]
    intro _ hall
    rw [(hread ts).mpr hall] at hm
    cases hm
  · -- the pieces read to `slots`, so they read to `ts` exactly when `ts = slots`
    have hsame : List.Forall₂ (fun p t => parse p = .ok t) (listPieces s) ts ↔ slots = ts := by
      rw [← hread, hm, Except.ok.injEq]
    rw [hsame]
    cases slots with
    | nil => simp [bind, Except.bind, throw, throwThe, MonadExceptOf.throw]
    | cons t rest =>
      simp only [bind, Except.bind, List.isEmpty_cons, Bool.false_eq_true, if_false, pure,
        Except.pure, Except.ok.injEq]
      exact ⟨fun h => ⟨h ▸ List.cons_ne_nil t rest, h⟩, fun h => h.2⟩

end Timeslot

/-- Timeslots are read exactly from their grammar: a text is read when, trimmed, it splits at
its first dash into two clock times, each with blanks around it, of one or two digits, a colon
and two digits, at most `23:59`, the start before the end; the slot read has those clock times.
A slot prints as its only written form, with no padding on the hours, and is read back from it.
Slots are ordered as the pairs of their start and end minutes.  A comma-separated list is read
when its pieces that are not blank are slots and there is one, in the order of the pieces. -/
theorem timeslot_text_read_exactly :
    (∀ s : String, (∃ t, Timeslot.parse s = .ok t) ↔
      ∃ sh sm eh em, Timeslot.SlotText (Text.trimList s.toList) sh sm eh em ∧
        sh ≤ 23 ∧ sm ≤ 59 ∧ eh ≤ 23 ∧ em ≤ 59 ∧ sh * 60 + sm < eh * 60 + em) ∧
    (∀ (s : String) (t : Timeslot), Timeslot.parse s = .ok t ↔
      ∃ sh sm eh em, Timeslot.SlotText (Text.trimList s.toList) sh sm eh em ∧
        sh ≤ 23 ∧ sm ≤ 59 ∧ eh ≤ 23 ∧ em ≤ 59 ∧ t.start = sh * 60 + sm ∧ t.stop = eh * 60 + em) ∧
    (∀ (t : Timeslot) (cs : List Char), t.toString.toList = cs ↔ Timeslot.Written cs t) ∧
    (∀ t : Timeslot, Timeslot.parse t.toString = .ok t) ∧
    (∀ a b : Timeslot, compare a b = compare (toLex (a.start, a.stop)) (toLex (b.start, b.stop)) ∧
      (a.before b = true ↔ compare a b = .lt)) ∧
    ∀ (s : String) (ts : List Timeslot), Timeslot.parseList s = .ok ts ↔
      ts ≠ [] ∧ List.Forall₂ (fun p t => Timeslot.parse p = .ok t) (Timeslot.listPieces s) ts :=
  ⟨Timeslot.parse_accepts_iff, fun _ _ => Timeslot.parse_eq_ok_iff, Timeslot.toString_eq_iff,
    Timeslot.parse_toString, fun a b => ⟨Timeslot.compare_eq_compare_toLex a b, Timeslot.before_iff a b⟩,
    Timeslot.parseList_eq_ok_iff⟩

end CampusBooking
