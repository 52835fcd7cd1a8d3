import Mathlib
import CampusBooking.Json.Reader

/-!
# Reading a known text

The reader walks the bytes of a text from a cursor.  This module says what it means for a
reader to read a given piece of text, and proves it for the small steps of the grammar.

`Reads r nest bs rest a` says: from every cursor whose remaining bytes are `bs` followed by
`rest`, with more than `nest` levels of nesting left, `r` gives `a` and stops right after
`bs`, the rest of the cursor as it was.  Readings compose: a bind reads the bytes of its two
parts one after the other (`Reads.bind`), and a nested value opened with `enter` and closed
with `leave` gives back the level it took (`Reads.nested`).

The steps proved here are the ones a compact text meets: bytes that are there (`peek`,
`next`, `advance`), the blanks that are not (`skipBlanks`), the rest of a literal
(`expectWord`), and the wrappers `positioned` and `closing`, which change nothing when
their body succeeds.
-/

namespace CampusBooking

theorem ByteArray.toList_eq_data_toList (b : ByteArray) : b.toList = b.data.toList := by
  -- the loop conses the bytes from index `i` on, in reverse, onto what it has
  have hloop : ∀ i r, ByteArray.toList.loop b i r = r.reverse ++ b.data.toList.drop i := by
    intro i r
    induction i, r using ByteArray.toList.loop.induct b with
    | case1 i r hi ih =>
      rw [ByteArray.toList.loop, if_pos hi, ih]
      have hlen : i < b.data.toList.length := by simpa using hi
      have hget : b.get! i = b.data.toList[i] := by
        simp [ByteArray.get!, hi]
      rw [hget, List.reverse_cons, List.append_assoc, List.singleton_append,
        List.getElem_cons_drop]
    | case2 i r hi =>
      rw [ByteArray.toList.loop, if_neg hi, List.drop_of_length_le (by simpa using hi),
        List.append_nil]
  rw [ByteArray.toList, hloop]
  rfl

/-- The bytes of a string are the UTF-8 encodings of its characters, one after another. -/
theorem String.toByteArray_data_toList (s : String) :
    s.toByteArray.data.toList = s.toList.flatMap String.utf8EncodeChar := by
  rw [← String.utf8Encode_toList, List.utf8Encode, List.toList_data_toByteArray]

namespace Json

namespace Cursor

/-- The bytes from the reader's place to the end of the text. -/
def rest (c : Cursor) : List UInt8 := c.input.data.toList.drop c.pos

/-- The cursor `n` bytes further on. -/
def skip (c : Cursor) (n : Nat) : Cursor := { c with pos := c.pos + n }

@[simp] theorem skip_zero (c : Cursor) : c.skip 0 = c := rfl

@[simp] theorem skip_skip (c : Cursor) (m n : Nat) : (c.skip m).skip n = c.skip (m + n) := by
  simp only [skip, Nat.add_assoc]

@[simp] theorem skip_input (c : Cursor) (n : Nat) : (c.skip n).input = c.input := rfl

@[simp] theorem skip_depth (c : Cursor) (n : Nat) : (c.skip n).depth = c.depth := rfl

theorem rest_skip (c : Cursor) (n : Nat) : (c.skip n).rest = c.rest.drop n := by
  simp only [rest, skip, List.drop_drop, Nat.add_comm]

theorem rest_skip_of_eq {c : Cursor} {bs rest : List UInt8} (h : c.rest = bs ++ rest) :
    (c.skip bs.length).rest = rest := by
  rw [rest_skip, h, List.drop_left]

theorem input_getElem?_pos (c : Cursor) : c.input[c.pos]? = c.rest.head? := by
  rw [rest, List.head?_drop]
  by_cases h : c.pos < c.input.size
  · rw [getElem?_pos c.input c.pos h, List.getElem?_eq_getElem (by simpa using h)]
    rfl
  · rw [getElem?_neg c.input c.pos h, List.getElem?_eq_none (by simpa using h)]

theorem length_rest (c : Cursor) : c.rest.length = c.input.size - c.pos := by
  simp [rest]

end Cursor

namespace Reader

/-- A reader run from a cursor: its outcome and where it leaves the cursor. -/
def runAt (r : Reader α) (c : Cursor) : Except ReadFault α × Cursor :=
  StateT.run (ExceptT.run r) c

theorem runAt_bind (x : Reader α) (f : α → Reader β) (c : Cursor) :
    runAt (x >>= f) c = match runAt x c with
      | (.ok a, c') => runAt (f a) c'
      | (.error e, c') => (.error e, c') := by
  simp only [runAt, ExceptT.run_bind, StateT.run_bind]
  rcases (ExceptT.run x).run c with ⟨_ | a, c'⟩ <;> rfl

theorem runAt_map (g : α → β) (x : Reader α) (c : Cursor) :
    runAt (g <$> x) c = match runAt x c with
      | (.ok a, c') => (.ok (g a), c')
      | (.error e, c') => (.error e, c') := by
  simp only [runAt, ExceptT.run_map, StateT.run_map]
  rcases (ExceptT.run x).run c with ⟨_ | a, c'⟩ <;> rfl

theorem runAt_tryCatch (x : Reader α) (h : ReadFault → Reader α) (c : Cursor) :
    runAt (tryCatch x h) c = match runAt x c with
      | (.ok a, c') => (.ok a, c')
      | (.error e, c') => runAt (h e) c' := by
  show StateT.run (ExceptT.tryCatch x h) c = match StateT.run x c with
      | (.ok a, c') => (.ok a, c')
      | (.error e, c') => runAt (h e) c'
  unfold ExceptT.tryCatch ExceptT.mk
  rw [StateT.run_bind]
  rcases StateT.run x c with ⟨_ | a, c'⟩ <;> rfl

theorem runAt_skipBlanks (c : Cursor) : runAt skipBlanks c =
    (.ok c.input[blankEnd c.input c.pos (c.input.size - c.pos)]?,
      { c with pos := blankEnd c.input c.pos (c.input.size - c.pos) }) := rfl

@[simp] theorem runAt_pure (a : α) (c : Cursor) : runAt (pure a : Reader α) c = (.ok a, c) := rfl

@[simp] theorem runAt_get (c : Cursor) : runAt get c = (.ok c, c) := rfl

theorem runAt_peek (c : Cursor) : runAt peek c = (.ok c.rest.head?, c) := by
  show (Except.ok c.input[c.pos]?, c) = _
  rw [Cursor.input_getElem?_pos]

theorem runAt_peekOrZero (c : Cursor) : runAt peekOrZero c = (.ok (c.rest.head?.getD 0), c) := by
  simp only [peekOrZero, runAt_bind, runAt_peek]
  rfl

theorem runAt_advance (c : Cursor) : runAt advance c = (.ok (), c.skip 1) := rfl

theorem runAt_next_of {c : Cursor} {b : UInt8} {rest : List UInt8} (h : c.rest = b :: rest) :
    runAt next c = (.ok (some b), c.skip 1) := by
  simp only [next, runAt_bind, runAt_peek, h, List.head?_cons]
  rfl

theorem runAt_enter {c : Cursor} (h : 1 < c.depth) :
    runAt enter c = (.ok (), { c.skip 1 with depth := c.depth - 1 }) := by
  show runAt (if c.depth ≤ 1 then failAhead .recursionLimitExceeded
    else set { c with depth := c.depth - 1, pos := c.pos + 1 }) c = _
  rw [if_neg (by omega)]
  rfl

theorem runAt_leave (c : Cursor) : runAt leave c = (.ok (), { c with depth := c.depth + 1 }) :=
  rfl

end Reader

open Reader

/-- `r` reads `bs` and gives `a`: run from any cursor whose remaining bytes are `bs`
followed by `rest`, with more than `nest` levels of nesting left, it stops right after `bs`. -/
def Reads (r : Reader α) (nest : Nat) (bs rest : List UInt8) (a : α) : Prop :=
  ∀ c : Cursor, c.rest = bs ++ rest → nest < c.depth → runAt r c = (.ok a, c.skip bs.length)

namespace Reads

variable {nest : Nat} {bs bs₁ bs₂ rest : List UInt8}

theorem pure (a : α) : Reads (pure a : Reader α) nest [] rest a :=
  fun _ _ _ => rfl

theorem bind {x : Reader α} {f : α → Reader β} {a : α} {b : β}
    (hx : Reads x nest bs₁ (bs₂ ++ rest) a) (hf : Reads (f a) nest bs₂ rest b) :
    Reads (x >>= f) nest (bs₁ ++ bs₂) rest b := by
  intro c hc hd
  rw [List.append_assoc] at hc
  rw [runAt_bind, hx c hc hd]
  dsimp only
  rw [hf _ (Cursor.rest_skip_of_eq hc) hd, Cursor.skip_skip, List.length_append]

theorem map {x : Reader α} {a : α} (g : α → β) (hx : Reads x nest bs rest a) :
    Reads (g <$> x) nest bs rest (g a) := by
  intro c hc hd
  rw [runAt_map, hx c hc hd]

/-- A reading followed by one that reads nothing. -/
theorem bind_nil_right {x : Reader α} {f : α → Reader β} {a : α} {b : β}
    (hx : Reads x nest bs rest a) (hf : Reads (f a) nest [] rest b) :
    Reads (x >>= f) nest bs rest b := by
  have h : Reads (x >>= f) nest (bs ++ []) rest b := bind hx hf
  rwa [List.append_nil] at h

/-- A reading followed by a pure step, as in `return f (← x)`. -/
theorem bind_pure {x : Reader α} {a : α} (g : α → β) (hx : Reads x nest bs rest a) :
    Reads (x >>= fun y => Pure.pure (g y)) nest bs rest (g a) :=
  bind_nil_right hx (Reads.pure (g a))

/-- A reader that looks at the cursor first reads what it reads from every cursor that
holds the bytes. -/
theorem get_bind {f : Cursor → Reader β} {b : β}
    (h : ∀ c : Cursor, (bs ++ rest).length ≤ c.input.size → Reads (f c) nest bs rest b) :
    Reads (get >>= f) nest bs rest b := by
  intro c hc hd
  have hsize : (bs ++ rest).length ≤ c.input.size := by
    rw [← hc, Cursor.length_rest]
    omega
  rw [runAt_bind, runAt_get]
  exact h c hsize c hc hd

theorem mono {r : Reader α} {a : α} {m : Nat} (h : Reads r nest bs rest a) (hle : nest ≤ m) :
    Reads r m bs rest a :=
  fun c hc hd => h c hc (lt_of_le_of_lt hle hd)

/-- A reader that reads nothing and gives `a` may stand before any reading. -/
theorem bind_nil {x : Reader α} {f : α → Reader β} {a : α} {b : β}
    (hx : Reads x nest [] (bs ++ rest) a) (hf : Reads (f a) nest bs rest b) :
    Reads (x >>= f) nest bs rest b :=
  (bind hx hf : Reads _ nest ([] ++ bs) rest b)

end Reads

/-! ## Bytes that are there -/

section Steps

variable {nest : Nat} {rest : List UInt8}

theorem reads_advance (b : UInt8) : Reads advance nest [b] rest () :=
  fun _ _ _ => rfl

/-- Stepping over a byte that was seen, then reading on. -/
theorem reads_advance_then (b : UInt8) {r : Reader α} {bs : List UInt8} {a : α}
    (h : Reads r nest bs rest a) : Reads (advance >>= fun _ => r) nest (b :: bs) rest a :=
  Reads.bind (reads_advance b) h

/-- No blank byte stands first. -/
def NoBlank (rest : List UInt8) : Prop := ∀ b ∈ rest.head?, isBlankByte b = false

theorem runAt_skipBlanks_of {c : Cursor} (h : NoBlank c.rest) :
    runAt skipBlanks c = (.ok c.rest.head?, c) := by
  -- the blanks end where the reader stands
  have hend : blankEnd c.input c.pos (c.input.size - c.pos) = c.pos := by
    cases c.input.size - c.pos with
    | zero => rfl
    | succ k =>
      unfold blankEnd
      split
      · rename_i b hb
        rw [Cursor.input_getElem?_pos] at hb
        simp [h b hb]
      · rfl
  rw [runAt_skipBlanks, hend, Cursor.input_getElem?_pos]

theorem reads_skipBlanks (h : NoBlank rest) : Reads skipBlanks nest [] rest rest.head? := by
  intro c hc _
  rw [List.nil_append] at hc
  rw [runAt_skipBlanks_of (hc ▸ h), hc]
  rfl

theorem reads_expectWord (ws : List UInt8) : Reads (expectWord ws) nest ws rest () := by
  induction ws with
  | nil => exact Reads.pure ()
  | cons w ws ih =>
    intro c hc hd
    have hws : (c.skip 1).rest = ws ++ rest :=
      Cursor.rest_skip_of_eq (show c.rest = [w] ++ (ws ++ rest) from hc)
    rw [expectWord, runAt_bind, runAt_next_of hc]
    dsimp only
    rw [if_pos rfl, ih _ hws hd, Cursor.skip_skip, List.length_cons, Nat.add_comm]

end Steps

/-! ## Wrappers -/

section Wrappers

variable {nest : Nat} {bs bs₁ bs₂ rest : List UInt8}

theorem Reads.positioned {r : Reader α} {a : α} (h : Reads r nest bs rest a) :
    Reads (positioned r) nest bs rest a := by
  intro c hc hd
  rw [Reader.positioned, runAt_tryCatch, h c hc hd]

theorem Reads.closing {body : Reader α} {close : Reader Unit} {a : α}
    (hb : Reads body nest bs₁ (bs₂ ++ rest) a) (hc : Reads close nest bs₂ rest ()) :
    Reads (closing body close) nest (bs₁ ++ bs₂) rest a := by
  intro c hcur hd
  rw [List.append_assoc] at hcur
  have hb' : runAt (tryCatch (Except.ok <$> body) fun e => Pure.pure (Except.error e)) c =
      (.ok (.ok a), c.skip bs₁.length) := by
    rw [runAt_tryCatch, runAt_map, hb c hcur hd]
  have hc' : runAt (tryCatch (Except.ok <$> close) fun e => Pure.pure (Except.error e))
      (c.skip bs₁.length) = (.ok (.ok ()), (c.skip bs₁.length).skip bs₂.length) := by
    rw [runAt_tryCatch, runAt_map, hc _ (Cursor.rest_skip_of_eq hcur) hd]
  simp only [Reader.closing, runAt_bind, hb', hc', Cursor.skip_skip, List.length_append]
  rfl

/-- An array or object opened with `enter` and closed with `leave` takes one level of
nesting while its body is read, and gives it back. -/
theorem Reads.nested {body : Reader β} {k : β → Reader γ} {a : β} {x : γ} (b : UInt8)
    (hb : Reads body nest bs rest a) (hk : Reads (k a) (nest + 1) [] rest x) :
    Reads (do enter; let y ← body; leave; k y) (nest + 1) (b :: bs) rest x := by
  intro c hc hd
  -- inside, the cursor stands after the opening byte, one level down
  have hin : ({ c.skip 1 with depth := c.depth - 1 } : Cursor).rest = bs ++ rest :=
    Cursor.rest_skip_of_eq (show c.rest = [b] ++ (bs ++ rest) from hc)
  have hbody := hb _ hin (by simp only; omega)
  have hleave : runAt leave (({ c.skip 1 with depth := c.depth - 1 } : Cursor).skip bs.length) =
      (.ok (), c.skip (b :: bs).length) := by
    rw [runAt_leave]
    simp only [Cursor.skip, List.length_cons, Prod.mk.injEq, Cursor.mk.injEq, true_and]
    omega
  have hend : (c.skip (b :: bs).length).rest = rest := Cursor.rest_skip_of_eq hc
  simp only [runAt_bind, runAt_enter (show 1 < c.depth by omega), hbody, hleave]
  simpa using hk _ hend hd

end Wrappers

end Json

end CampusBooking
