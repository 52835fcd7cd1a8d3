import CampusBooking.Proofs.Json.Values
import CampusBooking.Json.Shape

/-!
# Reading written values by their shape

A message type is read through the vocabulary `ShapeReader`, from text (`Reader`) or from a
value read before (`TreeReader`).  This module proves, for each word of the vocabulary,
that it gives back what the writer put down: a string from its quoted text, a boolean from
its word, an unsigned word from its digits, a variant from its name, an optional piece from
the piece or from `null`, a list from its items, and a record from its object form.

A record is read field by field into a draft.  `RecordField` names one member of a
record's object form: its key, the index of the key among the record's fields, its value,
and what reading the value does to the draft.  When the keys of the members are distinct
fields of the record and each field's step reads its value, the record's members give the
draft with every field applied in the order of the text (`reads_textRecord`,
`TreeReader.run_treeRecord`).
-/

namespace CampusBooking

namespace Json

open Reader

/-- A member of a record's object form, read into a draft of type `σ`: its key, the index
of the key among the record's fields, its value, and what reading the value does to the
draft. -/
structure RecordField (shape : RecordShape) (σ : Type) where
  key : String
  index : Nat
  value : Value
  update : σ → σ
  index_eq : shape.indexOf? key = some index

namespace RecordField

variable {shape : RecordShape} {σ : Type}

/-- The member as it is written. -/
def member (f : RecordField shape σ) : String × Value := (f.key, f.value)

/-- The draft after the members, applied in order. -/
def applyAll (fs : List (RecordField shape σ)) (s : σ) : σ := fs.foldl (fun s f => f.update s) s

@[simp] theorem applyAll_nil (s : σ) : applyAll ([] : List (RecordField shape σ)) s = s := rfl

@[simp] theorem applyAll_cons (f : RecordField shape σ) (fs : List (RecordField shape σ)) (s : σ) :
    applyAll (f :: fs) s = applyAll fs (f.update s) := rfl

theorem applyAll_append (fs gs : List (RecordField shape σ)) (s : σ) :
    applyAll (fs ++ gs) s = applyAll gs (applyAll fs s) :=
  List.foldl_append

section Optional

variable {β : Type} {key : String} {index : Nat} {h : shape.indexOf? key = some index}
  {value : β → Value} {set : Option β → σ → σ}

/-- The member of a field that may be left out, when it is given: its value written by
`value`, and reading it sets the draft's field by `set`. -/
def optional (key : String) (index : Nat) (h : shape.indexOf? key = some index)
    (value : β → Value) (set : Option β → σ → σ) (o : Option β) : List (RecordField shape σ) :=
  (o.map fun b => ⟨key, index, value b, set (some b), h⟩).toList

theorem mem_optional {o : Option β} {f : RecordField shape σ} :
    f ∈ optional key index h value set o ↔ ∃ b, o = some b ∧ f = ⟨key, index, value b, set (some b), h⟩ := by
  cases o <;> simp [optional]

theorem map_member_optional (o : Option β) :
    (optional key index h value set o).map member = (o.map fun b => (key, value b)).toList := by
  cases o <;> rfl

/-- A field that may be left out stands at its place or nowhere. -/
theorem map_index_optional_sublist (o : Option β) :
    ((optional key index h value set o).map RecordField.index).Sublist [index] := by
  cases o with
  | none => exact List.nil_sublist _
  | some b => exact List.Sublist.refl _

/-- Reading a field that may be left out sets the draft's field to what the record gives,
when the draft has none. -/
theorem applyAll_optional {s : σ} (hnone : set none s = s) (o : Option β) :
    applyAll (optional key index h value set o) s = set o s := by
  cases o with
  | none => exact hnone.symm
  | some b => rfl

end Optional

end RecordField

/-- Every piece of a comma-separated text that is not empty adds a byte at least. -/
theorem length_le_commaJoin (xs : List (List UInt8)) (h : ∀ x ∈ xs, x ≠ []) :
    xs.length ≤ (commaJoin xs).length := by
  cases xs with
  | nil => exact Nat.le_refl 0
  | cons x xs =>
    have hx : 1 ≤ x.length := List.length_pos_iff.mpr (h x List.mem_cons_self)
    have hcomma : xs.length ≤ (xs.flatMap (44 :: ·)).length := by
      rw [List.length_flatMap]
      calc xs.length = (xs.map fun _ => 1).sum := by simp
        _ ≤ (xs.map fun y => (44 :: y).length).sum :=
          List.sum_le_sum fun y _ => by simp
    simp only [commaJoin, List.length_append, List.length_cons]
    omega

theorem memberBytes_ne_nil (m : String × Value) : Value.memberBytes m ≠ [] := by
  simp [Value.memberBytes, textBytes_quote]

/-! ## Pieces read from text -/

section Text

variable {nest : Nat} {rest : List UInt8}

/-- A string is read and handed to `visit`. -/
theorem reads_stringWith (expected : String) {visit : String → Reader α} {s : String} {a : α}
    (h : Reads (visit s) nest [] rest a) :
    Reads (stringWith expected visit) nest (Value.str s).bytes rest a := by
  rw [Value.bytes_str]
  refine Reads.positioned (Reads.bind_nil (reads_skipBlanks fun _ h => by cases h; rfl) ?_)
  exact reads_advance_then 34 (Reads.bind_nil_right (reads_readString s) h)

theorem reads_textString (s : String) : Reads textString nest (Value.str s).bytes rest s :=
  reads_stringWith _ (Reads.pure s)

/-- A string turned into a domain value by a conversion that accepts it. -/
theorem reads_convert {f : String → Except String α} {s : String} {a : α} (h : f s = .ok a) :
    Reads (ShapeReader.convert f : Reader α) nest (Value.str s).bytes rest a := by
  refine Reads.bind_nil_right (reads_textString s) ?_
  rw [h]
  exact Reads.pure a

/-- A boolean from its word. -/
theorem reads_textBool (b : Bool) : Reads textBool nest (Value.bool b).bytes rest b := by
  cases b with
  | false =>
    rw [Value.bytes_false]
    refine Reads.positioned (Reads.bind_nil (reads_skipBlanks fun _ h => by cases h; rfl) ?_)
    exact reads_advance_then 102 (Reads.bind_pure (fun _ => false) (reads_expectWord restOfFalse))
  | true =>
    rw [Value.bytes_true]
    refine Reads.positioned (Reads.bind_nil (reads_skipBlanks fun _ h => by cases h; rfl) ?_)
    exact reads_advance_then 116 (Reads.bind_pure (fun _ => true) (reads_expectWord restOfTrue))

theorem reads_variantName {vs : Variants} {s : String} {i : Nat} (h : vs.lookup s = .ok i) :
    Reads (variantName vs) nest (Value.str s).bytes rest i := by
  refine reads_stringWith _ ?_
  rw [h]
  exact Reads.pure i

/-- A variant written as its name. -/
theorem reads_textVariant {vs : Variants} {s : String} {i : Nat} (h : vs.lookup s = .ok i) :
    Reads (textVariant vs) nest (Value.str s).bytes rest i := by
  have hname : Reads (variantName vs) nest (Value.str s).bytes rest i := reads_variantName h
  rw [Value.bytes_str] at hname ⊢
  exact Reads.bind_nil (reads_skipBlanks fun _ h => by cases h; rfl) hname

/-- An unsigned word within its bound. -/
theorem reads_textWord (name : String) {bound m : Nat} (hm : m ≤ bound) (hbound : bound ≤ u64Max)
    (hrest : Delimited rest) :
    Reads (textWord name bound) nest (Value.num (.nat m)).bytes rest m := by
  obtain ⟨b, bs, hbs, hdigit⟩ := Value.bytes_nat_head m
  have hnum : Reads (readNumber true) nest (Value.num (.nat m)).bytes rest (.unsigned m) := by
    rw [Value.bytes_nat]
    exact reads_readNumber (le_trans hm hbound) hrest.endsNumber
  rw [hbs] at hnum ⊢
  refine Reads.positioned (Reads.bind_nil (reads_skipBlanks fun _ h => ?_) ?_)
  · cases h
    exact (opensValue_of_isDigitByte hdigit).2.2.2
  · dsimp only [List.cons_append, List.head?_cons]
    split
    case h_1 h => cases h
    case h_2 h =>
      cases h
      exact absurd hdigit (by decide)
    case h_3 h =>
      cases h
      rw [if_pos hdigit]
      refine Reads.bind_nil_right hnum ?_
      show Reads (if m ≤ bound then Pure.pure m else _) nest [] rest m
      rw [if_pos hm]
      exact Reads.pure m

/-- A text that opens with a byte that is neither blank nor the `n` of `null`. -/
def OpensPiece (bs : List UInt8) : Prop := ∃ b bs', bs = b :: bs' ∧ b ≠ 110 ∧ isBlankByte b = false

theorem opensPiece_str (s : String) : OpensPiece (Value.str s).bytes :=
  ⟨34, _, by rw [Value.bytes_str, List.cons_append], by decide, rfl⟩

theorem opensPiece_nat (m : Nat) : OpensPiece (Value.num (.nat m)).bytes := by
  obtain ⟨b, bs, hbs, hdigit⟩ := Value.bytes_nat_head m
  refine ⟨b, bs, hbs, fun h => absurd hdigit (by rw [h]; decide),
    (opensValue_of_isDigitByte hdigit).2.2.2⟩

theorem opensPiece_obj (ms : List (String × Value)) : OpensPiece (Value.obj ms).bytes :=
  ⟨123, _, by rw [Value.bytes_obj, List.cons_append], by decide, rfl⟩

/-- An optional piece that is there. -/
theorem reads_textOptional_some {r : Reader α} {bs : List UInt8} {a : α} (hopen : OpensPiece bs)
    (h : Reads r nest bs rest a) : Reads (textOptional r) nest bs rest (some a) := by
  obtain ⟨b, bs, rfl, hb, hblank⟩ := hopen
  refine Reads.bind_nil (reads_skipBlanks fun _ h => by cases h; exact hblank) ?_
  dsimp only [List.cons_append, List.head?_cons]
  split
  case h_1 h =>
    cases h
    exact absurd rfl hb
  case h_2 => exact Reads.map some h

/-- The members after the first, each after its comma, are read field by field into the
draft, up to the closing brace. -/
theorem reads_recordMembers_more {shape : RecordShape} {step : Nat → σ → Reader σ}
    {fs : List (RecordField shape σ)}
    (hread : ∀ f ∈ fs, ∀ s more, Delimited more →
      Reads (step f.index s) nest f.value.bytes more (f.update s))
    (hnodup : (fs.map RecordField.index).Nodup) {seen : List Nat}
    (hfresh : ∀ f ∈ fs, f.index ∉ seen) (s : σ) {fuel : Nat} (hfuel : fs.length < fuel) :
    Reads (recordMembers shape step false seen s fuel) nest
      (fs.flatMap fun f => 44 :: Value.memberBytes f.member) (125 :: rest)
      (RecordField.applyAll fs s) := by
  induction fs generalizing seen s fuel with
  | nil =>
    obtain ⟨fuel, rfl⟩ : ∃ g, fuel = g + 1 := ⟨fuel - 1, by simp at hfuel; omega⟩
    rw [recordMembers]
    exact Reads.bind_nil (reads_nextKey_end false) (Reads.pure s)
  | cons f fs ih =>
    obtain ⟨fuel, rfl⟩ : ∃ g, fuel = g + 1 := ⟨fuel - 1, by omega⟩
    rw [List.map_cons, List.nodup_cons] at hnodup
    -- the later fields are fresh after this one is seen
    have hfresh' : ∀ g ∈ fs, g.index ∉ f.index :: seen := fun g hg hmem => by
      rcases List.mem_cons.mp hmem with heq | hseen
      · exact hnodup.1 (heq ▸ List.mem_map_of_mem hg)
      · exact hfresh g (List.mem_cons_of_mem _ hg) hseen
    have hrest := ih (fun g hg => hread g (List.mem_cons_of_mem _ hg)) hnodup.2 hfresh'
      (f.update s) (show fs.length < fuel by simp at hfuel; omega)
    have hval := hread f List.mem_cons_self s
      ((fs.flatMap fun f => 44 :: Value.memberBytes f.member) ++ 125 :: rest)
      (delimited_flatMap_comma fs _ (Or.inr (Or.inr rfl)) rest)
    rw [recordMembers, List.flatMap_cons, List.cons_append, RecordField.member,
      Value.memberBytes_append, ← List.cons_append, RecordField.applyAll_cons]
    refine Reads.bind (reads_nextKey_comma f.key) ?_
    dsimp only
    rw [f.index_eq]
    dsimp only
    rw [if_neg (hfresh f List.mem_cons_self)]
    exact Reads.bind reads_colon (Reads.bind hval hrest)

/-- The members of a record are read field by field into the draft, up to the closing
brace. -/
theorem reads_recordMembers_first {shape : RecordShape} {step : Nat → σ → Reader σ}
    {fs : List (RecordField shape σ)}
    (hread : ∀ f ∈ fs, ∀ s more, Delimited more →
      Reads (step f.index s) nest f.value.bytes more (f.update s))
    (hnodup : (fs.map RecordField.index).Nodup) (s : σ) {fuel : Nat} (hfuel : fs.length < fuel) :
    Reads (recordMembers shape step true [] s fuel) nest
      (commaJoin (fs.map fun f => Value.memberBytes f.member)) (125 :: rest)
      (RecordField.applyAll fs s) := by
  obtain ⟨fuel, rfl⟩ : ∃ g, fuel = g + 1 := ⟨fuel - 1, by omega⟩
  cases fs with
  | nil =>
    rw [recordMembers]
    exact Reads.bind_nil (reads_nextKey_end true) (Reads.pure s)
  | cons f fs =>
    rw [List.map_cons, List.nodup_cons] at hnodup
    have hrest : Reads (recordMembers shape step false [f.index] (f.update s) fuel) nest
        (fs.flatMap fun f => 44 :: Value.memberBytes f.member) (125 :: rest)
        (RecordField.applyAll fs (f.update s)) :=
      reads_recordMembers_more (fun g hg => hread g (List.mem_cons_of_mem _ hg)) hnodup.2
        (fun g hg hmem => hnodup.1 (by
          rw [← List.eq_of_mem_singleton hmem]
          exact List.mem_map_of_mem hg))
        (f.update s) (show fs.length < fuel by simp at hfuel; omega)
    have hval := hread f List.mem_cons_self s
      ((fs.flatMap fun f => 44 :: Value.memberBytes f.member) ++ 125 :: rest)
      (delimited_flatMap_comma fs _ (Or.inr (Or.inr rfl)) rest)
    rw [commaJoin_map_cons, recordMembers, RecordField.member, Value.memberBytes_append,
      RecordField.applyAll_cons]
    refine Reads.bind (reads_nextKey_first f.key) ?_
    dsimp only
    rw [f.index_eq]
    dsimp only
    rw [if_neg List.not_mem_nil]
    exact Reads.bind reads_colon (Reads.bind hval hrest)

/-- A record written as an object of distinct fields, each read by its step, gives what
`finish` makes of the draft. -/
theorem reads_textRecord {shape : RecordShape} {step : Nat → σ → Reader σ} {init : σ}
    {finish : σ → Except ShapeFault α} {fs : List (RecordField shape σ)} {a : α}
    (hread : ∀ f ∈ fs, ∀ s more, Delimited more →
      Reads (step f.index s) nest f.value.bytes more (f.update s))
    (hnodup : (fs.map RecordField.index).Nodup)
    (hfinish : finish (RecordField.applyAll fs init) = .ok a) :
    Reads (textRecord shape step init finish) (nest + 1)
      (Value.obj (fs.map RecordField.member)).bytes rest a := by
  rw [Value.bytes_obj, List.map_map]
  refine Reads.positioned (Reads.bind_nil (reads_skipBlanks fun _ h => by cases h; rfl) ?_)
  refine Reads.nested (k := fun a => Pure.pure a) 123
    (Reads.closing (Reads.get_bind fun c hsize => ?_) reads_closeObject) (Reads.pure a)
  have hcount : fs.length ≤ (commaJoin (fs.map (Value.memberBytes ∘ RecordField.member))).length := by
    have h := length_le_commaJoin (fs.map (Value.memberBytes ∘ RecordField.member))
      (by simp only [List.mem_map]; rintro _ ⟨f, -, rfl⟩; exact memberBytes_ne_nil _)
    rwa [List.length_map] at h
  simp only [List.length_append] at hsize
  refine Reads.bind_nil_right (reads_recordMembers_first hread hnodup init
    (show fs.length < c.input.size + 1 by omega)) ?_
  rw [finishWith, hfinish]
  exact Reads.pure a

end Text

/-! ## Pieces read from a value -/

namespace TreeReader

variable {kind : TreeKind}

theorem run_bind (x : TreeReader α) (f : α → TreeReader β) (v : Value) :
    (x >>= f).run kind v = (x.run kind v >>= fun a => (f a).run kind v) := rfl

@[simp] theorem run_pure (a : α) (v : Value) : (Pure.pure a : TreeReader α).run kind v = .ok a :=
  rfl

@[simp] theorem run_current (v : Value) : current.run kind v = .ok v := rfl

theorem run_bind_ok {x : TreeReader α} {f : α → TreeReader β} {v : Value} {a : α}
    (h : x.run kind v = .ok a) : (x >>= f).run kind v = (f a).run kind v := by
  rw [run_bind, h]
  rfl

/-- A reading followed by a pure step, as in `return f (← x)`. -/
theorem run_bind_pure {x : TreeReader α} {v : Value} {a : α} (g : α → β)
    (h : x.run kind v = .ok a) : (x >>= fun y => Pure.pure (g y)).run kind v = .ok (g a) := by
  rw [run_bind, h]
  rfl

@[simp] theorem run_focus (w : Value) (r : TreeReader α) (v : Value) :
    (focus w r).run kind v = r.run kind w := rfl

theorem run_treeString (s : String) : treeString.run kind (.str s) = .ok s := rfl

/-- A string turned into a domain value by a conversion that accepts it. -/
theorem run_convert {f : String → Except String α} {s : String} {a : α} (h : f s = .ok a) :
    (ShapeReader.convert f : TreeReader α).run kind (.str s) = .ok a := by
  have hs : (ShapeReader.string : TreeReader String).run kind (.str s) = .ok s := run_treeString s
  rw [ShapeReader.convert, run_bind_ok hs, h]
  rfl

theorem run_treeDate (d : Date) : treeDate.run kind (.str d.toString) = .ok d := by
  rw [treeDate, run_bind_ok (run_current _)]
  dsimp only
  rw [Date.readWire_toString]
  rfl

/-- An unsigned word within its bound. -/
theorem run_treeWord (name : String) {bound m : Nat} (h : m ≤ bound) :
    (treeWord name bound).run kind (.num (.nat m)) = .ok m := by
  show (if m ≤ bound then Pure.pure m else TreeReader.refuse _ : TreeReader Nat).run kind _ = .ok m
  rw [if_pos h]
  rfl

/-- Items each read back by `r`, whatever value is being read around them. -/
theorem run_mapM_focus {r : TreeReader α} {enc : α → Value} {xs : List α}
    (h : ∀ x ∈ xs, r.run kind (enc x) = .ok x) (v : Value) :
    ((xs.map enc).mapM fun w => focus w r).run kind v = .ok xs := by
  induction xs with
  | nil => rfl
  | cons x xs ih =>
    rw [List.map_cons, List.mapM_cons, run_bind, run_focus, h x List.mem_cons_self]
    show (((xs.map enc).mapM fun w => focus w r) >>= fun ys => Pure.pure (x :: ys)).run kind v = _
    rw [run_bind, ih fun y hy => h y (List.mem_cons_of_mem _ hy)]
    rfl

/-- A list whose items are each read back by `r`. -/
theorem run_treeList {r : TreeReader α} {enc : α → Value} {xs : List α}
    (h : ∀ x ∈ xs, r.run kind (enc x) = .ok x) :
    (treeList r).run kind (.arr (xs.map enc)) = .ok xs :=
  run_mapM_focus h _

/-- The members of a record are read field by field into the draft. -/
theorem run_treeMembers {shape : RecordShape} {step : Nat → σ → TreeReader σ}
    {fs : List (RecordField shape σ)}
    (hstep : ∀ f ∈ fs, ∀ s, (step f.index s).run kind f.value = .ok (f.update s))
    (hnodup : (fs.map RecordField.index).Nodup) {seen : List Nat}
    (hfresh : ∀ f ∈ fs, f.index ∉ seen) (s : σ) (v : Value) :
    (treeMembers shape step (fs.map RecordField.member) seen s).run kind v =
      .ok (RecordField.applyAll fs s) := by
  induction fs generalizing seen s with
  | nil => rfl
  | cons f fs ih =>
    rw [List.map_cons, List.nodup_cons] at hnodup
    have hfresh' : ∀ g ∈ fs, g.index ∉ f.index :: seen := fun g hg hmem => by
      rcases List.mem_cons.mp hmem with heq | hseen
      · exact hnodup.1 (heq ▸ List.mem_map_of_mem hg)
      · exact hfresh g (List.mem_cons_of_mem _ hg) hseen
    rw [List.map_cons, RecordField.member, treeMembers, f.index_eq]
    dsimp only
    rw [if_neg (hfresh f List.mem_cons_self), run_bind, run_focus,
      hstep f List.mem_cons_self s]
    exact ih (fun g hg => hstep g (List.mem_cons_of_mem _ hg)) hnodup.2 hfresh' (f.update s)

/-- A record written as an object of distinct fields, each read by its step, gives what
`finish` makes of the draft. -/
theorem run_treeRecord {shape : RecordShape} {step : Nat → σ → TreeReader σ} {init : σ}
    {finish : σ → Except ShapeFault α} {fs : List (RecordField shape σ)} {a : α}
    (hstep : ∀ f ∈ fs, ∀ s, (step f.index s).run kind f.value = .ok (f.update s))
    (hnodup : (fs.map RecordField.index).Nodup)
    (hfinish : finish (RecordField.applyAll fs init) = .ok a) :
    (treeRecord shape step init finish).run kind (.obj (fs.map RecordField.member)) = .ok a := by
  have hmembers : (treeMembers shape step (fs.map RecordField.member) [] init).run kind
      (.obj (fs.map RecordField.member)) = .ok (RecordField.applyAll fs init) :=
    run_treeMembers hstep hnodup (fun _ _ => List.not_mem_nil) init _
  rw [treeRecord, run_bind, run_current]
  show (treeMembers shape step (fs.map RecordField.member) [] init >>= treeFinish finish).run
    kind _ = _
  rw [run_bind, hmembers]
  show (treeFinish finish (RecordField.applyAll fs init)).run kind _ = _
  rw [treeFinish, hfinish]
  rfl

end TreeReader

end Json

end CampusBooking
