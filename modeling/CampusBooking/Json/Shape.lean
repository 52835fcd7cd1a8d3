import CampusBooking.Json.Reader
import CampusBooking.Calendar.Reading

/-!
# Reading values of a known shape

A message type is read by asking for the pieces it is made of: a string, a date, an
unsigned word, one of a few names, an optional piece, a list, or a record of named
fields.  `ShapeReader` is that vocabulary; a type's reader is written once against it and
runs on two sources.

* `Reader` reads the pieces straight from JSON text, one after the other.  A piece of the
  wrong kind is refused where it stands, after it has been read; a refusal raised inside a
  record is placed where the record was given up.
* `TreeReader` reads the pieces from a value read before (`Value`); its refusals carry no
  place.  A `buffered` value is the copy of a text taken before its type was known; a
  `document` is a parsed document whose objects are key-ordered maps.

A record's fields are matched by name in any order; unknown fields are skipped; a field
given twice is refused; a missing field is refused unless it may be absent.  A record
may also be written as an array of its fields in declaration order.
-/

namespace CampusBooking
namespace Json

/-- The names an enumeration of plain names accepts, each with the index of its variant,
and the variant that takes every other name, if there is one. -/
structure Variants where
  accepted : List (String × Nat)
  fallback : Option Nat := none

/-- The variant of a name. -/
def Variants.lookup (vs : Variants) (name : String) : Except ShapeFault Nat :=
  match vs.accepted.find? (·.1 == name) with
  | some (_, i) => .ok i
  | none =>
    match vs.fallback with
    | some i => .ok i
    | none => .error (.unknownVariant name (vs.accepted.map (·.1)))

/-- A record's name for messages (`struct SlotRef`) and its fields in declaration order,
each with whether it may be absent. -/
structure RecordShape where
  name : String
  fields : List (String × Bool)

/-- The index of a field name. -/
def RecordShape.indexOf? (r : RecordShape) (k : String) : Option Nat :=
  r.fields.findIdx? (·.1 == k)

/-- The expected length of the array form: `struct SlotRef with 4 elements`. -/
def RecordShape.lengthText (r : RecordShape) : String :=
  let n := r.fields.length
  r.name ++ " with " ++ Text.decimal n ++ (if n = 1 then " element" else " elements")

/-- The vocabulary in which message types are read. -/
class ShapeReader (m : Type → Type) extends Monad m where
  /-- A string. -/
  string : m String
  /-- A date, written as a string and read by the pattern of request messages. -/
  date : m Date
  /-- An unsigned integer of at most `max`; `name` names the word type (`u16`). -/
  word (name : String) (max : Nat) : m Nat
  /-- One of the names of an enumeration, as its variant index. -/
  variant (vs : Variants) : m Nat
  /-- A piece that may be `null`. -/
  optional {α : Type} : m α → m (Option α)
  /-- A list of pieces. -/
  list {α : Type} : m α → m (List α)
  /-- A record: `step i s` reads field `i` into the draft `s`; `finish` makes the value
  from the complete draft or refuses it. -/
  record {σ α : Type} (shape : RecordShape) (step : Nat → σ → m σ) (init : σ)
    (finish : σ → Except ShapeFault α) : m α
  /-- Refuses the piece being read. -/
  refuse {α : Type} : ShapeFault → m α

namespace ShapeReader

/-- A string turned into a domain value; a refusal of the domain is worded by it. -/
def convert [ShapeReader m] {α : Type} (f : String → Except String α) : m α := do
  let s ← string
  match f s with
  | .ok a => pure a
  | .error msg => refuse (.custom msg)

end ShapeReader

/-! ## Reading pieces from text -/

namespace Reader

/-- Refuses the value under the reader as not being `expected`, after reading it. -/
def mismatch (expected : String) : Reader α := do
  let found : Found ← do
    let b ← peekOrZero
    if b = 110 then advance; expectWord restOfNull; pure .null
    else if b = 116 then advance; expectWord restOfTrue; pure (.bool true)
    else if b = 102 then advance; expectWord restOfFalse; pure (.bool false)
    else if b = 45 then advance; pure (← readNumber false).found
    else if isDigitByte b then pure (← readNumber true).found
    else if b = 34 then advance; pure (.str (← readString))
    else if b = 91 then pure .seq
    else if b = 123 then pure .map
    else failAhead .expectedSomeValue
  throw (.shape (.invalidType found expected) (some (← here)))

/-- A string read by `visit`, or a refusal of what stands there instead. -/
def stringWith (expected : String) (visit : String → Reader α) : Reader α := positioned do
  match ← skipBlanks with
  | none => failAhead .eofWhileParsingValue
  | some 34 => advance; visit (← readString)
  | some _ => mismatch expected

/-- A string. -/
def textString : Reader String := stringWith "a string" pure

/-- A date in a string. -/
def textDate : Reader Date := stringWith "a formatted date string" fun s =>
  match Date.readWire s with
  | .ok d => pure d
  | .error f => refuse (.custom f.message)

/-- Checks a number against an unsigned word type. -/
def wordOf (name : String) (max : Nat) : ReadNumber → Reader Nat
  | .unsigned n => if n ≤ max then pure n else refuse (.invalidValue (.unsigned n) name)
  | .signed i => refuse (.invalidValue (.signed i) name)
  | .float f => refuse (.invalidType (.float f.toBits) name)

/-- An unsigned word. -/
def textWord (name : String) (max : Nat) : Reader Nat := positioned do
  match ← skipBlanks with
  | none => failAhead .eofWhileParsingValue
  | some 45 => advance; wordOf name max (← readNumber false)
  | some b => if isDigitByte b then wordOf name max (← readNumber true) else mismatch name

/-- A boolean. -/
def textBool : Reader Bool := positioned do
  match ← skipBlanks with
  | none => failAhead .eofWhileParsingValue
  | some 116 => advance; expectWord restOfTrue; pure true
  | some 102 => advance; expectWord restOfFalse; pure false
  | some _ => mismatch "a boolean"

/-- The name of a variant. -/
def variantName (vs : Variants) : Reader Nat := stringWith "variant identifier" fun s =>
  match vs.lookup s with
  | .ok i => pure i
  | .error f => refuse f

/-- The `null` that a plain variant carries in the object form. -/
def unitValue : Reader Unit := positioned do
  match ← skipBlanks with
  | none => failAhead .eofWhileParsingValue
  | some 110 => advance; expectWord restOfNull
  | some _ => mismatch "unit"

/-- One of the names of an enumeration: a string, or an object of one member whose value
is `null`. -/
def textVariant (vs : Variants) : Reader Nat := do
  match ← skipBlanks with
  | some 123 =>
    enter
    let i ← variantName vs
    colon
    unitValue
    leave
    match ← skipBlanks with
    | some 125 => advance; pure i
    | some _ => failHere .expectedSomeValue
    | none => failHere .eofWhileParsingObject
  | some 34 => variantName vs
  | some _ => failAhead .expectedSomeValue
  | none => failAhead .eofWhileParsingValue

/-- A piece or `null`. -/
def textOptional (r : Reader α) : Reader (Option α) := do
  match ← skipBlanks with
  | some 110 => advance; expectWord restOfNull; pure none
  | _ => some <$> r

/-- The items of an array, each read by `r`. -/
def listItems (r : Reader α) (first : Bool) (acc : List α) : Nat → Reader (List α)
  | 0 => failHere .eofWhileParsingList
  | fuel + 1 => do
    if ← nextItem first then
      let a ← r
      listItems r false (acc ++ [a]) fuel
    else pure acc

/-- An array of pieces. -/
def textList (r : Reader α) : Reader (List α) := positioned do
  match ← skipBlanks with
  | none => failAhead .eofWhileParsingValue
  | some 91 =>
    enter
    let items ← closing (do listItems r true [] ((← get).input.size + 1)) closeArray
    leave
    pure items
  | some _ => mismatch "a sequence"

/-- The members of a record written as an object. -/
def recordMembers (shape : RecordShape) (step : Nat → σ → Reader σ) (first : Bool)
    (seen : List Nat) (s : σ) : Nat → Reader σ
  | 0 => failHere .eofWhileParsingObject
  | fuel + 1 => do
    match ← nextKey first with
    | none => pure s
    | some k =>
      match shape.indexOf? k with
      | some i =>
        if i ∈ seen then refuse (.duplicateField k)
        else
          colon
          let s ← step i s
          recordMembers shape step false (i :: seen) s fuel
      | none =>
        colon
        skipValue
        recordMembers shape step false seen s fuel

/-- The fields of a record written as an array, in declaration order. -/
def recordItems (shape : RecordShape) (step : Nat → σ → Reader σ) (first : Bool) (s : σ) :
    List (String × Bool) → Nat → Reader σ
  | [], _ => pure s
  | (_, optional) :: rest, i => do
    if ← nextItem first then
      let s ← step i s
      recordItems shape step false s rest (i + 1)
    else if optional then recordItems shape step first s rest (i + 1)
    else refuse (.invalidLength i shape.lengthText)

/-- The draft made into a value, or its refusal. -/
def finishWith (finish : σ → Except ShapeFault α) (s : σ) : Reader α :=
  match finish s with
  | .ok a => pure a
  | .error f => refuse f

/-- A record, written as an object or as an array. -/
def textRecord (shape : RecordShape) (step : Nat → σ → Reader σ) (init : σ)
    (finish : σ → Except ShapeFault α) : Reader α := positioned do
  match ← skipBlanks with
  | none => failAhead .eofWhileParsingValue
  | some 91 =>
    enter
    let a ← closing (do finishWith finish (← recordItems shape step true init shape.fields 0))
      closeArray
    leave
    pure a
  | some 123 =>
    enter
    let a ← closing (do
        let fuel := (← get).input.size + 1
        finishWith finish (← recordMembers shape step true [] init fuel))
      closeObject
    leave
    pure a
  | some _ => mismatch shape.name

end Reader

instance : ShapeReader Reader where
  string := Reader.textString
  date := Reader.textDate
  word := Reader.textWord
  variant := Reader.textVariant
  optional := Reader.textOptional
  list := Reader.textList
  record := Reader.textRecord
  refuse := Reader.refuse

/-! ## Reading pieces from a value read before -/

/-- How a value read before came about. -/
inductive TreeKind where
  /-- A copy of text taken before its type was known: objects keep text order and
  duplicates, and an over-long array is counted against the expected number. -/
  | buffered
  /-- A parsed document: objects are key-ordered maps. -/
  | document
  deriving DecidableEq, Repr

/-- A value to read pieces from. -/
structure Tree where
  kind : TreeKind
  value : Value

/-- A reader of pieces from a value read before. -/
abbrev TreeReader := ReaderT Tree (Except ShapeFault)

/-- How a value is named when it is not what was expected. -/
def Value.found : Value → Found
  | .null => .null
  | .bool b => .bool b
  | .num (.nat n) => .unsigned n
  | .num (.neg i) => .signed i
  | .num (.float b) => .float b
  | .str s => .str s
  | .arr _ => .seq
  | .obj _ => .map

namespace TreeReader

/-- The value being read. -/
def current : TreeReader Value := do
  pure (← read).value

/-- Reads a piece from another value of the same kind. -/
def focus (v : Value) (r : TreeReader α) : TreeReader α :=
  withReader (fun t => { t with value := v }) r

/-- Refuses the value being read. -/
def refuse (f : ShapeFault) : TreeReader α := throw f

/-- The value is not `expected`. -/
def mismatch (expected : String) : TreeReader α := do
  refuse (.invalidType (← current).found expected)

def treeString : TreeReader String := do
  match ← current with
  | .str s => pure s
  | _ => mismatch "a string"

def treeDate : TreeReader Date := do
  match ← current with
  | .str s =>
    match Date.readWire s with
    | .ok d => pure d
    | .error f => refuse (.custom f.message)
  | _ => mismatch "a formatted date string"

def treeWord (name : String) (max : Nat) : TreeReader Nat := do
  match ← current with
  | .num (.nat n) => if n ≤ max then pure n else refuse (.invalidValue (.unsigned n) name)
  | .num (.neg i) => refuse (.invalidValue (.signed i) name)
  | _ => mismatch name

def treeVariant (vs : Variants) : TreeReader Nat := do
  match ← current with
  | .str s =>
    match vs.lookup s with
    | .ok i => pure i
    | .error f => refuse f
  | .obj [(k, w)] =>
    match vs.lookup k with
    | .error f => refuse f
    | .ok i =>
      match w with
      | .null => pure i
      | _ => refuse (.invalidType w.found "unit")
  | .obj _ => refuse (.invalidValue .map "map with a single key")
  | _ => mismatch "string or map"

def treeOptional (r : TreeReader α) : TreeReader (Option α) := do
  match ← current with
  | .null => pure none
  | _ => some <$> r

def treeList (r : TreeReader α) : TreeReader (List α) := do
  match ← current with
  | .arr items => items.mapM fun v => focus v r
  | _ => mismatch "a sequence"

/-- The members of a record written as an object. -/
def treeMembers (shape : RecordShape) (step : Nat → σ → TreeReader σ) :
    List (String × Value) → List Nat → σ → TreeReader σ
  | [], _, s => pure s
  | (k, v) :: rest, seen, s =>
    match shape.indexOf? k with
    | some i =>
      if i ∈ seen then refuse (.duplicateField k)
      else do
        let s ← focus v (step i s)
        treeMembers shape step rest (i :: seen) s
    | none => treeMembers shape step rest seen s

/-- The fields of a record written as an array, in declaration order. -/
def treeItems (shape : RecordShape) (step : Nat → σ → TreeReader σ) :
    List Value → List (String × Bool) → Nat → σ → TreeReader σ
  | _, [], _, s => pure s
  | v :: vs, _ :: fields, i, s => do
    let s ← focus v (step i s)
    treeItems shape step vs fields (i + 1) s
  | [], (_, optional) :: fields, i, s =>
    if optional then treeItems shape step [] fields (i + 1) s
    else refuse (.invalidLength i shape.lengthText)

def treeFinish (finish : σ → Except ShapeFault α) (s : σ) : TreeReader α :=
  match finish s with
  | .ok a => pure a
  | .error f => refuse f

def treeRecord (shape : RecordShape) (step : Nat → σ → TreeReader σ) (init : σ)
    (finish : σ → Except ShapeFault α) : TreeReader α := do
  match ← current with
  | .obj members => treeFinish finish (← treeMembers shape step members [] init)
  | .arr items =>
    let a ← treeFinish finish (← treeItems shape step items shape.fields 0 init)
    let n := shape.fields.length
    if items.length > n then
      match (← read).kind with
      | .buffered =>
        refuse (.invalidLength items.length
          (Text.decimal n ++ (if n = 1 then " element in sequence" else " elements in sequence")))
      | .document => refuse (.invalidLength items.length "fewer elements in array")
    else pure a
  | _ => mismatch shape.name

end TreeReader

instance : ShapeReader TreeReader where
  string := TreeReader.treeString
  date := TreeReader.treeDate
  word := TreeReader.treeWord
  variant := TreeReader.treeVariant
  optional := TreeReader.treeOptional
  list := TreeReader.treeList
  record := TreeReader.treeRecord
  refuse := TreeReader.refuse

/-- Reads a piece from a value read before. -/
def TreeReader.run (r : TreeReader α) (kind : TreeKind) (v : Value) : Except ShapeFault α :=
  ReaderT.run r ⟨kind, v⟩

end Json
end CampusBooking
