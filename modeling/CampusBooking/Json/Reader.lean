import CampusBooking.Json.Value
import CampusBooking.Json.Fault

/-!
# Reading JSON text

A `Reader` walks the UTF-8 bytes of a JSON text.  It keeps its place after a failure, so
that a caller can say where the reader stood when it gave up: a syntax fault names the
place of the offending byte (`failHere`) or of the byte after it (`failAhead`), and a shape
fault raised by a caller is given the place where the enclosing value was abandoned
(`positioned`).

This module holds the grammar: blanks, literals, numbers (`readNumber`, kind by kind as in
`Number`), strings with their escapes (`readString`), whole values (`readValue`), values read
only to be skipped (`skipValue`), and the steps between the items of arrays and objects.
Arrays and objects may nest at most 127 deep in `readValue`.  Every loop is bounded by the
number of bytes in the text.
-/

namespace CampusBooking
namespace Json

/-- Where a reader stands in a text. -/
structure Cursor where
  input : ByteArray
  pos : Nat
  /-- How many more arrays and objects may open inside each other, plus one. -/
  depth : Nat

/-- A reader of JSON text that keeps its place after a failure. -/
abbrev Reader := ExceptT ReadFault (StateM Cursor)

/-- The line and column of byte `i` of a text. -/
def positionOf (input : ByteArray) (i : Nat) : Position :=
  let step := fun (acc : Nat × Nat × Nat) (b : UInt8) =>
    let (line, start, j) := acc
    if b = 10 then (line + 1, j + 1, j + 1) else (line, start, j + 1)
  let (line, start, _) := (input.extract 0 i).toList.foldl step (1, 0, 0)
  ⟨line, i - start⟩

/-- What a number reads as, by the kind its text gives it. -/
inductive ReadNumber where
  | unsigned (n : Nat)
  | signed (i : Int)
  | float (f : Float)

/-- The JSON number of a read number. -/
def ReadNumber.toNumber : ReadNumber → Number
  | .unsigned n => .nat n
  | .signed i => .neg i
  | .float f => .float f.toBits

/-- How a read number is named when it is not what was expected. -/
def ReadNumber.found : ReadNumber → Found
  | .unsigned n => .unsigned n
  | .signed i => .signed i
  | .float f => .float f.toBits

namespace Reader

/-- The byte under the reader. -/
def peek : Reader (Option UInt8) := do
  let c ← get
  pure c.input[c.pos]?

/-- The byte under the reader, or zero at the end. -/
def peekOrZero : Reader UInt8 := do
  pure ((← peek).getD 0)

/-- Moves one byte on. -/
def advance : Reader Unit := modify fun c => { c with pos := c.pos + 1 }

/-- The byte under the reader, moving past it. -/
def next : Reader (Option UInt8) := do
  let b ← peek
  if b.isSome then advance
  pure b

/-- The place of the reader. -/
def here : Reader Position := do
  let c ← get
  pure (positionOf c.input c.pos)

/-- Fails with a syntax fault at the place of the reader. -/
def failHere (f : SyntaxFault) : Reader α := do
  throw (.grammar f (← here))

/-- Fails with a syntax fault at the place after the byte under the reader. -/
def failAhead (f : SyntaxFault) : Reader α := do
  let c ← get
  throw (.grammar f (positionOf c.input (min (c.pos + 1) c.input.size)))

/-- Fails with a shape fault; its place is given by the enclosing `positioned`. -/
def refuse (f : ShapeFault) : Reader α := throw (.shape f none)

/-- Gives a shape fault raised inside the place where the reader stands when it arrives. -/
def positioned (r : Reader α) : Reader α :=
  tryCatch r fun e =>
    match e with
    | .shape f none => do throw (.shape f (some (← here)))
    | e => throw e

/-- Runs `body`, then `close` whatever the body's outcome; the body's fault wins. -/
def closing (body : Reader α) (close : Reader Unit) : Reader α := do
  let r ← tryCatch (Except.ok <$> body) fun e => pure (Except.error e)
  let c ← tryCatch (Except.ok <$> close) fun e => pure (Except.error e)
  match r, c with
  | .ok v, .ok () => pure v
  | .error e, _ => throw e
  | .ok _, .error e => throw e

/-- Whether a byte is a JSON blank: space, line feed, tab or carriage return. -/
def isBlankByte (b : UInt8) : Bool := b = 32 || b = 10 || b = 9 || b = 13

/-- Whether a byte is an ASCII digit. -/
def isDigitByte (b : UInt8) : Bool := 48 ≤ b && b ≤ 57

/-- The value of an ASCII digit byte. -/
def digitOf (b : UInt8) : Nat := b.toNat - 48

/-- The first index from `i` on that is not a blank byte. -/
def blankEnd (input : ByteArray) (i : Nat) : Nat → Nat
  | 0 => i
  | fuel + 1 =>
    match input[i]? with
    | some b => if isBlankByte b then blankEnd input (i + 1) fuel else i
    | none => i

/-- Skips blanks and shows the byte after them. -/
def skipBlanks : Reader (Option UInt8) := do
  let c ← get
  let i := blankEnd c.input c.pos (c.input.size - c.pos)
  set { c with pos := i }
  pure c.input[i]?

/-- Reads the rest of a literal (`ull`, `rue`, `alse`). -/
def expectWord : List UInt8 → Reader Unit
  | [] => pure ()
  | e :: es => do
    match ← next with
    | none => failHere .eofWhileParsingValue
    | some b => if b = e then expectWord es else failHere .expectedSomeIdent

/-- The rest of `null`. -/
def restOfNull : List UInt8 := [117, 108, 108]

/-- The rest of `true`. -/
def restOfTrue : List UInt8 := [114, 117, 101]

/-- The rest of `false`. -/
def restOfFalse : List UInt8 := [97, 108, 115, 101]

/-! ## Numbers -/

/-- The largest unsigned 64-bit value. -/
def u64Max : Nat := Nat.pow 2 64 - 1

/-- Whether `a * 10 + d` exceeds `limit`. -/
def overflows (a d limit : Nat) : Bool :=
  a ≥ limit / 10 && (a > limit / 10 || d > limit % 10)

/-- The double of the parts, or an out-of-range fault. -/
def doubleOf (positive : Bool) (significand : Nat) (exponent : Int) : Reader Float :=
  match Double.fromParts positive significand exponent with
  | some f => pure f
  | none => failHere .numberOutOfRange

/-- Skips digits. -/
def skipDigits : Nat → Reader Unit
  | 0 => pure ()
  | fuel + 1 => do
    if isDigitByte (← peekOrZero) then
      advance
      skipDigits fuel
    else pure ()

/-- Clamps an exponent to 32 signed bits. -/
def clampExponent (e : Int) : Int := max (-Int.pow 2 31) (min (Int.pow 2 31 - 1) e)

/-- Reads the digits of an exponent after its first digit. -/
def exponentDigits (positive zeroSignificand positiveExp : Bool) (exp : Nat) :
    Nat → Reader (Option Nat)
  | 0 => pure (some exp)
  | fuel + 1 => do
    let b ← peekOrZero
    if isDigitByte b then
      advance
      let d := digitOf b
      if overflows exp d (Nat.pow 2 31 - 1) then
        if !zeroSignificand && positiveExp then failHere .numberOutOfRange
        else
          skipDigits fuel
          pure none
      else exponentDigits positive zeroSignificand positiveExp (exp * 10 + d) fuel
    else pure (some exp)

/-- Reads an exponent (the `e` is under the reader) and makes the double. -/
def readExponent (positive : Bool) (significand : Nat) (start : Int) : Reader Float := do
  advance
  let positiveExp ← do
    match ← peekOrZero with
    | 43 => advance; pure true
    | 45 => advance; pure false
    | _ => pure true
  match ← next with
  | none => failHere .eofWhileParsingValue
  | some b =>
    if !isDigitByte b then failHere .invalidNumber
    else
      let fuel := (← get).input.size
      match ← exponentDigits positive (significand = 0) positiveExp (digitOf b) fuel with
      | none => pure (if positive then 0.0 else -0.0)
      | some exp =>
        let e := if positiveExp then clampExponent (start + exp) else clampExponent (start - exp)
        doubleOf positive significand e

/-- Reads digits after a decimal point. -/
def fractionDigits (positive : Bool) (before : Int) (significand : Nat) (after : Nat) :
    Nat → Reader Float
  | 0 => doubleOf positive significand (before - after)
  | fuel + 1 => do
    let b ← peekOrZero
    if isDigitByte b then
      let d := digitOf b
      if overflows significand d u64Max then
        skipDigits fuel
        match ← peekOrZero with
        | 101 | 69 => readExponent positive significand (before - after)
        | _ => doubleOf positive significand (before - after)
      else
        advance
        fractionDigits positive before (significand * 10 + d) (after + 1) fuel
    else if after = 0 then
      match ← peek with
      | some _ => failAhead .invalidNumber
      | none => failAhead .eofWhileParsingValue
    else
      match b with
      | 101 | 69 => readExponent positive significand (before - after)
      | _ => doubleOf positive significand (before - after)

/-- Reads a fraction (the `.` is under the reader). -/
def readFraction (positive : Bool) (significand : Nat) (before : Int) : Reader Float := do
  advance
  fractionDigits positive before significand 0 (← get).input.size

/-- What follows the integer digits: a fraction, an exponent, or the end of the number. -/
def afterInteger (positive : Bool) (significand : Nat) : Reader ReadNumber := do
  match ← peekOrZero with
  | 46 => return .float (← readFraction positive significand 0)
  | 101 | 69 => return .float (← readExponent positive significand 0)
  | _ =>
    if positive then return .unsigned significand
    else if significand = 0 then return .float (-0.0)
    else if significand ≤ Nat.pow 2 63 then return .signed (-(significand : Int))
    else return .float (-(Double.ofNat significand))

/-- Digits beyond the 64-bit range: each one raises the decimal exponent. -/
def longDigits (positive : Bool) (significand : Nat) (exponent : Nat) : Nat → Reader Float
  | 0 => doubleOf positive significand exponent
  | fuel + 1 => do
    match ← peekOrZero with
    | 46 => readFraction positive significand exponent
    | 101 | 69 => readExponent positive significand exponent
    | b =>
      if isDigitByte b then
        advance
        longDigits positive significand (exponent + 1) fuel
      else doubleOf positive significand exponent

/-- Reads the digits of an integer after its first digit. -/
def integerDigits (positive : Bool) (significand : Nat) : Nat → Reader ReadNumber
  | 0 => afterInteger positive significand
  | fuel + 1 => do
    let b ← peekOrZero
    if isDigitByte b then
      let d := digitOf b
      if overflows significand d u64Max then
        return .float (← longDigits positive significand 0 fuel)
      else
        advance
        integerDigits positive (significand * 10 + d) fuel
    else afterInteger positive significand

/-- Reads a number whose sign (if any) has been read. -/
def readNumber (positive : Bool) : Reader ReadNumber := do
  match ← next with
  | none => failHere .eofWhileParsingValue
  | some 48 =>
    if isDigitByte (← peekOrZero) then failAhead .invalidNumber
    else afterInteger positive 0
  | some b =>
    if isDigitByte b then integerDigits positive (digitOf b) (← get).input.size
    else failHere .invalidNumber

/-! ## Strings -/

/-- The UTF-8 bytes of a code point. -/
def utf8Of (n : Nat) : ByteArray := (String.singleton (Char.ofNat n)).toUTF8

/-- Reads four hexadecimal digits of a `\u` escape. -/
def hexEscape : Reader Nat := do
  let c ← get
  if c.pos + 4 > c.input.size then
    set { c with pos := c.input.size }
    failHere .eofWhileParsingString
  else
    set { c with pos := c.pos + 4 }
    let digits := (c.input.extract c.pos (c.pos + 4)).toList.map fun b => Char.ofNat b.toNat
    match Text.hexValueList? digits 0 with
    | some v => pure v
    | none => failHere .invalidEscape

/-- Reads the rest of a `\u` escape, pairing surrogates. -/
def unicodeEscape : Reader ByteArray := do
  let n ← hexEscape
  if 0xDC00 ≤ n ∧ n ≤ 0xDFFF then failHere .loneLeadingSurrogateInHexEscape
  else if n < 0xD800 ∨ n > 0xDBFF then pure (utf8Of n)
  else
    match ← peek with
    | none => failHere .eofWhileParsingString
    | some 92 =>
      advance
      match ← peek with
      | none => failHere .eofWhileParsingString
      | some 117 =>
        advance
        let n2 ← hexEscape
        if n2 < 0xDC00 ∨ n2 > 0xDFFF then failHere .loneLeadingSurrogateInHexEscape
        else pure (utf8Of (((n - 0xD800) * 1024 + (n2 - 0xDC00)) + 0x10000))
      | some _ =>
        advance
        failHere .unexpectedEndOfHexEscape
    | some _ =>
      advance
      failHere .unexpectedEndOfHexEscape

/-- Reads an escape after its backslash. -/
def escape : Reader ByteArray := do
  match ← next with
  | none => failHere .eofWhileParsingString
  | some 34 => pure (ByteArray.mk #[34])
  | some 92 => pure (ByteArray.mk #[92])
  | some 47 => pure (ByteArray.mk #[47])
  | some 98 => pure (ByteArray.mk #[8])
  | some 102 => pure (ByteArray.mk #[12])
  | some 110 => pure (ByteArray.mk #[10])
  | some 114 => pure (ByteArray.mk #[13])
  | some 116 => pure (ByteArray.mk #[9])
  | some 117 => unicodeEscape
  | some _ => failHere .invalidEscape

/-- Reads string bytes up to the closing quote. -/
def stringBytes (acc : ByteArray) : Nat → Reader ByteArray
  | 0 => failHere .eofWhileParsingString
  | fuel + 1 => do
    match ← peek with
    | none => failHere .eofWhileParsingString
    | some 34 => advance; pure acc
    | some 92 =>
      advance
      let bytes ← escape
      stringBytes (acc ++ bytes) fuel
    | some b =>
      advance
      if b < 32 then failHere .controlCharacterWhileParsingString
      else stringBytes (acc.push b) fuel

/-- Reads a string whose opening quote has been read. -/
def readString : Reader String := do
  let bytes ← stringBytes ByteArray.empty ((← get).input.size + 1)
  match String.fromUTF8? bytes with
  | some s => pure s
  | none => failHere .invalidUnicodeCodePoint

/-- Skips an escape after its backslash, checking only its form. -/
def skipEscape : Reader Unit := do
  match ← next with
  | none => failHere .eofWhileParsingString
  | some b =>
    if b = 34 || b = 92 || b = 47 || b = 98 || b = 102 || b = 110 || b = 114 || b = 116 then
      pure ()
    else if b = 117 then discard hexEscape
    else failHere .invalidEscape

/-- Skips a string whose opening quote has been read. -/
def skipString : Nat → Reader Unit
  | 0 => failHere .eofWhileParsingString
  | fuel + 1 => do
    match ← peek with
    | none => failHere .eofWhileParsingString
    | some 34 => advance
    | some 92 => advance; skipEscape; skipString fuel
    | some b =>
      if b < 32 then failHere .controlCharacterWhileParsingString
      else advance; skipString fuel

/-! ## Between items of arrays and objects -/

/-- Steps to the next item of an array: `true` when an item follows, `false` at `]`. -/
def nextItem (first : Bool) : Reader Bool := do
  let p ← do
    match ← skipBlanks with
    | some 93 => pure none
    | some 44 =>
      if first then pure (some (some 44))
      else
        advance
        pure (some (← skipBlanks))
    | some b =>
      if first then pure (some (some b)) else failAhead .expectedListCommaOrEnd
    | none => failAhead .eofWhileParsingList
  match p with
  | none => pure false
  | some (some 93) => failAhead .trailingComma
  | some (some _) => pure true
  | some none => failAhead .eofWhileParsingValue

/-- Steps to the next member of an object and reads its key: `none` at `}`. -/
def nextKey (first : Bool) : Reader (Option String) := do
  let p ← do
    match ← skipBlanks with
    | some 125 => pure none
    | some 44 =>
      if first then pure (some (some 44))
      else
        advance
        pure (some (← skipBlanks))
    | some b =>
      if first then pure (some (some b)) else failAhead .expectedObjectCommaOrEnd
    | none => failAhead .eofWhileParsingObject
  match p with
  | none => pure none
  | some (some 34) => advance; return some (← readString)
  | some (some 125) => failAhead .trailingComma
  | some (some _) => failAhead .keyMustBeAString
  | some none => failAhead .eofWhileParsingValue

/-- Reads the colon between a key and its value. -/
def colon : Reader Unit := do
  match ← skipBlanks with
  | some 58 => advance
  | some _ => failAhead .expectedColon
  | none => failAhead .eofWhileParsingObject

/-- Closes an array: `]`, or the fault of what stands there instead. -/
def closeArray : Reader Unit := do
  match ← skipBlanks with
  | some 93 => advance
  | some 44 =>
    advance
    match ← skipBlanks with
    | some 93 => failAhead .trailingComma
    | _ => failAhead .trailingCharacters
  | some _ => failAhead .trailingCharacters
  | none => failAhead .eofWhileParsingList

/-- Closes an object: `}`, or the fault of what stands there instead. -/
def closeObject : Reader Unit := do
  match ← skipBlanks with
  | some 125 => advance
  | some 44 => failAhead .trailingComma
  | some _ => failAhead .trailingCharacters
  | none => failAhead .eofWhileParsingObject

/-- Opens a nested array or object, failing past the nesting limit. -/
def enter : Reader Unit := do
  let c ← get
  if c.depth ≤ 1 then failAhead .recursionLimitExceeded
  else set { c with depth := c.depth - 1, pos := c.pos + 1 }

/-- Leaves a nested array or object. -/
def leave : Reader Unit := modify fun c => { c with depth := c.depth + 1 }

/-- Checks that only blanks follow the value. -/
def finish : Reader Unit := do
  match ← skipBlanks with
  | some _ => failAhead .trailingCharacters
  | none => pure ()

/-! ## Whole values -/

mutual
/-- Reads a value of any kind. -/
def readValue : Nat → Reader Value
  | 0 => failHere .recursionLimitExceeded
  | fuel + 1 => do
    match ← skipBlanks with
    | none => failAhead .eofWhileParsingValue
    | some 110 => advance; expectWord restOfNull; pure .null
    | some 116 => advance; expectWord restOfTrue; pure (.bool true)
    | some 102 => advance; expectWord restOfFalse; pure (.bool false)
    | some 45 => advance; return .num (← readNumber false).toNumber
    | some 34 => advance; return .str (← readString)
    | some 91 =>
      enter
      let items ← closing (readItems true [] fuel) closeArray
      leave
      pure (.arr items)
    | some 123 =>
      enter
      let members ← closing (readMembers true [] fuel) closeObject
      leave
      pure (.obj members)
    | some b =>
      if isDigitByte b then return .num (← readNumber true).toNumber
      else failAhead .expectedSomeValue

/-- Reads the items of an array up to its `]`. -/
def readItems (first : Bool) (acc : List Value) : Nat → Reader (List Value)
  | 0 => failHere .recursionLimitExceeded
  | fuel + 1 => do
    if ← nextItem first then
      let v ← readValue fuel
      readItems false (acc ++ [v]) fuel
    else pure acc

/-- Reads the members of an object up to its `}`. -/
def readMembers (first : Bool) (acc : List (String × Value)) :
    Nat → Reader (List (String × Value))
  | 0 => failHere .recursionLimitExceeded
  | fuel + 1 => do
    match ← nextKey first with
    | none => pure acc
    | some k =>
      colon
      let v ← readValue fuel
      readMembers false (acc ++ [(k, v)]) fuel
end

/-- Enough steps for any value of the text: every step reads at least one byte. -/
def budget : Reader Nat := do
  pure (2 * (← get).input.size + 4)

/-- Reads one value of any kind. -/
def value : Reader Value := do
  readValue (← budget)

/-- Skips an array or object that has been opened, with a stack of the open ones. -/
def skipNested (stack : List UInt8) (frame : UInt8) (acceptComma : Bool) :
    Nat → Reader Unit
  | 0 => failHere .eofWhileParsingValue
  | fuel + 1 => do
    -- close finished frames, or step past a comma to the next item
    match ← skipBlanks with
    | some 44 =>
      if acceptComma then
        advance
        skipItem stack frame fuel
      else skipItem stack frame fuel
    | some 93 =>
      if frame = 91 then
        advance
        match stack with
        | [] => pure ()
        | f :: rest => skipNested rest f true fuel
      else if acceptComma then failAhead .expectedObjectCommaOrEnd
      else skipItem stack frame fuel
    | some 125 =>
      if frame = 123 then
        advance
        match stack with
        | [] => pure ()
        | f :: rest => skipNested rest f true fuel
      else if acceptComma then failAhead .expectedListCommaOrEnd
      else skipItem stack frame fuel
    | some _ =>
      if acceptComma then
        failAhead (if frame = 91 then .expectedListCommaOrEnd else .expectedObjectCommaOrEnd)
      else skipItem stack frame fuel
    | none => failAhead (if frame = 91 then .eofWhileParsingList else .eofWhileParsingObject)
where
  /-- Skips one item of the open frame (for an object: key, colon and value). -/
  skipItem (stack : List UInt8) (frame : UInt8) : Nat → Reader Unit
    | 0 => failHere .eofWhileParsingValue
    | fuel + 1 => do
      if frame = 123 then
        match ← skipBlanks with
        | some 34 => advance; skipString (← get).input.size
        | some _ => failAhead .keyMustBeAString
        | none => failAhead .eofWhileParsingObject
        match ← skipBlanks with
        | some 58 => advance
        | some _ => failAhead .expectedColon
        | none => failAhead .eofWhileParsingObject
      match ← skipBlanks with
      | none => failAhead .eofWhileParsingValue
      | some 110 => advance; expectWord restOfNull; skipNested stack frame true fuel
      | some 116 => advance; expectWord restOfTrue; skipNested stack frame true fuel
      | some 102 => advance; expectWord restOfFalse; skipNested stack frame true fuel
      | some 45 => advance; skipInteger; skipNested stack frame true fuel
      | some 34 => advance; skipString (← get).input.size; skipNested stack frame true fuel
      | some 91 => advance; skipNested (frame :: stack) 91 false fuel
      | some 123 => advance; skipNested (frame :: stack) 123 false fuel
      | some b =>
        if isDigitByte b then
          skipInteger
          skipNested stack frame true fuel
        else failAhead .expectedSomeValue
  /-- Skips a number, checking only its form. -/
  skipInteger : Reader Unit := do
    match ← next with
    | some 48 =>
      if isDigitByte (← peekOrZero) then failAhead .invalidNumber
    | some b =>
      if isDigitByte b then skipDigits (← get).input.size
      else failHere .invalidNumber
    | none => failHere .invalidNumber
    match ← peekOrZero with
    | 46 =>
      advance
      if !isDigitByte (← peekOrZero) then failAhead .invalidNumber
      skipDigits (← get).input.size
      match ← peekOrZero with
      | 101 | 69 => skipExponent
      | _ => pure ()
    | 101 | 69 => skipExponent
    | _ => pure ()
  /-- Skips an exponent, checking only its form. -/
  skipExponent : Reader Unit := do
    advance
    match ← peekOrZero with
    | 43 | 45 => advance
    | _ => pure ()
    match ← next with
    | some b => if isDigitByte b then skipDigits (← get).input.size else failHere .invalidNumber
    | none => failHere .invalidNumber

/-- Skips one value, checking its syntax but not the meaning of its strings and numbers. -/
def skipValue : Reader Unit := do
  let fuel ← budget
  match ← skipBlanks with
  | none => failAhead .eofWhileParsingValue
  | some 110 => advance; expectWord restOfNull
  | some 116 => advance; expectWord restOfTrue
  | some 102 => advance; expectWord restOfFalse
  | some 45 => advance; skipNested.skipInteger
  | some 34 => advance; skipString (← get).input.size
  | some 91 => advance; skipNested [] 91 false fuel
  | some 123 => advance; skipNested [] 123 false fuel
  | some b =>
    if isDigitByte b then skipNested.skipInteger else failAhead .expectedSomeValue

/-- Runs a reader on the bytes of a text, from the start, with the nesting limit. -/
def run (r : Reader α) (input : ByteArray) : Except ReadFault α :=
  (StateT.run (ExceptT.run r) ⟨input, 0, 128⟩).1

end Reader

end Json
end CampusBooking
