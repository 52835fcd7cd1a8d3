import CampusBooking.Calendar.Date
import CampusBooking.Text.Blank
import CampusBooking.Fault

/-!
# Reading dates

Dates are read by a small pattern of items: a year, a literal `-`, a month, a literal
`-` and a day, optionally with *gaps*, places where blank characters may stand.

* A year without a sign has one to four digits; with `+` or `-` it has any number.
* A month and a day have one or two digits.
* Blank characters may stand before every number.
* `Date.readStrict` is the plain `year-month-day` pattern; it is what users type.
* `Date.readWire` also allows blanks before each `-` and at the end; it is how
  dates are read from request messages.

A reading that fails names its cause (`DateFault`); the causes and their wording are
those of the date library the wire format was designed around.
-/

namespace CampusBooking

/-- Why a text is not a date. -/
inductive DateFault where
  /-- A number is out of its range, or the year, month and day name no day. -/
  | outOfRange
  /-- A character stands where a digit or a `-` is needed. -/
  | invalid
  /-- The text ends before the pattern does. -/
  | tooShort
  /-- Characters remain after the pattern. -/
  | tooLong
  deriving DecidableEq, Repr

/-- The wording of a date fault. -/
def DateFault.message : DateFault → String
  | .outOfRange => "input is out of range"
  | .invalid => "input contains invalid characters"
  | .tooShort => "premature end of input"
  | .tooLong => "trailing input"

/-- One item of a date pattern. -/
inductive DateItem where
  | year
  | month
  | day
  | dash
  /-- Blank characters may stand here. -/
  | gap
  deriving DecidableEq, Repr

/-- The year, month and day read so far. -/
structure DateParts where
  year : Option Int := none
  month : Option Nat := none
  day : Option Nat := none

namespace DateReading

/-- The largest value a number of the pattern may reach while it is read. -/
def numberLimit : Nat := Nat.pow 2 63 - 1

/-- Reads between `least` and `most` leading digits; the rest of the text follows the
value.  A value beyond `numberLimit` is out of range. -/
def number (cs : List Char) (least most : Nat) : Except DateFault (Nat × List Char) :=
  if cs.length < least then .error .tooShort
  else
    let ds := (cs.take most).takeWhile Char.isDigit
    if ds.length < least then .error .invalid
    else
      let v := Text.decimalValue ds
      if v > numberLimit then .error .outOfRange
      else .ok (v, cs.drop ds.length)

/-- Reads a year: a signed number of any length, or an unsigned one of at most four
digits. -/
def year (cs : List Char) : Except DateFault (Int × List Char) :=
  match cs with
  | '-' :: rest => do
    let (v, rest) ← number rest 1 rest.length
    pure (-(v : Int), rest)
  | '+' :: rest => do
    let (v, rest) ← number rest 1 rest.length
    pure ((v : Int), rest)
  | _ => do
    let (v, rest) ← number cs 1 4
    pure ((v : Int), rest)

/-- Reads one item into the parts read so far. -/
def item (parts : DateParts) (cs : List Char) :
    DateItem → Except DateFault (DateParts × List Char)
  | .gap => .ok (parts, Text.trimStartList cs)
  | .dash =>
    match cs with
    | [] => .error .tooShort
    | c :: rest => if c = '-' then .ok (parts, rest) else .error .invalid
  | .year => do
    let (y, rest) ← year (Text.trimStartList cs)
    if y < -Int.pow 2 31 ∨ y ≥ Int.pow 2 31 then throw .outOfRange
    pure ({ parts with year := some y }, rest)
  | .month => do
    let (m, rest) ← number (Text.trimStartList cs) 1 2
    if m < 1 ∨ m > 12 then throw .outOfRange
    pure ({ parts with month := some m }, rest)
  | .day => do
    let (d, rest) ← number (Text.trimStartList cs) 1 2
    if d < 1 ∨ d > 31 then throw .outOfRange
    pure ({ parts with day := some d }, rest)

/-- Reads all items of a pattern in order. -/
def items (parts : DateParts) (cs : List Char) :
    List DateItem → Except DateFault (DateParts × List Char)
  | [] => .ok (parts, cs)
  | i :: is => do
    let (parts, rest) ← item parts cs i
    items parts rest is

/-- Reads a text with a pattern: every item, nothing left over, and a real day. -/
def run (pattern : List DateItem) (s : String) : Except DateFault Date := do
  let (parts, rest) ← items {} s.toList pattern
  if !rest.isEmpty then throw .tooLong
  match parts.year, parts.month, parts.day with
  | some y, some m, some d =>
    match Date.ofYmd? y m d with
    | some date => pure date
    | none => throw .outOfRange
  | _, _, _ => throw .tooShort

end DateReading

/-- The pattern `year-month-day`. -/
def DateItem.strict : List DateItem := [.year, .dash, .month, .dash, .day]

/-- The pattern of request messages: gaps before each `-` and at the end. -/
def DateItem.wire : List DateItem := [.year, .gap, .dash, .month, .gap, .dash, .day, .gap]

namespace Date

/-- Reads `year-month-day`, allowing blanks before each number. -/
def readStrict (s : String) : Except DateFault Date := DateReading.run DateItem.strict s

/-- Reads a date of a request message: also allows blanks before each `-` and at the end. -/
def readWire (s : String) : Except DateFault Date := DateReading.run DateItem.wire s

/-- Reads a date typed by a user: the trimmed text in the pattern `year-month-day`. -/
def parse (s : String) : Except Fault Date :=
  match readStrict (Text.trim s) with
  | .ok d => .ok d
  | .error _ => .error (.invalidArgument ("Invalid date '" ++ s ++ "', must look like 2021-01-01"))

end Date

example : (Date.readStrict "2021- 1-1").toOption.map Date.toString = some "2021-01-01" := by
  decide
example : (Date.readStrict "2021 -01-01").toOption = none := by decide
example : (Date.readWire "2021 -01-01 ").toOption.map Date.toString = some "2021-01-01" := by
  decide
example : (match Date.readWire "2021-02-30" with
    | .error e => some e
    | .ok _ => none) = some .outOfRange := by decide

end CampusBooking
