/-!
# Decimal and hexadecimal digits

Numbers are written in decimal with no leading zeros (`decimal`), or padded with
zeros on the left to a width (`padded`).  Hexadecimal digits are read in either case
and written in lower case.
-/

namespace CampusBooking
namespace Text

/-- The decimal digits of a natural number, with no leading zeros. -/
def decimal (n : Nat) : String := String.ofList (Nat.toDigits 10 n)

/-- The decimal digits of an integer, with a minus sign when it is negative. -/
def signedDecimal (i : Int) : String :=
  if i < 0 then "-" ++ decimal i.natAbs else decimal i.natAbs

/-- The decimal digits of `n`, padded with zeros on the left to at least `width`. -/
def padded (width n : Nat) : String :=
  let ds := Nat.toDigits 10 n
  String.ofList (List.replicate (width - ds.length) '0' ++ ds)

/-- The value of a decimal digit. -/
def digitValue (c : Char) : Nat := c.toNat - '0'.toNat

/-- The value of a hexadecimal digit, in either case. -/
def hexValue? (c : Char) : Option Nat :=
  if '0' ≤ c ∧ c ≤ '9' then some (c.toNat - '0'.toNat)
  else if 'a' ≤ c ∧ c ≤ 'f' then some (c.toNat - 'a'.toNat + 10)
  else if 'A' ≤ c ∧ c ≤ 'F' then some (c.toNat - 'A'.toNat + 10)
  else none

/-- The lower-case hexadecimal digit of a value below sixteen. -/
def hexDigit (n : Nat) : Char :=
  if n < 10 then Char.ofNat ('0'.toNat + n) else Char.ofNat ('a'.toNat + n - 10)

/-- The value of a list of decimal digits, most significant first. -/
def decimalValue (cs : List Char) : Nat :=
  cs.foldl (fun acc c => acc * 10 + digitValue c) 0

/-- The value of a list of hexadecimal digits, most significant first, if all are
hexadecimal digits. -/
def hexValueList? : List Char → Nat → Option Nat
  | [], acc => some acc
  | c :: cs, acc => (hexValue? c).bind fun d => hexValueList? cs (acc * 16 + d)

/-- The `count` lowest hexadecimal digits of `n`, most significant first. -/
def hexDigits (count n : Nat) : List Char :=
  (List.range count).reverse.map fun i => hexDigit (n / Nat.pow 16 i % 16)

example : padded 4 42 = "0042" := by decide
example : decimal 0 = "0" := by decide

end Text
end CampusBooking
