import CampusBooking.Text.Digits

/-!
# UUIDs

A UUID is a 128-bit number.  It is written as 32 lower-case hexadecimal digits in groups
of 8, 4, 4, 4 and 12 joined by hyphens.  It is read from four forms, with hexadecimal
digits in either case:

* the 32 digits alone;
* the hyphenated form;
* the hyphenated form in braces, `{…}`;
* the hyphenated form after `urn:uuid:` (in any ASCII case).
-/

namespace CampusBooking

/-- A 128-bit universally unique identifier. -/
structure Uuid where
  value : Nat
  value_lt : value < Nat.pow 2 128
  deriving DecidableEq, Repr

namespace Uuid

/-- The 32 hexadecimal digits of a UUID, most significant first. -/
def digits (u : Uuid) : List Char := Text.hexDigits 32 u.value

/-- The hyphenated lower-case form. -/
protected def toString (u : Uuid) : String :=
  let ds := u.digits
  String.ofList (ds.take 8 ++ '-' :: (ds.drop 8).take 4 ++ '-' :: (ds.drop 12).take 4 ++
    '-' :: (ds.drop 16).take 4 ++ '-' :: ds.drop 20)

instance : ToString Uuid := ⟨Uuid.toString⟩

/-- The UUID with the value of 32 hexadecimal digits. -/
def ofDigits? (cs : List Char) : Option Uuid :=
  if cs.length = 32 then
    match Text.hexValueList? cs 0 with
    | some v => if h : v < Nat.pow 2 128 then some ⟨v, h⟩ else none
    | none => none
  else none

/-- Reads the hyphenated form: hyphens at positions 8, 13, 18 and 23 and hexadecimal
digits elsewhere. -/
def ofHyphenated? (cs : List Char) : Option Uuid :=
  if cs.length = 36 ∧ cs[8]? = some '-' ∧ cs[13]? = some '-' ∧ cs[18]? = some '-' ∧
      cs[23]? = some '-' then
    ofDigits? (cs.take 8 ++ (cs.drop 9).take 4 ++ (cs.drop 14).take 4 ++ (cs.drop 19).take 4 ++
      cs.drop 24)
  else none

/-- Reads any of the four accepted forms. -/
def parse? (s : String) : Option Uuid :=
  let cs := s.toList
  if !cs.all (fun c => c.toNat < 128) then none
  else if cs.length = 32 then ofDigits? cs
  else if cs.length = 36 then ofHyphenated? cs
  else if cs.length = 38 ∧ cs.head? = some '{' ∧ cs.getLast? = some '}' then
    ofHyphenated? ((cs.drop 1).take 36)
  else if cs.length = 45 ∧ (cs.take 9).map Char.toLower = "urn:uuid:".toList then
    ofHyphenated? (cs.drop 9)
  else none

/-- The UUID with a given value below 2¹²⁸ (larger values wrap around). -/
def ofNat (n : Nat) : Uuid := ⟨n % Nat.pow 2 128, Nat.mod_lt _ (by decide)⟩

/-- A sequence of ids of version-4 form with `n` in the low bits, different from one another
below `2 ^ 128`: an id source that hands out the same ids in the same order on every run. -/
def serial (n : Nat) : Uuid := ofNat (0x5eed0000000040008000000000000000 + n)

example : (serial 1).toString = "5eed0000-0000-4000-8000-000000000001" := by decide +kernel

example : (parse? "CE612356DB1F45238C8BC35BFF35EBD0").map Uuid.toString =
    some "ce612356-db1f-4523-8c8b-c35bff35ebd0" := by decide +kernel

end Uuid

end CampusBooking
