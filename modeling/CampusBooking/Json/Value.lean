/-!
# JSON values

A JSON value as a reader produces it: numbers keep the kind the text gave them (an
unsigned integer below 2⁶⁴, a negative integer of 64 bits, or a double, kept by its
bits), strings hold their decoded text, and objects keep their members in text order,
duplicates included.  `Value.canonical` turns an object into the form of a key-ordered
map: members sorted by key, the last of equal keys kept.
-/

namespace CampusBooking
namespace Json

/-- A JSON number, of the kind its text gave it. -/
inductive Number where
  /-- An integer from 0 to 2⁶⁴ - 1. -/
  | nat (n : Nat)
  /-- A negative integer of at least -2⁶³. -/
  | neg (n : Int)
  /-- A double, by its IEEE 754 bits. -/
  | float (bits : UInt64)
  deriving DecidableEq, Repr

/-- A JSON value. -/
inductive Value where
  | null
  | bool (b : Bool)
  | num (n : Number)
  | str (s : String)
  | arr (items : List Value)
  | obj (members : List (String × Value))
  deriving Repr, Inhabited

namespace Value

/-- An unsigned integer value. -/
def nat (n : Nat) : Value := .num (.nat n)

/-- Inserts a member into members sorted by key, replacing a member of the same key. -/
def insertMember (k : String) (v : Value) : List (String × Value) → List (String × Value)
  | [] => [(k, v)]
  | (k', v') :: rest =>
    if k = k' then (k, v) :: rest
    else if k < k' then (k, v) :: (k', v') :: rest
    else (k', v') :: insertMember k v rest

mutual
/-- The value with every object turned into a key-ordered map: members sorted by key,
the last of equal keys kept. -/
def canonical : Value → Value
  | .arr items => .arr (canonicalList items)
  | .obj members => .obj (canonicalMembers members [])
  | v => v

/-- `canonical` on every item. -/
def canonicalList : List Value → List Value
  | [] => []
  | v :: vs => canonical v :: canonicalList vs

/-- Inserts members one by one into a key-ordered map. -/
def canonicalMembers : List (String × Value) → List (String × Value) → List (String × Value)
  | [], acc => acc
  | (k, v) :: rest, acc => canonicalMembers rest (insertMember k (canonical v) acc)
end

/-- The value of a member of an object, the first of that key. -/
def field? (v : Value) (k : String) : Option Value :=
  match v with
  | .obj members => (members.find? (·.1 == k)).map (·.2)
  | _ => none

end Value

end Json
end CampusBooking
