import CampusBooking.Campus
import CampusBooking.Text.Digits

/-!
# User identifiers

A user identifier is a campus code, a role letter (`a` for an administrator, `s` for a
student) and four digits, as in `dvls1234`.  It is written in lower case and read in
any ASCII case, with blanks around it; the four digits bound the number by 9999.
-/

namespace CampusBooking

/-- The role that a user identifier encodes. -/
inductive Role where
  | admin
  | student
  deriving DecidableEq, Repr, Inhabited

namespace Role

/-- The letter of a role in an identifier. -/
def code : Role → Char
  | .admin => 'a'
  | .student => 's'

/-- The name of a role. -/
def name : Role → String
  | .admin => "Admin"
  | .student => "Student"

end Role

/-- A validated user identifier. -/
structure UserId where
  /-- The home campus of the user. -/
  campus : Campus
  role : Role
  /-- The four-digit number. -/
  number : Fin 10000
  deriving DecidableEq, Repr

namespace UserId

/-- Whether the identifier names a student. -/
def isStudent (u : UserId) : Bool := u.role == .student

/-- An identifier from its parts; the number must have at most four digits. -/
def make (campus : Campus) (role : Role) (number : Nat) : Except Fault UserId :=
  if h : number < 10000 then .ok ⟨campus, role, ⟨number, h⟩⟩
  else .error (.invalidArgument
    ("Identifier number " ++ Text.decimal number ++ " has more than four digits"))

/-- The lower-case campus code, the role letter and the number in four digits. -/
protected def toString (u : UserId) : String :=
  Text.lowerAscii u.campus.code ++ String.singleton u.role.code ++ Text.padded 4 u.number.val

instance : ToString UserId := ⟨UserId.toString⟩

/-- The role of a role letter, in either case. -/
def roleOfLetter? (c : Char) : Option Role :=
  if c = 'a' ∨ c = 'A' then some .admin
  else if c = 's' ∨ c = 'S' then some .student
  else none

/-- Reads an identifier: after trimming, eight ASCII characters made of a campus code, a
role letter and four digits. -/
def parse (s : String) : Except Fault UserId :=
  let invalid : Fault := .invalidArgument ("Invalid identifier '" ++ s ++
    "', expected campus, role and four digits (ie. dvls1234)")
  let t := Text.trim s
  let cs := t.toList
  if cs.length ≠ 8 ∨ !Text.isAscii t then .error invalid
  else
    match Campus.parse (String.ofList (cs.take 3)), cs.drop 3 with
    | .ok campus, r :: digits =>
      match roleOfLetter? r with
      | some role =>
        if Text.allDigits digits then make campus role (Text.decimalValue digits)
        else .error invalid
      | none => .error invalid
    | _, _ => .error invalid

example : (parse " KKLA0001 ").toOption.map UserId.toString = some "kkla0001" := by
  decide +kernel

end UserId

end CampusBooking
