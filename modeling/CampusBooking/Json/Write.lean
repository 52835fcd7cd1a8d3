import CampusBooking.Json.Value
import CampusBooking.Json.Double
import CampusBooking.Text.Digits

/-!
# Writing JSON text

The compact text of a value: no blanks, members in the order the value holds them.  A
string escapes the quote, the backslash and the controls below U+0020 (the five with a
short escape use it, the rest `\u00XX` in lowercase hex); every other character is
written as it is.  Integers are written in decimal, doubles by their shortest text, and a
double that is not finite as `null`.
-/

namespace CampusBooking
namespace Json

/-- The text that stands for one character inside a string. -/
def escapeChar (c : Char) : List Char :=
  if c = '"' then ['\\', '"']
  else if c = '\\' then ['\\', '\\']
  else if c = '\n' then ['\\', 'n']
  else if c = '\r' then ['\\', 'r']
  else if c = '\t' then ['\\', 't']
  else if c.toNat = 8 then ['\\', 'b']
  else if c.toNat = 12 then ['\\', 'f']
  else if c.toNat < 32 then ['\\', 'u'] ++ Text.hexDigits 4 c.toNat
  else [c]

/-- A string as JSON text, quoted and escaped. -/
def quote (s : String) : String :=
  String.ofList ('"' :: s.toList.flatMap escapeChar ++ ['"'])

/-- A number as JSON text. -/
def Number.text : Number → String
  | .nat n => Text.decimal n
  | .neg i => Text.signedDecimal i
  | .float b =>
    let f := Float.ofBits b
    if f.isNaN || f.isInf then "null" else Double.text b

namespace Value

mutual
/-- The compact JSON text of a value. -/
def text : Value → String
  | .null => "null"
  | .bool true => "true"
  | .bool false => "false"
  | .num n => n.text
  | .str s => quote s
  | .arr items => "[" ++ itemsText items ++ "]"
  | .obj members => "\x7b" ++ membersText members ++ "\x7d"

/-- Items separated by commas. -/
def itemsText : List Value → String
  | [] => ""
  | [v] => text v
  | v :: vs => text v ++ "," ++ itemsText vs

/-- Members separated by commas. -/
def membersText : List (String × Value) → String
  | [] => ""
  | [(k, v)] => quote k ++ ":" ++ text v
  | (k, v) :: ms => quote k ++ ":" ++ text v ++ "," ++ membersText ms
end

end Value

example : Value.text (.obj [("a", .arr [.nat 1, .str "x\n\u0001"]), ("b", .null)]) =
    "\x7b\"a\":[1,\"x\\n\\u0001\"],\"b\":null\x7d" := by decide +kernel

end Json
end CampusBooking
