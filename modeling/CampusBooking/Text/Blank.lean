/-!
# Blank characters, trimming and ASCII case

A character is *blank* when it has the Unicode `White_Space` property: the controls
from tab to carriage return, space, next line, no-break space, ogham space mark, the
spaces from en quad to hair space, the line and paragraph separators, the narrow
no-break space, the medium mathematical space and the ideographic space.  The
zero-width space U+200B is not blank.

`trim` drops blank characters at both ends of a text.  Codes and identifiers are
compared after `lowerAscii`, which lowers `A`–`Z` and leaves every other character,
so `ＤＶＬ` stays as it is.
-/

namespace CampusBooking
namespace Text

/-- The Unicode `White_Space` property. -/
def isBlank (c : Char) : Bool :=
  let n := c.toNat
  (0x09 ≤ n && n ≤ 0x0D) || n == 0x20 || n == 0x85 || n == 0xA0 || n == 0x1680 ||
    (0x2000 ≤ n && n ≤ 0x200A) || n == 0x2028 || n == 0x2029 || n == 0x202F ||
    n == 0x205F || n == 0x3000

/-- The characters of a text with the blank ones at its start removed. -/
def trimStartList (cs : List Char) : List Char := cs.dropWhile isBlank

/-- The characters of a text with blank ones removed at both ends. -/
def trimList (cs : List Char) : List Char :=
  ((cs.dropWhile isBlank).reverse.dropWhile isBlank).reverse

/-- A text without blank characters at either end. -/
def trim (s : String) : String := String.ofList (trimList s.toList)

/-- A text without blank characters at its start. -/
def trimStart (s : String) : String := String.ofList (trimStartList s.toList)

/-- Lowers the letters `A`–`Z` and keeps every other character. -/
def lowerAscii (s : String) : String := s.map Char.toLower

/-- Raises the letters `a`–`z` and keeps every other character. -/
def upperAscii (s : String) : String := s.map Char.toUpper

/-- Whether every character is an ASCII character. -/
def isAscii (s : String) : Bool := s.toList.all fun c => c.toNat < 128

/-- Whether every character is one of the digits `0`–`9`. -/
def allDigits (cs : List Char) : Bool := cs.all Char.isDigit

end Text
end CampusBooking
