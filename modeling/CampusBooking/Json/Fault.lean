import CampusBooking.Json.Double
import CampusBooking.Text.Hidden

/-!
# Why a JSON text is refused

A JSON text is refused either for its *syntax* (`SyntaxFault`, always with the line and
column where the reader stood) or because a well-formed value does not have the expected
*shape* (`ShapeFault`).  A shape fault found while reading text carries the position of
the reader at the moment the enclosing value was given up; one found in an already-read
value carries none.  `ReadFault.message` words both: the cause, then
` at line L column C` when a position is known.  Columns count bytes from zero at the
start of a line.
-/

namespace CampusBooking
namespace Json

/-- A syntax error of JSON text. -/
inductive SyntaxFault where
  | eofWhileParsingList
  | eofWhileParsingObject
  | eofWhileParsingString
  | eofWhileParsingValue
  | expectedColon
  | expectedListCommaOrEnd
  | expectedObjectCommaOrEnd
  | expectedSomeIdent
  | expectedSomeValue
  | invalidEscape
  | invalidNumber
  | numberOutOfRange
  | invalidUnicodeCodePoint
  | controlCharacterWhileParsingString
  | keyMustBeAString
  | loneLeadingSurrogateInHexEscape
  | trailingComma
  | trailingCharacters
  | unexpectedEndOfHexEscape
  | recursionLimitExceeded
  deriving DecidableEq, Repr

/-- The wording of a syntax error. -/
def SyntaxFault.message : SyntaxFault → String
  | .eofWhileParsingList => "EOF while parsing a list"
  | .eofWhileParsingObject => "EOF while parsing an object"
  | .eofWhileParsingString => "EOF while parsing a string"
  | .eofWhileParsingValue => "EOF while parsing a value"
  | .expectedColon => "expected `:`"
  | .expectedListCommaOrEnd => "expected `,` or `]`"
  | .expectedObjectCommaOrEnd => "expected `,` or `\x7d`"
  | .expectedSomeIdent => "expected ident"
  | .expectedSomeValue => "expected value"
  | .invalidEscape => "invalid escape"
  | .invalidNumber => "invalid number"
  | .numberOutOfRange => "number out of range"
  | .invalidUnicodeCodePoint => "invalid unicode code point"
  | .controlCharacterWhileParsingString =>
    "control character (\\u0000-\\u001F) found while parsing a string"
  | .keyMustBeAString => "key must be a string"
  | .loneLeadingSurrogateInHexEscape => "lone leading surrogate in hex escape"
  | .trailingComma => "trailing comma"
  | .trailingCharacters => "trailing characters"
  | .unexpectedEndOfHexEscape => "unexpected end of hex escape"
  | .recursionLimitExceeded => "recursion limit exceeded"

/-- What a reader found where it expected something else. -/
inductive Found where
  | bool (b : Bool)
  | unsigned (n : Nat)
  | signed (i : Int)
  | float (bits : UInt64)
  | str (s : String)
  | null
  | seq
  | map
  deriving DecidableEq, Repr

/-- The quoted rendering of a text: quotes and backslashes escaped, tab, carriage return,
line feed and NUL by letter, other hidden characters as `\u` with the hexadecimal code in
braces. -/
def quoted (s : String) : String :=
  let one (c : Char) : String :=
    if c = '"' then "\\\""
    else if c = '\\' then "\\\\"
    else if c = '\n' then "\\n"
    else if c = '\r' then "\\r"
    else if c = '\t' then "\\t"
    else if c = '\x00' then "\\0"
    else if Text.isHidden c then
      "\\u\x7b" ++ String.ofList (Nat.toDigits 16 c.toNat) ++ "\x7d"
    else String.singleton c
  "\"" ++ String.join (s.toList.map one) ++ "\""

/-- How a found value is named in messages. -/
def Found.text : Found → String
  | .bool b => "boolean `" ++ (if b then "true" else "false") ++ "`"
  | .unsigned n => "integer `" ++ Text.decimal n ++ "`"
  | .signed i => "integer `" ++ Text.signedDecimal i ++ "`"
  | .float bits => "floating point `" ++ Double.text bits ++ "`"
  | .str s => "string " ++ quoted s
  | .null => "null"
  | .seq => "sequence"
  | .map => "map"

/-- A well-formed value that does not have the expected shape. -/
inductive ShapeFault where
  /-- A value of the wrong kind. -/
  | invalidType (found : Found) (expected : String)
  /-- A value of the right kind out of its range. -/
  | invalidValue (found : Found) (expected : String)
  /-- A sequence of the wrong length. -/
  | invalidLength (length : Nat) (expected : String)
  /-- A name that is none of the accepted ones. -/
  | unknownVariant (name : String) (accepted : List String)
  | missingField (name : String)
  | duplicateField (name : String)
  /-- A value refused by the domain, in the domain's words. -/
  | custom (text : String)
  deriving DecidableEq, Repr

/-- The accepted names as a phrase: `` `a` ``, `` `a` or `b` ``, or `one of` a list. -/
def oneOf (names : List String) : String :=
  let tick (n : String) := "`" ++ n ++ "`"
  match names with
  | [a] => tick a
  | [a, b] => tick a ++ " or " ++ tick b
  | _ => "one of " ++ ", ".intercalate (names.map tick)

/-- The wording of a shape fault. -/
def ShapeFault.message : ShapeFault → String
  | .invalidType f e => "invalid type: " ++ f.text ++ ", expected " ++ e
  | .invalidValue f e => "invalid value: " ++ f.text ++ ", expected " ++ e
  | .invalidLength n e => "invalid length " ++ Text.decimal n ++ ", expected " ++ e
  | .unknownVariant n [] => "unknown variant `" ++ n ++ "`, there are no variants"
  | .unknownVariant n names => "unknown variant `" ++ n ++ "`, expected " ++ oneOf names
  | .missingField n => "missing field `" ++ n ++ "`"
  | .duplicateField n => "duplicate field `" ++ n ++ "`"
  | .custom t => t

/-- A place in a text: line from one, column in bytes from zero. -/
structure Position where
  line : Nat
  column : Nat
  deriving DecidableEq, Repr

/-- Why a JSON text was refused. -/
inductive ReadFault where
  | grammar (fault : SyntaxFault) (position : Position)
  | shape (fault : ShapeFault) (position : Option Position)
  deriving DecidableEq, Repr

/-- The wording of a read fault, with its position when known. -/
def ReadFault.message : ReadFault → String
  | .grammar f p => f.message ++ " at line " ++ Text.decimal p.line ++ " column " ++
    Text.decimal p.column
  | .shape f none => f.message
  | .shape f (some p) => f.message ++ " at line " ++ Text.decimal p.line ++ " column " ++
    Text.decimal p.column

end Json
end CampusBooking
