import CampusBooking.Text.Digits
import CampusBooking.Json.Double
import CampusBooking.Calendar.Date

/-!
# TOML documents

A reader of TOML 1.0 documents.  A document is a sequence of lines: blank lines,
comments, table headers (`[a.b]`, `[[a.b]]` for an element of an array of tables) and
key/value pairs, whose keys may be dotted (`a.b = 1`).  Values are strings (basic,
literal, and their multi-line forms), integers (decimal, hexadecimal, octal, binary, with
underscores between digits, within 64 signed bits), floats, booleans, dates and times,
arrays and inline tables.

A table is defined once.  A header may not name a table that a header or dotted keys
already defined; dotted keys may only extend tables that dotted keys made; inline tables
and arrays written as values are complete and cannot be extended.  The tables of the
document are built as the headers come, the table of the current header being filled
apart and put in its place when the next header starts.

A text that breaks any rule is refused as a whole; the reader does not say why.
-/

namespace CampusBooking
namespace Toml

/-- A value of a document. -/
inductive Value where
  | str (s : String)
  | int (i : Int)
  /-- A float, as written. -/
  | float (text : String)
  | bool (b : Bool)
  /-- A date, a time, or both, as written. -/
  | datetime (text : String)
  | array (items : List Value)
  | table (entries : List (String × Value))
  deriving Repr, Inhabited

/-- A part of a document being built: a value, a table (with whether it was only made on
the way to another and whether dotted keys made it), or an array of tables. -/
inductive Item where
  | value (v : Value)
  | table (implicit dotted : Bool) (entries : List (String × Item))
  | tables (items : List (List (String × Item)))
  deriving Inhabited

mutual
/-- The value of a finished part. -/
def Item.toValue : Item → Value
  | .value v => v
  | .table _ _ entries => .table (entriesValue entries)
  | .tables items => .array (tablesValue items)

/-- The values of finished entries. -/
def entriesValue : List (String × Item) → List (String × Value)
  | [] => []
  | (k, i) :: rest => (k, i.toValue) :: entriesValue rest

/-- The tables of an array of tables. -/
def tablesValue : List (List (String × Item)) → List Value
  | [] => []
  | t :: ts => .table (entriesValue t) :: tablesValue ts
end

/-- The item under a key. -/
def lookup (k : String) (entries : List (String × Item)) : Option Item :=
  (entries.find? (·.1 == k)).map (·.2)

/-- Replaces the item under a key. -/
def replace (k : String) (i : Item) (entries : List (String × Item)) : List (String × Item) :=
  entries.map fun e => if e.1 == k then (k, i) else e

/-- Applies `f` to the table at `path`, creating missing tables on the way (marked
implicit, and dotted when `dotted`) and entering the last table of an array of tables.
A value on the way fails, and so does, for dotted keys, a table that was defined.  `f`
gets whether the table it reaches was made by dotted keys. -/
def within (dotted : Bool) (f : Bool → List (String × Item) → Option (List (String × Item) × α)) :
    List String → Bool → List (String × Item) → Option (List (String × Item) × α)
  | [], flag, entries => f flag entries
  | k :: ks, _, entries =>
    match lookup k entries with
    | none => do
      let (sub, a) ← within dotted f ks dotted []
      pure (entries ++ [(k, .table true dotted sub)], a)
    | some (.value _) => none
    | some (.tables items) => do
      let last ← items.getLast?
      let (last, a) ← within dotted f ks false last
      pure (replace k (.tables (items.dropLast ++ [last])) entries, a)
    | some (.table imp dot sub) =>
      if dotted && !imp then none
      else do
        let (sub, a) ← within dotted f ks dot sub
        pure (replace k (.table imp dot sub) entries, a)

/-- Applies `f` to the table at `path` within an inline table, creating dotted tables on
the way; only tables that dotted keys made may be entered, since an inline table written
as a value is complete. -/
def withinInline (f : Bool → List (String × Item) → Option (List (String × Item) × α)) :
    List String → Bool → List (String × Item) → Option (List (String × Item) × α)
  | [], flag, entries => f flag entries
  | k :: ks, _, entries =>
    match lookup k entries with
    | none => do
      let (sub, a) ← withinInline f ks true []
      pure (entries ++ [(k, .table true true sub)], a)
    | some (.table true dot sub) => do
      let (sub, a) ← withinInline f ks dot sub
      pure (replace k (.table true dot sub) entries, a)
    | some _ => none

/-- Adds a key under a dotted prefix, as a key/value pair does: the table reached must be
made by dotted keys exactly when there is a prefix, and must not have the key. -/
def addPair (prefixPath : List String) (k : String) (i : Item) (flag : Bool)
    (entries : List (String × Item)) : Option (List (String × Item) × Unit) :=
  if flag == prefixPath.isEmpty then none
  else if (lookup k entries).isSome then none
  else some (entries ++ [(k, i)], ())

/-! ## Scanning -/

/-- A scan of the rest of the text; `none` when the text is not TOML. -/
abbrev Scan := StateT (List Char) Option

namespace Scan

def peek : Scan (Option Char) := do pure (← get).head?

def bump : Scan Unit := modify List.tail

def expect (c : Char) : Scan Unit := do
  if (← peek) = some c then bump else failure

/-- Skips spaces and tabs. -/
def blanks : Scan Unit := modify (·.dropWhile fun c => c = ' ' ∨ c = '\t')

/-- A character that may stand in a comment or a string. -/
def isTextChar (c : Char) : Bool := c = '\t' ∨ (c.toNat ≥ 0x20 ∧ c.toNat ≠ 0x7F)

/-- Skips a comment, if one starts here. -/
def comment : Scan Unit := do
  if (← peek) = some '#' then
    let rest := (← get).drop 1
    let body := rest.takeWhile fun c => c ≠ '\n' ∧ c ≠ '\r'
    if !body.all isTextChar then failure
    set (rest.drop body.length)

/-- A line feed, or a carriage return and a line feed. -/
def newline : Scan Unit := do
  match ← get with
  | '\n' :: r => set r
  | '\r' :: '\n' :: r => set r
  | _ => failure

/-- Blanks, a comment, then the end of the line or of the text. -/
def lineEnd : Scan Unit := do
  blanks
  comment
  if (← get).isEmpty then pure () else newline

/-- A character that may stand in a bare key. -/
def isBare (c : Char) : Bool := c.isAlphanum || c = '_' || c = '-'

/-- The value of `n` hexadecimal digits. -/
def hexDigits (n : Nat) : Scan Nat := do
  let ds := (← get).take n
  if ds.length < n then failure
  match Text.hexValueList? ds 0 with
  | some v => set ((← get).drop n); pure v
  | none => failure

/-- The character of an escape, after its backslash. -/
def escape : Scan Char := do
  let some c ← peek | failure
  bump
  let code ← match c with
    | 'b' => pure 8
    | 't' => pure 9
    | 'n' => pure 10
    | 'f' => pure 12
    | 'r' => pure 13
    | '"' => pure 34
    | '\\' => pure 92
    | 'u' => hexDigits 4
    | 'U' => hexDigits 8
    | _ => failure
  if code < 0xD800 ∨ (0xDFFF < code ∧ code ≤ 0x10FFFF) then pure (Char.ofNat code) else failure

/-- The rest of a basic string, after its opening quote. -/
def basicRest (acc : List Char) : Nat → Scan String
  | 0 => failure
  | fuel + 1 => do
    let some c ← peek | failure
    bump
    if c = '"' then pure (String.ofList acc.reverse)
    else if c = '\\' then basicRest ((← escape) :: acc) fuel
    else if isTextChar c then basicRest (c :: acc) fuel
    else failure

/-- The rest of a literal string, after its opening quote. -/
def literalRest (acc : List Char) : Nat → Scan String
  | 0 => failure
  | fuel + 1 => do
    let some c ← peek | failure
    bump
    if c = '\'' then pure (String.ofList acc.reverse)
    else if isTextChar c then literalRest (c :: acc) fuel
    else failure

/-- Skips blanks and line breaks after a line-ending backslash. -/
def skipFolded : Nat → Scan Unit
  | 0 => pure ()
  | fuel + 1 => do
    match ← get with
    | ' ' :: r | '\t' :: r | '\n' :: r => set r; skipFolded fuel
    | '\r' :: '\n' :: r => set r; skipFolded fuel
    | _ => pure ()

/-- The rest of a multi-line string after its opening `q q q`: up to two quotes may end
the content right before the closing three; `basic` strings take escapes and line-ending
backslashes. -/
def multiRest (q : Char) (basic : Bool) (acc : List Char) : Nat → Scan String
  | 0 => failure
  | fuel + 1 => do
    let rest ← get
    let quotes := (rest.takeWhile (· = q)).length
    if quotes ≥ 3 then
      if quotes > 5 then failure
      set (rest.drop quotes)
      pure (String.ofList (acc.reverse ++ List.replicate (quotes - 3) q))
    else if quotes > 0 then
      set (rest.drop quotes)
      multiRest q basic (List.replicate quotes q ++ acc) fuel
    else
      match rest with
      | [] => failure
      | '\n' :: r => set r; multiRest q basic ('\n' :: acc) fuel
      | '\r' :: '\n' :: r => set r; multiRest q basic ('\n' :: acc) fuel
      | '\\' :: r =>
        if basic then
          let after := r.dropWhile fun c => c = ' ' ∨ c = '\t'
          match after with
          | '\n' :: _ | '\r' :: '\n' :: _ =>
            set after
            skipFolded (rest.length + 1)
            multiRest q basic acc fuel
          | _ =>
            set r
            multiRest q basic ((← escape) :: acc) fuel
        else
          set r
          multiRest q basic ('\\' :: acc) fuel
      | c :: r => if isTextChar c then set r; multiRest q basic (c :: acc) fuel else failure

/-- A string value, at its first quote. -/
def string : Scan String := do
  let rest ← get
  let budget := rest.length + 1
  match rest with
  | '"' :: '"' :: '"' :: r =>
    set r
    match ← get with
    | '\n' :: r' => set r'
    | '\r' :: '\n' :: r' => set r'
    | _ => pure ()
    multiRest '"' true [] budget
  | '\'' :: '\'' :: '\'' :: r =>
    set r
    match ← get with
    | '\n' :: r' => set r'
    | '\r' :: '\n' :: r' => set r'
    | _ => pure ()
    multiRest '\'' false [] budget
  | '"' :: r => set r; basicRest [] budget
  | '\'' :: r => set r; literalRest [] budget
  | _ => failure

/-- One part of a key: bare, or a one-line quoted string. -/
def simpleKey : Scan String := do
  match ← get with
  | '"' :: r => set r; basicRest [] (r.length + 1)
  | '\'' :: r => set r; literalRest [] (r.length + 1)
  | rest =>
    let bare := rest.takeWhile isBare
    if bare.isEmpty then failure
    set (rest.drop bare.length)
    pure (String.ofList bare)

/-- A key, dotted or not, as its parts. -/
def keyParts (acc : List String) : Nat → Scan (List String)
  | 0 => failure
  | fuel + 1 => do
    let k ← simpleKey
    blanks
    if (← peek) = some '.' then
      bump
      blanks
      keyParts (k :: acc) fuel
    else pure (k :: acc).reverse

/-- How deep arrays and inline tables may nest, and how many parts a key may have: both
stay below this limit. -/
def nestingLimit : Nat := 80

/-- A key of fewer than `nestingLimit` parts. -/
def key : Scan (List String) := do
  let parts ← keyParts [] ((← get).length + 1)
  if parts.length ≥ nestingLimit then failure
  pure parts

/-! ## Numbers, dates and times -/

/-- Digits with single underscores between them; their value in `base`. -/
def digitsValue (base : Nat) (cs : List Char) : Option Nat :=
  let parts := (String.ofList cs).splitOn "_"
  if cs.isEmpty ∨ parts.any (·.isEmpty) then none
  else
    (cs.filter (· ≠ '_')).foldlM (fun acc c =>
      (Text.hexValue? c).bind fun d => if d < base then some (acc * base + d) else none) 0

/-- A decimal integer without sign: `0`, or digits without a leading zero. -/
def decimalDigits (cs : List Char) : Option Nat :=
  match cs with
  | '0' :: _ :: _ => none
  | _ => if cs.all fun c => c.isDigit || c = '_' then digitsValue 10 cs else none

def intMin : Int := -Int.pow 2 63
def intMax : Int := Int.pow 2 63 - 1

/-- An integer token. -/
def integer? (cs : List Char) : Option Int :=
  let inRange (i : Int) : Option Int := if intMin ≤ i ∧ i ≤ intMax then some i else none
  match cs with
  | '0' :: 'x' :: ds => (digitsValue 16 ds).bind fun n => inRange n
  | '0' :: 'o' :: ds => (digitsValue 8 ds).bind fun n => inRange n
  | '0' :: 'b' :: ds => (digitsValue 2 ds).bind fun n => inRange n
  | '+' :: ds => (decimalDigits ds).bind fun n => inRange n
  | '-' :: ds => (decimalDigits ds).bind fun n => inRange (-(n : Int))
  | ds => (decimalDigits ds).bind fun n => inRange n

/-- A float token: its sign, digits and decimal exponent, or a special value. -/
def float? (cs : List Char) : Option Unit :=
  let (positive, body) := match cs with
    | '+' :: r => (true, r)
    | '-' :: r => (false, r)
    | r => (true, r)
  if body = "inf".toList ∨ body = "nan".toList then some ()
  else
    let whole := body.takeWhile fun c => c.isDigit || c = '_'
    let rest := body.drop whole.length
    let (frac, rest) : List Char × List Char := match rest with
      | '.' :: r => let f := r.takeWhile fun c => c.isDigit || c = '_'; (f, r.drop f.length)
      | r => ([], r)
    let hasFrac := (body.drop whole.length).head? = some '.'
    let (exp, rest) : Option (Bool × List Char) × List Char := match rest with
      | 'e' :: r | 'E' :: r =>
        let (s, r) := match r with
          | '+' :: r' => (true, r')
          | '-' :: r' => (false, r')
          | r' => (true, r')
        let e := r.takeWhile fun c => c.isDigit || c = '_'
        (some (s, e), r.drop e.length)
      | r => (none, r)
    if !rest.isEmpty ∨ (!hasFrac ∧ exp.isNone) then none
    else do
      let w ← decimalDigits whole
      let f ← if hasFrac then digitsValue 10 frac else some 0
      let fracLen := if hasFrac then (frac.filter (· ≠ '_')).length else 0
      let e : Int ← match exp with
        | some (s, ds) => (digitsValue 10 ds).map fun n => if s then (n : Int) else -(n : Int)
        | none => some 0
      -- a value that rounds beyond the doubles is refused unless it is negative
      if positive ∧ Json.Double.beyondFinite (w * Nat.pow 10 fracLen + f) (e - fracLen) then none
      else some ()

/-- Exactly `n` digits and their value. -/
def fixedDigits (n : Nat) (cs : List Char) : Option (Nat × List Char) :=
  let ds := cs.take n
  if ds.length = n ∧ ds.all Char.isDigit then some (Text.decimalValue ds, cs.drop n) else none

/-- A time `HH:MM:SS` with an optional fraction; the rest after it. -/
def time? (cs : List Char) : Option (List Char) := do
  let (h, r) ← fixedDigits 2 cs
  let r ← match r with | ':' :: r => some r | _ => none
  let (m, r) ← fixedDigits 2 r
  let r ← match r with | ':' :: r => some r | _ => none
  let (s, r) ← fixedDigits 2 r
  if h > 23 ∨ m > 59 ∨ s > 60 then none
  match r with
  | '.' :: r =>
    let f := r.takeWhile Char.isDigit
    if f.isEmpty then none else some (r.drop f.length)
  | r => some r

/-- A date `YYYY-MM-DD` of the calendar, the day within its month; the rest after it. -/
def date? (cs : List Char) : Option (List Char) := do
  let (y, r) ← fixedDigits 4 cs
  let r ← match r with | '-' :: r => some r | _ => none
  let (m, r) ← fixedDigits 2 r
  let r ← match r with | '-' :: r => some r | _ => none
  let (d, r) ← fixedDigits 2 r
  if m < 1 ∨ m > 12 ∨ d < 1 ∨ d > monthLength y m then none else some r

/-- A date, a time, or a date and time with an optional offset. -/
def datetime? (cs : List Char) : Bool :=
  match date? cs with
  | some [] => true
  | some (sep :: r) =>
    (sep = 'T' ∨ sep = 't' ∨ sep = ' ') &&
      match time? r with
      | some [] => true
      | some ['Z'] | some ['z'] => true
      | some (s :: r) =>
        (s = '+' ∨ s = '-') &&
          match fixedDigits 2 r with
          | some (h, ':' :: r) =>
            match fixedDigits 2 r with
            | some (m, []) => h ≤ 23 ∧ m ≤ 59
            | _ => false
          | _ => false
      | none => false
  | none => time? cs = some []

/-- A character of a number, date or time token. -/
def isTokenChar (c : Char) : Bool :=
  c.isAlphanum || c = '_' || c = '+' || c = '-' || c = '.' || c = ':'

/-- A number, date, time or boolean. -/
def scalar : Scan Value := do
  let rest ← get
  let tok := rest.takeWhile isTokenChar
  let after := rest.drop tok.length
  -- a date may be followed by a blank and a time
  let (tok, after) := match after with
    | ' ' :: d1 :: d2 :: ':' :: more =>
      if (date? tok = some []) ∧ d1.isDigit ∧ d2.isDigit then
        let t2 := (d1 :: d2 :: ':' :: more).takeWhile isTokenChar
        (tok ++ ' ' :: t2, (d1 :: d2 :: ':' :: more).drop t2.length)
      else (tok, after)
    | _ => (tok, after)
  if tok.isEmpty then failure
  set after
  let text := String.ofList tok
  if tok = "true".toList then pure (.bool true)
  else if tok = "false".toList then pure (.bool false)
  else if datetime? tok then pure (.datetime text)
  else match integer? tok with
    | some i => pure (.int i)
    | none => if (float? tok).isSome then pure (.float text) else failure

/-- Skips blanks, comments and line breaks inside an array. -/
def arrayGap : Nat → Scan Unit
  | 0 => pure ()
  | fuel + 1 => do
    blanks
    match ← get with
    | '#' :: _ => comment; arrayGap fuel
    | '\n' :: _ | '\r' :: _ => newline; arrayGap fuel
    | _ => pure ()

mutual
/-- A value at nesting `level` (the arrays and inline tables around it): inline tables
come as tables whose entries may still be extended by the dotted keys of the inline
table around them.  An array or inline table may open only below `nestingLimit`. -/
def item (level : Nat) : Nat → Scan Item
  | 0 => failure
  | fuel + 1 => do
    match ← peek with
    | some '"' | some '\'' => return .value (.str (← string))
    | some '[' =>
      if level + 1 ≥ nestingLimit then failure
      bump; return .value (.array (← arrayItems (level + 1) [] fuel))
    | some '{' =>
      if level + 1 ≥ nestingLimit then failure
      bump; blanks; return .table false false (← inlineEntries (level + 1) true [] fuel)
    | _ => return .value (← scalar)

/-- The items of an array after its `[`, up to its `]`. -/
def arrayItems (level : Nat) (acc : List Value) : Nat → Scan (List Value)
  | 0 => failure
  | fuel + 1 => do
    arrayGap ((← get).length + 1)
    if (← peek) = some ']' then bump; return acc.reverse
    let v ← item level fuel
    arrayGap ((← get).length + 1)
    match ← peek with
    | some ',' => bump; arrayItems level (v.toValue :: acc) fuel
    | some ']' => bump; return (v.toValue :: acc).reverse
    | _ => failure

/-- The entries of an inline table after its `{`, up to its `}`. -/
def inlineEntries (level : Nat) (first : Bool) (entries : List (String × Item)) :
    Nat → Scan (List (String × Item))
  | 0 => failure
  | fuel + 1 => do
    if first ∧ (← peek) = some '}' then bump; return entries
    let parts ← key
    let some k := parts.getLast? | failure
    let prefixPath := parts.dropLast
    expect '='
    blanks
    let v ← item level fuel
    blanks
    let some (entries, ()) := withinInline (addPair prefixPath k v) prefixPath false entries
      | failure
    match ← peek with
    | some ',' => bump; blanks; inlineEntries level false entries fuel
    | some '}' => bump; return entries
    | _ => failure
end

end Scan

/-! ## Documents -/

/-- The state of a document being read: the tables so far, and the table of the current
header, filled apart. -/
structure Builder where
  root : List (String × Item) := []
  current : List (String × Item) := []
  path : List String := []
  isArray : Bool := false

namespace Builder

/-- Puts the current table in its place. -/
def finish (b : Builder) : Option Builder := do
  match b.path.getLast? with
  | none => pure { b with root := b.current, current := [] }
  | some k =>
    let parentPath := b.path.dropLast
    let (root, ()) ← within false (fun _ entries =>
      match lookup k entries with
      | none =>
        some (entries ++ [(k, if b.isArray then .tables [b.current] else .table false false b.current)], ())
      | some (.tables items) => if b.isArray then some (replace k (.tables (items ++ [b.current])) entries, ()) else none
      | some (.table true _ _) => if b.isArray then none else some (replace k (.table false false b.current) entries, ())
      | some _ => none) parentPath false b.root
    pure { b with root, current := [] }

/-- Starts the table of a header `[path]`. -/
def header (b : Builder) (path : List String) : Option Builder := do
  let b ← b.finish
  let k ← path.getLast?
  let (root, current) ← within false (fun _ entries =>
    match lookup k entries with
    | none => some (entries, [])
    | some (.table true false sub) => some (entries.filter (·.1 != k), sub)
    | some _ => none) path.dropLast false b.root
  pure { root, current, path, isArray := false }

/-- Starts a new table of an array of tables `[[path]]`. -/
def arrayHeader (b : Builder) (path : List String) : Option Builder := do
  let b ← b.finish
  let k ← path.getLast?
  let (root, ()) ← within false (fun _ entries =>
    match lookup k entries with
    | none | some (.tables _) => some (entries, ())
    | some _ => none) path.dropLast false b.root
  pure { root, current := [], path, isArray := true }

/-- Adds a key/value pair to the current table. -/
def pair (b : Builder) (parts : List String) (v : Item) : Option Builder := do
  let k ← parts.getLast?
  -- a complete inline table or array cannot be extended later
  let v : Item := match v with
    | .table _ _ _ => .value v.toValue
    | v => v
  let (current, ()) ← within true (addPair parts.dropLast k v) parts.dropLast false b.current
  pure { b with current }

end Builder

namespace Scan

/-- Reads the lines of a document. -/
def lines (b : Builder) : Nat → Scan Builder
  | 0 => failure
  | fuel + 1 => do
    blanks
    match ← get with
    | [] => pure b
    | '\n' :: _ | '\r' :: _ => newline; lines b fuel
    | '#' :: _ => lineEnd; lines b fuel
    | '[' :: '[' :: r =>
      set r
      blanks
      let path ← key
      expect ']'
      expect ']'
      lineEnd
      let some b := b.arrayHeader path | failure
      lines b fuel
    | '[' :: r =>
      set r
      blanks
      let path ← key
      expect ']'
      lineEnd
      let some b := b.header path | failure
      lines b fuel
    | _ =>
      let parts ← key
      expect '='
      blanks
      let v ← item 0 ((← get).length + 1)
      lineEnd
      let some b := b.pair parts v | failure
      lines b fuel

end Scan

/-- Reads a document: its top-level table, or `none` when the text is not TOML. -/
def parse (text : String) : Option (List (String × Value)) := do
  let cs := match text.toList with
    | '\uFEFF' :: r => r
    | r => r
  let (b, _) ← (Scan.lines {} (cs.length + 2)).run cs
  let b ← b.finish
  pure (entriesValue b.root)

end Toml
end CampusBooking
