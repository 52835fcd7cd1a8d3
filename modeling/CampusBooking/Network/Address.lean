import CampusBooking.Wire.NetFault

/-!
# Socket addresses

A socket address is an IPv4 address with a port, `127.0.0.1:80`, or an IPv6 address with
an optional numeric scope and a port, `[::1%2]:80`.  The text forms are the usual ones:

* IPv4: four decimal octets joined by dots, each of at most three digits, at most 255,
  and without a leading zero;
* IPv6: groups of one to four hex digits joined by colons, with at most one `::` that
  stands for one or more zero groups, and an IPv4 address allowed as the last two groups;
* ports and scopes: decimal, leading zeros allowed, within their width.

A target `host:port` that is not a socket address names a host: the text splits at its
last colon, and the port must read as a decimal `u16`, a leading `+` allowed.  Such a
target is an `Endpoint.named`, and finding its address is the network's business.

A resolver reads some host names as addresses without asking anyone (`HostName.read`):
the classic dotted IPv4 forms, where a number may be hex after `0x` or octal after a
leading `0` and the last of one to four numbers fills the bytes the others leave, and an
IPv6 address without brackets, with an optional `%scope`: a number, or `lo` for a
link-local address.
-/

namespace CampusBooking

/-- An address to send datagrams to. -/
inductive SocketAddress where
  | v4 (octets : List UInt8) (port : UInt16)
  | v6 (groups : List UInt16) (scope : UInt32) (port : UInt16)
  deriving DecidableEq, Repr

namespace Address

/-- A read of a piece at the front of a text: the piece and the rest, or nothing. -/
abbrev Read (α : Type) := List Char → Option (α × List Char)

/-- The value of a digit in base 8, 10 or 16. -/
def digitValue (radix : Nat) (c : Char) : Option Nat :=
  if c.isDigit then
    if c.toNat - '0'.toNat < radix then some (c.toNat - '0'.toNat) else none
  else if radix = 16 ∧ 'a' ≤ c ∧ c ≤ 'f' then some (c.toNat - 'a'.toNat + 10)
  else if radix = 16 ∧ 'A' ≤ c ∧ c ≤ 'F' then some (c.toNat - 'A'.toNat + 10)
  else none

/-- The digits at the front of a text, and the rest. -/
def digits (radix : Nat) : List Char → List Nat × List Char
  | [] => ([], [])
  | c :: cs =>
    match digitValue radix c with
    | some d => let (ds, rest) := digits radix cs; (d :: ds, rest)
    | none => ([], c :: cs)

/-- The number the digits spell. -/
def valueOf (radix : Nat) (ds : List Nat) : Nat := ds.foldl (fun n d => n * radix + d) 0

/-- Reads a number from all the digits at the front: at least one and at most
`maxDigits` of them, a leading zero only when `zeroPrefix` or alone, and the value at
most `bound`. -/
def number (radix : Nat) (maxDigits : Option Nat) (zeroPrefix : Bool) (bound : Nat) :
    Read Nat := fun cs =>
  let (ds, rest) := digits radix cs
  if ds.isEmpty then none
  else if maxDigits.any (ds.length > ·) then none
  else if !zeroPrefix && ds.head? = some 0 && ds.length > 1 then none
  else
    let n := valueOf radix ds
    if n > bound then none else some (n, rest)

/-- Reads one given character. -/
def char (c : Char) : Read Unit
  | d :: rest => if d = c then some ((), rest) else none
  | [] => none

/-- Reads a piece after a separator, unless it is the first. -/
def separated (sep : Char) (first : Bool) (r : Read α) : Read α := fun cs =>
  if first then r cs else do
    let (_, rest) ← char sep cs
    r rest

/-- Reads `n` pieces joined by a separator. -/
def joined (sep : Char) (r : Read α) : Nat → Bool → Read (List α)
  | 0, _, cs => some ([], cs)
  | n + 1, first, cs => do
    let (a, rest) ← separated sep first r cs
    let (as, rest) ← joined sep r n false rest
    pure (a :: as, rest)

/-- Reads an IPv4 address. -/
def ipv4 : Read (List UInt8) := fun cs => do
  let (octets, rest) ← joined '.' (number 10 (some 3) false 255) 4 true cs
  pure (octets.map (·.toUInt8), rest)

/-- Reads at most `n` colon-joined groups of an IPv6 address; while two groups are left,
an IPv4 address may stand for them, and it ends the read.  Also says whether it did. -/
def groups : Nat → Bool → List Char → List UInt16 × Bool × List Char
  | 0, _, cs => ([], false, cs)
  | n + 1, first, cs =>
    match (if n ≥ 1 then separated ':' first ipv4 cs else none) with
    | some (o, rest) =>
      let word := fun (i : Nat) => (o.getD i 0).toUInt16 * 256 + (o.getD (i + 1) 0).toUInt16
      ([word 0, word 2], true, rest)
    | none =>
      match separated ':' first (number 16 (some 4) true 65535) cs with
      | some (g, rest) =>
        let (gs, v4, rest) := groups n false rest
        (g.toUInt16 :: gs, v4, rest)
      | none => ([], false, cs)

/-- Reads an IPv6 address: eight groups, or the groups before and after one `::`. -/
def ipv6 : Read (List UInt16) := fun cs =>
  let (head, headV4, rest) := groups 8 true cs
  if head.length = 8 then some (head, rest)
  else if headV4 then none
  else do
    let (_, rest) ← char ':' rest
    let (_, rest) ← char ':' rest
    let (tail, _, rest) := groups (8 - (head.length + 1)) true rest
    pure (head ++ List.replicate (8 - head.length - tail.length) 0 ++ tail, rest)

/-- Reads `:port`. -/
def port : Read UInt16 := fun cs => do
  let (_, rest) ← char ':' cs
  let (p, rest) ← number 10 none true 65535 rest
  pure (p.toUInt16, rest)

/-- Reads `%scope`, if there is one. -/
def scope : Read UInt32 := fun cs =>
  match char '%' cs with
  | some (_, rest) =>
    match number 10 none true (Nat.pow 2 32 - 1) rest with
    | some (s, rest) => some (s.toUInt32, rest)
    | none => some (0, cs)
  | none => some (0, cs)

/-- Reads an IPv4 socket address. -/
def socketV4 : Read SocketAddress := fun cs => do
  let (ip, rest) ← ipv4 cs
  let (p, rest) ← port rest
  pure (.v4 ip p, rest)

/-- Reads an IPv6 socket address. -/
def socketV6 : Read SocketAddress := fun cs => do
  let (_, rest) ← char '[' cs
  let (ip, rest) ← ipv6 rest
  let (s, rest) ← scope rest
  let (_, rest) ← char ']' rest
  let (p, rest) ← port rest
  pure (.v6 ip s p, rest)

/-- The parts of a text before and after its last `c`. -/
def splitLast (c : Char) (cs : List Char) : Option (List Char × List Char) :=
  match cs.reverse.span (· ≠ c) with
  | (_, []) => none
  | (after, _ :: before) => some (before.reverse, after.reverse)

/-- Reads a whole text as a decimal `u16`, a leading `+` allowed. -/
def word16 (cs : List Char) : Option UInt16 :=
  let body := match cs with
    | '+' :: rest => rest
    | _ => cs
  if body.isEmpty || !body.all Char.isDigit then none
  else
    let n := valueOf 10 (body.map (·.toNat - '0'.toNat))
    if n ≤ 65535 then some n.toUInt16 else none

/-- Reads a number as the classic dotted form writes one: hex after `0x`, octal after a
leading `0`, decimal otherwise.  A `0x` without a hex digit after it is the number `0`
followed by an `x`. -/
def classicNumber : Read Nat
  | '0' :: x :: rest =>
    if (x = 'x' ∨ x = 'X') ∧ (rest.head?.bind (digitValue 16)).isSome then
      let (ds, rest) := digits 16 rest
      some (valueOf 16 ds, rest)
    else
      let (ds, rest) := digits 8 (x :: rest)
      some (valueOf 8 ds, rest)
  | c :: rest =>
    if c.isDigit then
      let (ds, rest) := digits 10 (c :: rest)
      some (valueOf 10 ds, rest)
    else none
  | [] => none

/-- Reads the dot-joined numbers of a classic dotted address after the bytes already
read: every number but the last is a byte, and there are at most four. -/
def classicParts : Nat → List Nat → List Char → Option (List Nat × Nat)
  | 0, _, _ => none
  | fuel + 1, bytes, cs => do
    let (v, rest) ← classicNumber cs
    match rest with
    | [] => some (bytes, v)
    | '.' :: more =>
      if bytes.length > 2 ∨ v > 255 then none else classicParts fuel (bytes ++ [v]) more
    | _ => none

/-- Reads a whole text as a classic dotted IPv4 address: one to four numbers, the last
filling the bytes the others leave, `127.1` for `127.0.0.1` and `2130706433` for the
same address. -/
def classicV4 (cs : List Char) : Option (List UInt8) := do
  let (bytes, last) ← classicParts 4 [] cs
  let width := 4 - bytes.length
  if last ≥ Nat.pow 256 width then none
  else some ((bytes ++ (List.range width).reverse.map fun i => last / Nat.pow 256 i % 256).map (·.toUInt8))

/-- Reads a whole text as a scope number: decimal digits only, within 32 bits. -/
def scopeNumber (cs : List Char) : Option UInt32 :=
  if cs.isEmpty || !cs.all Char.isDigit then none
  else
    let n := valueOf 10 (cs.map (·.toNat - '0'.toNat))
    if n < Nat.pow 2 32 then some n.toUInt32 else none

/-- Whether IPv6 groups hold an IPv4 address, `::ffff:a.b.c.d`. -/
def isMappedV4 (groups : List UInt16) : Bool :=
  groups.take 6 == [0, 0, 0, 0, 0, 0xFFFF]

end Address

/-- What a resolver makes of a host name before it asks a name server: a numeric
address, an IPv6 address whose scope is not a number, or a name to look up. -/
inductive HostName where
  | numeric (a : SocketAddress)
  | badScope
  | name
  deriving DecidableEq, Repr

/-- Whether IPv6 groups are a link-local address, or a multicast address of node or
link scope: the addresses whose scope may name an interface. -/
def Address.linkScoped (groups : List UInt16) : Bool :=
  let g := groups.headD 0
  g &&& 0xFFC0 == 0xFE80 || g &&& 0xFF0F == 0xFF01 || g &&& 0xFF0F == 0xFF02

/-- The scope of an IPv6 address written after its `%`: the loopback interface `lo`
(the only interface of a host without a network, numbered 1) for an address whose scope
may name an interface, else a number. -/
def Address.scopeOf (groups : List UInt16) (s : List Char) : Option UInt32 :=
  if linkScoped groups ∧ s = ['l', 'o'] then some 1 else scopeNumber s

/-- Reads a host name with a port.  The numeric forms are the classic dotted IPv4 forms
and an IPv6 address, without brackets, followed by an optional `%scope` after its first
`%`. -/
def HostName.read (host : String) (port : UInt16) : HostName :=
  match Address.classicV4 host.toList with
  | some o => .numeric (.v4 o port)
  | none =>
    let (ip, scope) := host.toList.span (· ≠ '%')
    match Address.ipv6 ip with
    | some (g, []) =>
      match scope with
      | [] => .numeric (.v6 g 0 port)
      | _ :: s => match Address.scopeOf g s with
        | some n => .numeric (.v6 g n port)
        | none => .badScope
    | _ => .name

/-- The socket address a whole text spells, if it spells one. -/
def SocketAddress.parse? (s : String) : Option SocketAddress :=
  match Address.socketV4 s.toList with
  | some (a, []) => some a
  | some _ => none
  | none =>
    match Address.socketV6 s.toList with
    | some (a, []) => some a
    | _ => none

/-- Where a target points: a socket address written out, or a host to find, with a port. -/
inductive Endpoint where
  | address (a : SocketAddress)
  | named (host : String) (port : UInt16)
  deriving DecidableEq, Repr

/-- Reads a target `host:port`; a text without a colon, or whose port does not read, is
refused in the transport's words. -/
def Endpoint.parse (target : String) : Except NetFault Endpoint :=
  match SocketAddress.parse? target with
  | some a => .ok (.address a)
  | none =>
    match Address.splitLast ':' target.toList with
    | none => .error (.io "invalid socket address")
    | some (host, portText) =>
      match Address.word16 portText with
      | none => .error (.io "invalid port value")
      | some p => .ok (.named (String.ofList host) p)

example : SocketAddress.parse? "127.0.0.1:80" = some (.v4 [127, 0, 0, 1] 80) := by decide
example : SocketAddress.parse? "[::1]:0080" = some (.v6 [0, 0, 0, 0, 0, 0, 0, 1] 0 80) := by decide
example : SocketAddress.parse? "01.0.0.1:80" = none := by decide
example : SocketAddress.parse? "[::ffff:1.2.3.4]:1" =
    some (.v6 [0, 0, 0, 0, 0, 65535, 258, 772] 0 1) := by decide
example : (Endpoint.parse "127.0.0.1" matches .error (.io "invalid socket address")) := by decide
example : (Endpoint.parse "host:+80").toOption = some (.named "host" 80) := by decide
example : HostName.read "127.1" 5 = .numeric (.v4 [127, 0, 0, 1] 5) := by decide
example : HostName.read "0x7f.0.0x0.01" 5 = .numeric (.v4 [127, 0, 0, 1] 5) := by decide
example : HostName.read "4294967295" 5 = .numeric (.v4 [255, 255, 255, 255] 5) := by decide
example : HostName.read "08" 5 = .name := by decide
example : HostName.read "::1%7" 5 = .numeric (.v6 [0, 0, 0, 0, 0, 0, 0, 1] 7 5) := by decide
example : HostName.read "::1%lo" 5 = .badScope := by decide
example : HostName.read "fe80::1%lo" 5 = .numeric (.v6 [0xFE80, 0, 0, 0, 0, 0, 0, 1] 1 5) := by
  decide

end CampusBooking
