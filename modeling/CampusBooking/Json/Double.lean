import CampusBooking.Text.Digits

/-!
# Doubles in JSON text

Two rules about IEEE 754 doubles that JSON reading and writing need.

* Reading: a number `±significand · 10^exponent` becomes the double obtained by rounding the
  significand to the nearest double and then multiplying (or dividing) once by the nearest
  double of `10^|exponent|`; exponents beyond 308 are first brought into range by dividing by
  `1e308`.  A positive exponent that overflows to infinity is out of range.  This is a fast
  reading that may differ from the nearest double in the last bit, and the wire format is
  defined by it.  `beyondFinite` says instead when the *nearest* double of a decimal would
  be infinite.
* Writing: the *shortest* decimal that reads back to the same double, and of two such the
  nearer one (an exact tie takes the even last digit), written positionally when its
  magnitude lies between `1e-5` and `1e16` and in scientific form (`1e+20`, `1.5e-7`)
  otherwise, the exponent always signed; a positional integer keeps a `.0`.
-/

namespace CampusBooking
namespace Json
namespace Double

/-- The bits of the double nearest to a natural number (ties to even), or of infinity
when it is too large. -/
def nearestBits (n : Nat) : UInt64 :=
  if n = 0 then 0
  else
    let l := n.log2
    if l ≤ 52 then
      UInt64.ofNat (((l + 1023) <<< 52) ||| ((n <<< (52 - l)) - Nat.pow 2 52))
    else
      let sh := l - 52
      let q := n >>> sh
      let r := n - (q <<< sh)
      let half := 1 <<< (sh - 1)
      let q := if r > half ∨ (r = half ∧ q % 2 = 1) then q + 1 else q
      let (q, l) := if q = Nat.pow 2 53 then (Nat.pow 2 52, l + 1) else (q, l)
      if l + 1023 ≥ 2047 then 0x7ff0000000000000
      else UInt64.ofNat (((l + 1023) <<< 52) ||| (q - Nat.pow 2 52))

/-- The double nearest to a natural number. -/
def ofNat (n : Nat) : Float := Float.ofBits (nearestBits n)

/-- The double nearest to `10^k`. -/
def pow10 (k : Nat) : Float := ofNat (Nat.pow 10 k)

/-- Multiplies or divides by powers of ten as the reading rule says, in at most `fuel`
rounds of division by `1e308`. -/
def scale (f : Float) (exponent : Int) : Nat → Option Float
  | 0 => some f
  | fuel + 1 =>
    if exponent.natAbs ≤ 308 then
      if exponent ≥ 0 then
        let g := f * pow10 exponent.natAbs
        if g.isInf then none else some g
      else some (f / pow10 exponent.natAbs)
    else if f == 0.0 then some f
    else if exponent ≥ 0 then none
    else scale (f / pow10 308) (exponent + 308) fuel

/-- The double of `±significand · 10^exponent` by the reading rule, or `none` when it is
out of range. -/
def fromParts (positive : Bool) (significand : Nat) (exponent : Int) : Option Float :=
  (scale (ofNat significand) exponent (exponent.natAbs / 308 + 2)).map
    fun f => if positive then f else -f

/-- A finite double as `(negative, mantissa, binary exponent)` with value
`mantissa · 2^exponent`, or `none` for infinities and NaN. -/
def decompose (bits : UInt64) : Option (Bool × Nat × Int) :=
  let b := bits.toNat
  let negative := b >>> 63 = 1
  let e := (b >>> 52) % 2048
  let frac := b % Nat.pow 2 52
  if e = 2047 then none
  else if e = 0 then some (negative, frac, -1074)
  else some (negative, frac + Nat.pow 2 52, (e : Int) - 1075)

/-- `a · 2^p` compared with `b · 10^q`, for integers `p` and `q`. -/
def compareScaled (a : Nat) (p : Int) (b : Nat) (q : Int) : Ordering :=
  let lhs := a * Nat.pow 2 p.toNat * Nat.pow 10 (-q).toNat
  let rhs := b * Nat.pow 10 q.toNat * Nat.pow 2 (-p).toNat
  compare lhs rhs

/-- Whether `d · 10^k` lies in the interval of reals that read back as the double
`m · 2^e` (ends included when `m` is even). -/
def readsBack (m : Nat) (e : Int) (lowerHalf : Nat) (d : Nat) (k : Int) : Bool :=
  -- in units of 2^(e-2): the value is 4m, the interval [4m - lowerHalf, 4m + 2]
  let lo := compareScaled (4 * m - lowerHalf) (e - 2) d k
  let hi := compareScaled (4 * m + 2) (e - 2) d k
  if m % 2 = 0 then lo != .gt && hi != .lt else lo == .lt && hi == .gt

/-- The number of decimal digits of a positive natural number. -/
def digitCount (n : Nat) : Nat := (Nat.toDigits 10 n).length

/-- Whether `significand · 10^exponent`, rounded to the nearest double, lies beyond the
largest finite double: it does when it is at least halfway from that double,
`(2^53 - 1) · 2^971`, to `2^1024`, a tie going to the even side, which is `2^1024`.
Values with more than 309 integer digits are beyond it, values with fewer than 309 are
not, and only those between are compared exactly. -/
def beyondFinite (significand : Nat) (exponent : Int) : Bool :=
  if significand = 0 then false
  else
    let magnitude := (digitCount significand : Int) + exponent
    if magnitude > 309 then true
    else if magnitude < 309 then false
    else compareScaled (Nat.pow 2 54 - 1) 970 significand exponent != .gt

example : beyondFinite 17976931348623158 292 = false ∧ beyondFinite 179769313486231581 291 = true :=
  by decide +kernel

/-- `floor (log10 (m · 2^e))` for a positive `m`. -/
def decimalMagnitude (m : Nat) (e : Int) : Int :=
  if e ≥ 0 then (digitCount (m * Nat.pow 2 e.toNat) : Int) - 1
  else
    -- m / 2^-e: find t with 10^t ≤ m / 2^-e < 10^(t+1)
    let den := Nat.pow 2 (-e).toNat
    if m ≥ den then (digitCount (m / den) : Int) - 1
    else
      -- count leading zeros of the fraction
      let rec go (t : Nat) (fuel : Nat) : Int :=
        match fuel with
        | 0 => -(t : Int)
        | fuel + 1 => if m * Nat.pow 10 t ≥ den then -(t : Int) else go (t + 1) fuel
      go 1 400

/-- Removes trailing zeros: `(d, k)` with the same value `d · 10^k`. -/
def stripZeros : Nat → Int → Nat → Nat × Int
  | d, k, 0 => (d, k)
  | d, k, fuel + 1 => if d ≠ 0 ∧ d % 10 = 0 then stripZeros (d / 10) (k + 1) fuel else (d, k)

/-- The shortest decimal `d · 10^k` that reads back as the positive double `m · 2^e`, of two
the nearer, of a tie the even one. -/
def shortest (m : Nat) (e : Int) (lowerHalf : Nat) : Nat × Int :=
  let t := decimalMagnitude m e
  let rec search (n : Nat) (fuel : Nat) : Nat × Int :=
    match fuel with
    | 0 => (m, 0)
    | fuel + 1 =>
      let k : Int := t - n + 1
      -- floor (m · 2^e / 10^k)
      let num := m * Nat.pow 2 e.toNat * Nat.pow 10 (-k).toNat
      let den := Nat.pow 2 (-e).toNat * Nat.pow 10 k.toNat
      let lo := num / den
      let hi := lo + 1
      let okLo := lo ≠ 0 && readsBack m e lowerHalf lo k
      let okHi := readsBack m e lowerHalf hi k
      if okLo && okHi then
        -- distance of v from lo·10^k versus from hi·10^k: compare 2v with (lo + hi)·10^k
        match compareScaled (2 * m) e (lo + hi) k with
        | .lt => stripZeros lo k 20
        | .gt => stripZeros hi k 20
        | .eq => if lo % 2 = 0 then stripZeros lo k 20 else stripZeros hi k 20
      else if okLo then stripZeros lo k 20
      else if okHi then stripZeros hi k 20
      else search (n + 1) fuel
  search 1 17

/-- The exponent of a scientific form, always with its sign. -/
def exponentText (x : Int) : String :=
  if x < 0 then Text.signedDecimal x else "+" ++ Text.signedDecimal x

/-- The text of a double: shortest digits, positional between `1e-5` and `1e16`,
scientific otherwise, `.0` after a positional integer. -/
def text (bits : UInt64) : String :=
  match decompose bits with
  | none => if bits.toNat % Nat.pow 2 52 ≠ 0 then "NaN" else if bits.toNat >>> 63 = 1 then "-inf" else "inf"
  | some (negative, m, e) =>
    let sign := if negative then "-" else ""
    if m = 0 then sign ++ "0.0"
    else
      let lowerHalf := if m = Nat.pow 2 52 ∧ e > -1074 then 1 else 2
      let (d, k) := shortest m e lowerHalf
      let ds := Nat.toDigits 10 d
      let len : Int := ds.length
      let kk := len + k
      let body :=
        if 0 ≤ k ∧ kk ≤ 16 then
          String.ofList (ds ++ List.replicate k.toNat '0') ++ ".0"
        else if 0 < kk ∧ kk ≤ 16 then
          String.ofList (ds.take kk.toNat) ++ "." ++ String.ofList (ds.drop kk.toNat)
        else if -5 < kk ∧ kk ≤ 0 then
          "0." ++ String.ofList (List.replicate (-kk).toNat '0' ++ ds)
        else if ds.length = 1 then
          String.ofList ds ++ "e" ++ exponentText (kk - 1)
        else
          String.ofList (ds.take 1) ++ "." ++ String.ofList (ds.drop 1) ++ "e" ++
            exponentText (kk - 1)
      sign ++ body

end Double
end Json
end CampusBooking
