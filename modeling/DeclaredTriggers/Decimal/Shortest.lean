import DeclaredTriggers.Decimal.Binary

/-!
# Shortest decimal text

A finite number is written with the fewest decimal digits that still read back as the same
number; of the candidates with that many digits, the nearest one. The digits are written out
without an exponent, so `10 ^ 21` is a one followed by 21 zeros, and a whole number has no point.
-/

namespace DeclaredTriggers.Decimal

/-- A positive number and the ends of the interval that rounds to it, over one denominator. -/
structure Rounding where
  value : Nat
  below : Nat
  above : Nat
  scale : Nat
  /-- Whether the ends round to the number too. -/
  closed : Bool

/-- The interval of numbers that round to `m · 2 ^ e` in the 64-bit format. Below a power of two
the next number is twice as near, unless the numbers there have the least exponent too. -/
def Rounding.of (m : Nat) (e : Int) : Rounding :=
  let up := Binary.twoPow e
  let isNear := m = Format.double.leading && Format.double.minExponent < e
  { value := 4 * m * up
    below := (4 * m - if isNear then 1 else 2) * up
    above := (4 * m + 2) * up
    scale := 4 * Binary.twoPow (-e)
    closed := m % 2 = 0 }

/-- Whether `k` steps of `num / den` lie in the interval. -/
def Rounding.holds (r : Rounding) (k num den : Nat) : Bool :=
  let x := k * num * r.scale
  if r.closed then r.below * den ≤ x && x ≤ r.above * den
  else r.below * den < x && x < r.above * den

/-- `10 ^ n` as a fraction. -/
def gridStep (n : Int) : Nat × Nat := (Binary.tenPow n, Binary.tenPow (-n))

/-- The nearest multiple of `10 ^ n` in the interval, if one of the value's two neighbours among
those multiples lies there. A tie goes up. -/
def Rounding.onGrid? (r : Rounding) (n : Int) : Option Nat :=
  let (num, den) := gridStep n
  let low := r.value * den / (num * r.scale)
  let fromLow := r.value * den - low * num * r.scale
  let toHigh := (low + 1) * num * r.scale - r.value * den
  let nearLow := fromLow < toHigh
  match r.holds low num den, r.holds (low + 1) num den with
  | true, true => some (if nearLow then low else low + 1)
  | true, false => some low
  | false, true => some (low + 1)
  | false, false => none

/-- The first of `count` ever finer grids, from the multiples of `10 ^ n` on, that holds the
number, with its multiple. -/
def Rounding.search (r : Rounding) : Nat → Int → Option (Nat × Int)
  | 0, _ => none
  | count + 1, n =>
    match r.onGrid? n with
    | some k => some (k, n)
    | none => r.search count (n - 1)

/-- The least `n` with `num / den < 10 ^ n`, by trying at most `fuel` steps down from a bound. -/
def decimalPlaces (num den : Nat) : Nat → Int → Int
  | 0, n => n
  | fuel + 1, n =>
    let (p, q) := gridStep (n - 1)
    if num * q < p * den then decimalPlaces num den fuel (n - 1) else n

/-- Digits and power of ten of the shortest decimal that reads back as `m · 2 ^ e`. -/
def shortest (m : Nat) (e : Int) : Nat × Int :=
  let r := Rounding.of m e
  let bound : Int := ((m.log2 : Int) + e + 1) * 30103 / 100000 + 2
  let places := decimalPlaces r.value r.scale 4 bound
  (r.search 18 (places - 1)).getD (m, e)

/-- `digits · 10 ^ exponent` written out in full. -/
def positional (digits : Nat) (exponent : Int) : List Char :=
  let ds := (Nat.toDigits 10 digits)
  if 0 ≤ exponent then ds ++ List.replicate exponent.toNat '0'
  else
    let places := (-exponent).toNat
    let padded := List.replicate (places + 1 - ds.length) '0' ++ ds
    let (whole, part) := padded.splitAt (padded.length - places)
    let part := (part.reverse.dropWhile (· = '0')).reverse
    if part.isEmpty then whole else whole ++ '.' :: part

/-- The text of a number. -/
def Binary.text : Binary → String
  | .nan => "NaN"
  | .infinite negative => if negative then "-inf" else "inf"
  | .finite negative m e =>
    let magnitude :=
      if m = 0 then ['0']
      else let (digits, exponent) := shortest m e; positional digits exponent
    String.ofList (if negative then '-' :: magnitude else magnitude)

end DeclaredTriggers.Decimal
