import DeclaredTriggers.Decimal.Reading
import DeclaredTriggers.Json.Basic

/-!
# Numbers in JSON

A number's digits are taken into a significand of 64 bits for as long as they fit, and the power
of ten makes up for the digits left out. The significand and the power are rounded one by one and
then multiplied, so a number at the end of the range may round differently from its exact value.
-/

namespace DeclaredTriggers.Decimal

/-- The product of two numbers that are not negative, rounded. -/
def Binary.magnitudeTimes (f : Format) (negative : Bool) : Binary → Binary → Binary
  | .finite _ 0 _, .finite .. | .finite .., .finite _ 0 _ => .finite negative 0 f.minExponent
  | .finite _ m e, .finite _ n d =>
    .ofFraction f negative (m * n * twoPow (e + d)) (twoPow (-(e + d)))
  | _, _ => .infinite negative

end DeclaredTriggers.Decimal

namespace DeclaredTriggers.Json

open Decimal (Binary)

/-- The least number too large for a significand. -/
def significandLimit : Nat := Nat.pow 2 64

/-- A significand with digits appended for as long as it stays below the limit, and the digits
left out. -/
def takeDigits (significand : Nat) : List Char → Nat × List Char
  | [] => (significand, [])
  | d :: ds =>
    let next := significand * 10 + (d.toNat - '0'.toNat)
    if next < significandLimit then takeDigits next ds else (significand, d :: ds)

/-- The greatest power of ten that a number of the 64-bit format reaches. -/
def maxPower : Int := 308

/-- `significand · 10 ^ exponent`, where a power that is not negative is rounded before it is
multiplied and one out of the format's range has an infinite product. -/
def scaled (negative : Bool) (significand : Nat) (exponent : Int) : Binary :=
  if significand = 0 || exponent < 0 then .ofDecimal .double negative significand exponent
  else if maxPower < exponent then .infinite negative
  else
    .magnitudeTimes .double negative (.ofDecimal .double false significand 0)
      (.ofDecimal .double false 1 exponent)

/-- The number of a sign, the digits on both sides of the point and an exponent. A digit of the
whole part that does not fit is worth a power of ten. -/
def numberOf (negative : Bool) (whole fraction : List Char) (exponent : Int) : Binary :=
  let (significand, left) := takeDigits 0 whole
  let (significand, unread) := takeDigits significand fraction
  scaled negative significand
    (exponent + left.length - ((fraction.length - unread.length : Nat) : Int))

end DeclaredTriggers.Json
