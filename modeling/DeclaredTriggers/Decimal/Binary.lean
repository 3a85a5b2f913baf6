/-!
# Binary floating-point numbers

A number of the binary64 format as a value: a sign, a whole significand and a power of two. The
finite ones are kept in one normal form, so two of them stand for the same number only if they
are equal or both are zero. `ofDecimal` is the number nearest to a decimal one, a tie going to
the even significand.
-/

namespace DeclaredTriggers.Decimal

/-- A binary format: how many bits a significand has, and the least and greatest power of two. -/
structure Format where
  bits : Nat
  minExponent : Int
  maxExponent : Int

/-- The least significand with all its bits in use. -/
def Format.leading (f : Format) : Nat := Nat.pow 2 (f.bits - 1)

/-- The least number with too many bits for a significand. -/
def Format.limit (f : Format) : Nat := Nat.pow 2 f.bits

/-- The 64-bit format. -/
def Format.double : Format := ⟨53, -1074, 971⟩

/-- The 32-bit format. -/
def Format.single : Format := ⟨24, -149, 104⟩

/-- A floating-point number; `finite s m e` stands for `m · 2 ^ e`, negated if `s`. -/
inductive Binary where
  | nan
  | infinite (negative : Bool)
  | finite (negative : Bool) (significand : Nat) (exponent : Int)
  deriving DecidableEq, Inhabited

namespace Binary

/-- Equality of the numbers: the two zeros are one number, and a NaN is not even itself. -/
def same : Binary → Binary → Bool
  | .nan, _ | _, .nan => false
  | .finite _ 0 _, .finite _ 0 _ => true
  | a, b => a = b

/-- Whether a number is neither infinite nor a NaN. -/
def isFinite : Binary → Bool
  | .finite .. => true
  | _ => false

/-- `num / den` rounded to a whole number, a tie going to the even one. -/
def roundEven (num den : Nat) : Nat :=
  let q := num / den
  let r := num % den
  if 2 * r < den then q else if den < 2 * r then q + 1 else if q % 2 = 0 then q else q + 1

/-- `2 ^ n` for a power that is not negative, else one. -/
def twoPow (n : Int) : Nat := Nat.pow 2 n.toNat

/-- `10 ^ n` for a power that is not negative, else one. -/
def tenPow (n : Int) : Nat := Nat.pow 10 n.toNat

/-- The finite number `m · 2 ^ e` with as many bits in the significand as the format takes. -/
def normalized (f : Format) (negative : Bool) (m : Nat) (e : Int) : Binary :=
  if m = 0 then .finite negative 0 f.minExponent
  else
    let room : Int := f.bits - 1 - m.log2
    let shift := min room (e - f.minExponent)
    .finite negative (m * twoPow shift) (e - max shift 0)

/-- The number of the format nearest to `num / den`, a positive fraction. -/
def ofFraction (f : Format) (negative : Bool) (num den : Nat) : Binary :=
  let rough : Int := (num.log2 : Int) - den.log2 - f.bits
  let exact (e : Int) : Nat × Nat := (num * twoPow (-e), den * twoPow e)
  let e :=
    if (exact rough).1 / (exact rough).2 < f.limit then rough else rough + 1
  let e := max e f.minExponent
  let m := roundEven (exact e).1 (exact e).2
  let (m, e) := if m = f.limit then (f.leading, e + 1) else (m, e)
  if f.maxExponent < e then .infinite negative else .finite negative m e

/-- The number of the format nearest to `digits · 10 ^ exponent`. -/
def ofDecimal (f : Format) (negative : Bool) (digits : Nat) (exponent : Int) : Binary :=
  if digits = 0 then .finite negative 0 f.minExponent
  else
    let magnitude := exponent + (digits.log2 : Int) / 3
    if 400 < exponent then .infinite negative
    else if magnitude + 1 < -400 then .finite negative 0 f.minExponent
    else ofFraction f negative (digits * tenPow exponent) (tenPow (-exponent))

/-- A number of a smaller format as one of the 64-bit format. -/
def widened : Binary → Binary
  | .finite s m e => normalized .double s m e
  | b => b

end Binary

end DeclaredTriggers.Decimal
