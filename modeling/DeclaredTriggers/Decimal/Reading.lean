import DeclaredTriggers.Decimal.Binary

/-!
# Reading a number

`Binary.ofText?` reads a decimal text as the nearest number of a format. A text is a sign, which
may be missing, and digits, perhaps with a point and an exponent, or a word for infinity or for no
number.
-/

namespace DeclaredTriggers.Decimal

/-- The number that digits spell. -/
def digitsValue (ds : List Char) : Nat :=
  ds.foldl (fun n d => n * 10 + (d.toNat - '0'.toNat)) 0

/-- Whether a text begins with a minus, and what follows its sign. -/
def readSign : List Char → Bool × List Char
  | '-' :: rest => (true, rest)
  | '+' :: rest => (false, rest)
  | s => (false, s)

/-- The exponent behind its letter; none is zero. -/
def readExponent? : List Char → Option Int
  | [] => some 0
  | _ :: s =>
    let (negative, ds) := readSign s
    if ds.isEmpty || !ds.all Char.isDigit then none
    else some (if negative then -(digitsValue ds : Int) else digitsValue ds)

/-- The number of a format nearest to the one that digits spell, if they do. -/
def Binary.ofDigits? (f : Format) (negative : Bool) (s : List Char) : Option Binary := do
  let (mantissa, exponent) := s.span (· ≠ 'e')
  let (whole, point) := mantissa.span (· ≠ '.')
  let fraction := point.drop 1
  let exponent ← readExponent? exponent
  let digits := whole ++ fraction
  if digits.isEmpty || !digits.all Char.isDigit then none
  else some (ofDecimal f negative (digitsValue digits) (exponent - fraction.length))

/-- The number of a format nearest to the one that a text spells, in any letter case. -/
def Binary.ofText? (f : Format) (text : String) : Option Binary :=
  let (negative, s) := readSign (text.toList.map Char.toLower)
  if s = "nan".toList then some .nan
  else if s = "inf".toList || s = "infinity".toList then some (.infinite negative)
  else Binary.ofDigits? f negative s

end DeclaredTriggers.Decimal
