import DeclaredTriggers.Text.Hexadecimal

/-!
# Percent-coded texts

Inside a URL a percent sign and two hexadecimal digits stand for a byte. A percent sign without
them stands for itself, as every other character does.
-/

namespace DeclaredTriggers.Text

/-- The byte of two hexadecimal digits. -/
def hexPair? (a b : Char) : Option UInt8 := do
  let a ← hexDigit? a
  let b ← hexDigit? b
  pure (UInt8.ofNat (a * 16 + b))

/-- The bytes that a percent-coded text stands for. -/
def percentBytes : List Char → List UInt8
  | '%' :: a :: b :: rest =>
    match hexPair? a b with
    | some byte => byte :: percentBytes rest
    | none => String.utf8EncodeChar '%' ++ percentBytes (a :: b :: rest)
  | c :: rest => String.utf8EncodeChar c ++ percentBytes rest
  | [] => []

/-- The text that a percent-coded one stands for, if its bytes are the UTF-8 form of one. -/
def percentText? (s : List Char) : Option String := String.fromUTF8? ⟨(percentBytes s).toArray⟩

/-- Whether a percent-coded text begins with a slash, coded or not. -/
def beginsWithSlash (s : List Char) : Bool :=
  (percentBytes s).head? = some (UInt8.ofNat '/'.toNat)

end DeclaredTriggers.Text
