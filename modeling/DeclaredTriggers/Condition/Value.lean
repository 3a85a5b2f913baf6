import DeclaredTriggers.Sql.Quoting

/-!
# Literal values

The values a row field can be compared with, and how each is written as a literal.
-/

namespace DeclaredTriggers

open Decimal (Binary)

/-- A value known when the trigger is declared. -/
inductive Value where
  | null
  | bool (b : Bool)
  | int (i : Int)
  | float (x : Binary)
  | text (s : String)
  deriving Inhabited

namespace Value

/-- The value as a literal. Infinite numbers and NaNs have none, nor have texts with a NUL. -/
def sql : Value → Except Error String
  | .null => pure "NULL"
  | .bool b => pure (if b then "true" else "false")
  | .int i => pure (toString i)
  | .float x => if x.isFinite then pure x.text else throw (.definition (.notFinite x))
  | .text s => Sql.quoteLiteral s

/-- Equality of values; numbers are compared as numbers. -/
def same : Value → Value → Bool
  | .null, .null => true
  | .bool a, .bool b => a = b
  | .int a, .int b => a = b
  | .float a, .float b => a.same b
  | .text a, .text b => a = b
  | _, _ => false

end Value

end DeclaredTriggers
