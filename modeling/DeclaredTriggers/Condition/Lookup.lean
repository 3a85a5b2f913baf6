import DeclaredTriggers.Condition.Value
import DeclaredTriggers.Entity

/-!
# Lookups

A lookup compares a field of the old or the new row with an operand. Its key spells the row, the
field and, optionally, the kind of comparison, joined by double underscores: `old__price__gt`.
`Lookup.decode` reads the key, and `Lookup.sql` writes the comparison.
-/

namespace DeclaredTriggers

open Text (strip? splitLast? occurs replaced)

/-- One of the two rows a row trigger sees. -/
inductive Row where
  | old
  | new
  deriving DecidableEq

/-- The name of the row in SQL. -/
def Row.sql : Row → String
  | .old => "OLD"
  | .new => "NEW"

/-- What a key begins with when it speaks of this row. -/
def Row.lead : Row → String
  | .old => "old__"
  | .new => "new__"

/-- The row that a key speaks of, and the rest of the key. -/
def Row.split (reference : String) : Except Error (Row × String) :=
  match strip? Row.old.lead.toList reference.toList with
  | some rest => pure (.old, String.ofList rest)
  | none =>
    match strip? Row.new.lead.toList reference.toList with
    | some rest => pure (.new, String.ofList rest)
    | none => throw (.invalidReference reference)

/-- The column of a field, or the error that names the field. -/
def Entity.column (e : Entity) (field : String) : Except Error String :=
  match e.column? field with
  | some column => pure column
  | none => throw (.unknownField e.label field)

/-- The column of a field in one of the rows. -/
def Row.column (r : Row) (e : Entity) (field : String) : Except Error String := do
  let column ← e.column field
  pure (r.sql ++ "." ++ Sql.quoteName column)

/-- What a field is compared with. -/
inductive Operand where
  | value (v : Value)
  | values (vs : List Value)
  /-- A field of one of the rows, such as `new__status`. -/
  | field (reference : String)

/-- Equality of operands. -/
def Operand.same : Operand → Operand → Bool
  | .value a, .value b => a.same b
  | .values a, .values b => a.length = b.length && (a.zip b).all fun (x, y) => x.same y
  | .field a, .field b => a = b
  | _, _ => false

/-- How a text is looked for. -/
inductive TextMatch where
  | contains
  | containsAnyCase
  | startsWith
  | endsWith
  deriving DecidableEq

/-- Comparisons with one operand. -/
inductive Relation where
  | equal
  | greater
  | greaterOrEqual
  | less
  | lessOrEqual
  | distinct
  | notDistinct
  deriving DecidableEq

/-- The comparison in SQL. -/
def Relation.sql : Relation → String
  | .equal => "="
  | .greater => ">"
  | .greaterOrEqual => ">="
  | .less => "<"
  | .lessOrEqual => "<="
  | .distinct => "IS DISTINCT FROM"
  | .notDistinct => "IS NOT DISTINCT FROM"

/-- The kinds of comparison a key can name. -/
inductive LookupKind where
  | relation (r : Relation)
  | oneOf
  | isNull
  | text (m : TextMatch)
  deriving DecidableEq

/-- The suffixes a key can end in, and what each asks for. -/
def LookupKind.table : List (String × LookupKind) := [
  ("exact", .relation .equal), ("gt", .relation .greater), ("gte", .relation .greaterOrEqual),
  ("lt", .relation .less), ("lte", .relation .lessOrEqual), ("in", .oneOf), ("isnull", .isNull),
  ("contains", .text .contains), ("icontains", .text .containsAnyCase),
  ("startswith", .text .startsWith), ("endswith", .text .endsWith),
  ("df", .relation .distinct), ("ndf", .relation .notDistinct)]

/-- The kind of comparison a suffix names. -/
def LookupKind.ofSuffix? (suffix : String) : Option LookupKind := LookupKind.table.lookup suffix

/-- One comparison: a key and its operand. -/
structure Lookup where
  key : String
  operand : Operand

namespace Lookup

/-- Equality of lookups. -/
def same (a b : Lookup) : Bool := a.key = b.key && a.operand.same b.operand

/-- The field and the kind of comparison in what follows a key's row. Without a known suffix the
field is all of it, and the comparison is equality. -/
def fieldAndKind (rest : String) : String × LookupKind :=
  match splitLast? ['_', '_'] rest.toList with
  | some (field, suffix) =>
    match LookupKind.ofSuffix? (String.ofList suffix) with
    | some kind => (String.ofList field, kind)
    | none => (rest, .relation .equal)
  | none => (rest, .relation .equal)

/-- What a key spells: the row, the field and the kind of comparison. -/
def decode (key : String) : Except Error (Row × String × LookupKind) := do
  let (row, rest) ← Row.split key
  pure (row, fieldAndKind rest)

/-- A text with the characters escaped that a pattern gives a meaning to. -/
def escapedPattern (text : List Char) : List Char :=
  replaced '_' ['\\', '_'] (replaced '%' ['\\', '%'] (replaced '\\' ['\\', '\\'] text))

/-- The pattern that looks for a text. -/
def TextMatch.pattern (m : TextMatch) (text : String) : String :=
  let escaped := escapedPattern text.toList
  String.ofList <| match m with
    | .startsWith => escaped ++ ['%']
    | .endsWith => '%' :: escaped
    | .contains | .containsAnyCase => '%' :: escaped ++ ['%']

/-- An operand that is one value or one field. -/
def operandSql (e : Entity) (key : String) : Operand → Except Error String
  | .field reference => do
    let (row, field) ← Row.split reference
    row.column e field
  | .value v => v.sql
  | .values _ => throw (.definition (.refusesList key))

/-- The comparison of `left` with an operand. -/
def comparison (e : Entity) (key left : String) : LookupKind → Operand → Except Error String
  | .relation .equal, .value .null => pure (left ++ " IS NULL")
  | .isNull, .value (.bool true) => pure (left ++ " IS NULL")
  | .isNull, .value (.bool false) => pure (left ++ " IS NOT NULL")
  | .isNull, _ => throw (.definition (.needsBoolean key))
  | .oneOf, .values [] => throw (.definition (.needsSomeValue key))
  | .oneOf, .values vs => do
    let items ← vs.mapM Value.sql
    pure (left ++ " IN (" ++ ", ".intercalate items ++ ")")
  | .oneOf, _ => throw (.definition (.needsList key))
  | .text m, .value (.text t) => do
    let pattern ← Sql.quoteLiteral (TextMatch.pattern m t)
    if m = .containsAnyCase then
      pure ("UPPER(" ++ left ++ "::text) LIKE UPPER(" ++ pattern ++ ")")
    else pure (left ++ "::text LIKE " ++ pattern)
  | .text _, _ => throw (.definition (.needsText key))
  | .relation r, operand => do
    let right ← operandSql e key operand
    pure (left ++ " " ++ r.sql ++ " " ++ right)

/-- The comparison that a lookup asks for. The field is looked up before the operand is read. -/
def sql (l : Lookup) (e : Entity) : Except Error String := do
  let (row, field, kind) ← decode l.key
  if occurs ['_', '_'] field.toList then throw (.unknownField e.label field)
  let left ← row.column e field
  comparison e l.key left kind l.operand

end Lookup

end DeclaredTriggers
