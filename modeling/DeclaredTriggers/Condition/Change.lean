import DeclaredTriggers.Condition.Lookup

/-!
# Change predicates

A change predicate compares the old and the new row field by field: some field, every field, or
no field of a selection is distinct. Comparing all fields of a row for any change is written as
one comparison of the whole rows.
-/

namespace DeclaredTriggers

/-- Which fields must have changed. -/
inductive ChangeKind where
  /-- At least one field is distinct. -/
  | any
  /-- Every field is distinct. -/
  | all
  /-- At least one field is not distinct. -/
  | anyNot
  /-- No field is distinct. -/
  | allNot
  deriving DecidableEq

/-- The suffix of each comparison. -/
def ChangeKind.suffix : ChangeKind → String
  | .any | .all => "df"
  | .anyNot | .allNot => "ndf"

/-- The word between the comparisons. -/
def ChangeKind.joiner : ChangeKind → String
  | .any | .anyNot => " OR "
  | .all | .allNot => " AND "

/-- A predicate on what changed between the two rows. -/
structure Change where
  kind : ChangeKind
  /-- The fields to compare; none stands for all. -/
  fields : List String := []
  exclude : List String := []
  excludeAuto : Bool := false
  deriving DecidableEq

/-- One text as it is, more of them joined between parentheses. -/
def grouped (joiner : String) : List String → String
  | [part] => part
  | parts => "(" ++ joiner.intercalate parts ++ ")"

namespace Change

/-- Whether a list of names holds a field's name or column. -/
def names (ns : List String) (f : Field) : Bool := ns.any fun n => n = f.name || n = f.column

/-- Whether the predicate compares a field. -/
def selects (c : Change) (f : Field) : Bool :=
  (c.fields.isEmpty || names c.fields f) && !names c.exclude f && !(c.excludeAuto && f.auto)

/-- The names of the fields that are compared, in the order of the entity. -/
def fieldNames (c : Change) (e : Entity) : Except Error (List String) :=
  match (c.fields ++ c.exclude).find? fun n => (e.field? n).isNone with
  | some n => throw (.unknownField e.label n)
  | none =>
    let selected := (e.fields.filter c.selects).map (·.name)
    if selected.isEmpty then throw (.definition (.noFieldSelected e.label)) else pure selected

/-- The comparison of one field between the rows. -/
def comparison (c : Change) (e : Entity) (name : String) : Except Error String :=
  Lookup.sql ⟨"old__" ++ name ++ "__" ++ c.kind.suffix, .field ("new__" ++ name)⟩ e

/-- The predicate in SQL. -/
def sql (c : Change) (e : Entity) : Except Error String := do
  let selected ← c.fieldNames e
  if c.kind = .any && selected.length = e.fields.length then
    pure "OLD.* IS DISTINCT FROM NEW.*"
  else
    let parts ← selected.mapM (c.comparison e)
    pure (grouped c.kind.joiner parts)

end Change

end DeclaredTriggers
