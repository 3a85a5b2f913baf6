/-!
# Entities and routers

An entity is a logical table: a label, the table behind it, its key column and its fields. That
is all a trigger asks about. A router says which database an entity is written to and whether its
triggers may be installed there.
-/

namespace DeclaredTriggers

/-- How a field is stored. -/
inductive FieldKind where
  | scalar
  /-- A reference to another entity, compared by its key column. -/
  | foreignKey
  deriving DecidableEq

/-- One field of an entity. -/
structure Field where
  name : String
  column : String := name
  kind : FieldKind := .scalar
  /-- Kept up to date on every write by the application or the database. -/
  auto : Bool := false
  deriving DecidableEq

/-- A reference to another entity; its column is the name with `_id` after it. -/
def Field.reference (name : String) : Field :=
  { name, column := name ++ "_id", kind := .foreignKey }

/-- A logical table. -/
structure Entity where
  /-- What the entity is called in trigger URIs. -/
  label : String
  table : String
  primaryKey : String := "id"
  fields : List Field := []
  /-- The database the entity is pinned to. -/
  database : Option String := none
  deriving DecidableEq

namespace Entity

/-- The field of that name, else the field with a column of that name. -/
def field? (e : Entity) (name : String) : Option Field :=
  (e.fields.find? (·.name = name)).or (e.fields.find? (·.column = name))

/-- The column behind a field name; `pk` is the key column. -/
def column? (e : Entity) (name : String) : Option String :=
  if name = "pk" then some e.primaryKey else (e.field? name).map (·.column)

/-- The names of the fields, in order. -/
def fieldNames (e : Entity) : List String := e.fields.map (·.name)

/-- The fields kept up to date on every write. -/
def autoFields (e : Entity) : List Field := e.fields.filter (·.auto)

/-- A field that is found has the name asked for, or a column of that name. -/
theorem name_or_column_of_field? {e : Entity} {name : String} {f : Field}
    (h : e.field? name = some f) : f ∈ e.fields ∧ (f.name = name ∨ f.column = name) := by
  rcases Option.or_eq_some_iff.1 h with h | ⟨-, h⟩
  · exact ⟨List.mem_of_find?_eq_some h, .inl (by simpa using List.find?_some h)⟩
  · exact ⟨List.mem_of_find?_eq_some h, .inr (by simpa using List.find?_some h)⟩

end Entity

/-- The database alias in use where nothing else is said. -/
def defaultDatabase : String := "default"

/-- Where entities are written, and where their triggers may be installed. -/
structure Router where
  /-- The database an entity is written to; none is the default one. -/
  databaseForWrite : Entity → Option String
  /-- Whether an entity's triggers may be installed on a database. -/
  allows : String → Entity → Bool

/-- Each entity is written to the database it is pinned to, and may be installed anywhere. -/
def Router.standard : Router := ⟨Entity.database, fun _ _ => true⟩

/-- The database an entity's triggers live in. -/
def Router.database (r : Router) (e : Entity) : String :=
  (r.databaseForWrite e).getD defaultDatabase

end DeclaredTriggers
