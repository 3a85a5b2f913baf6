import DeclaredTriggers.Entity
import DeclaredTriggers.Text.Search
import DeclaredTriggers.Text.SnakeCase

/-!
# Entities described by structs

An entity can be read off the declaration of a struct: the label and the table from its name, the
fields from its fields. Attributes named `entity` say what the names do not. The first thing wrong,
in the order of the declaration, is what is reported, with the struct's own attributes before its
shape.
-/

namespace DeclaredTriggers.Derive

/-- What stands behind a key in an attribute. -/
inductive AttributeValue where
  | none
  | text (s : String)
  /-- A literal that is no text. -/
  | literal
  deriving DecidableEq

/-- An attribute: its path and, in order, its keys and their values. -/
structure Attribute where
  path : String
  items : List (String × AttributeValue)

/-- The shape of a declaration. -/
inductive Shape where
  /-- A struct with named fields. -/
  | named
  /-- A struct with numbered fields, or with none. -/
  | unnamed
  /-- No struct. -/
  | other
  deriving DecidableEq

/-- A field of a struct. -/
structure StructField where
  name : String
  attributes : List Attribute

/-- A declaration. -/
structure Declaration where
  name : String
  shape : Shape
  attributes : List Attribute
  fields : List StructField

/-- Why a declaration describes no entity. -/
inductive Fault where
  | structKey
  | fieldKey
  | missingValue
  | unexpectedValue
  | noText
  | emptyValue
  | noStruct
  | unnamedFields
  | secondKey
  | skipCombined
  deriving DecidableEq

def Fault.message : Fault → String
  | .structKey => "expected `table`, `app` or `database`"
  | .fieldKey => "expected `id`, `column`, `fk`, `auto` or `skip`"
  | .missingValue => "expected `=`"
  | .unexpectedValue => "expected `,`"
  | .noText => "expected string literal"
  | .emptyValue => "value must not be empty"
  | .noStruct => "Entity can only be derived for structs"
  | .unnamedFields => "Entity can only be derived for structs with named fields"
  | .secondKey => "Entity allows only one #[entity(id)] field"
  | .skipCombined => "`skip` cannot be combined with other entity attributes"

/-- A value that has to be a text. -/
def AttributeValue.asText : AttributeValue → Except Fault String
  | .text s => pure s
  | .none => throw .missingValue
  | .literal => throw .noText

/-- A value that has to be left out. -/
def AttributeValue.absent : AttributeValue → Except Fault Unit
  | .none => pure ()
  | _ => throw .unexpectedValue

/-- The keys and values of the attributes that are ours, in order. -/
def ownItems (attributes : List Attribute) : List (String × AttributeValue) :=
  (attributes.filter (·.path = "entity")).flatMap (·.items)

/-- What a struct's attributes say. -/
structure EntityOptions where
  table : Option String := none
  app : Option String := none
  database : Option String := none

/-- A value that has to be a text with something in it. -/
def someText (v : AttributeValue) : Except Fault String := do
  let s ← v.asText
  if s.isEmpty then throw .emptyValue
  pure s

/-- The options after one more key. -/
def EntityOptions.add (o : EntityOptions) :
    String × AttributeValue → Except Fault EntityOptions
  | ("table", v) => do pure { o with table := some (← someText v) }
  | ("app", v) => do pure { o with app := some (← someText v) }
  | ("database", v) => do pure { o with database := some (← someText v) }
  | _ => throw .structKey

/-- What a field's attributes say. -/
structure FieldOptions where
  isKey : Bool := false
  column : Option String := none
  isReference : Bool := false
  isAuto : Bool := false
  skip : Bool := false

/-- The options after one more key. -/
def FieldOptions.add (o : FieldOptions) : String × AttributeValue → Except Fault FieldOptions
  | ("id", v) => do v.absent; pure { o with isKey := true }
  | ("fk", v) => do v.absent; pure { o with isReference := true }
  | ("auto", v) => do v.absent; pure { o with isAuto := true }
  | ("skip", v) => do v.absent; pure { o with skip := true }
  | ("column", v) => do pure { o with column := some (← v.asText) }
  | _ => throw .fieldKey

/-- What a field's attributes say together; a field that is skipped can say nothing else. -/
def FieldOptions.of (f : StructField) : Except Fault FieldOptions := do
  let o ← (ownItems f.attributes).foldlM FieldOptions.add {}
  if o.skip && (o.isKey || o.isReference || o.isAuto || o.column.isSome) then throw .skipCombined
  pure o

/-- A name without the mark that lets a keyword be a name. -/
def plainName (name : String) : String :=
  match Text.strip? ['r', '#'] name.toList with
  | some rest => String.ofList rest
  | none => name

/-- The field that a struct's field describes. -/
def fieldOf (f : StructField) (o : FieldOptions) : Field :=
  let name := plainName f.name
  let field := if o.isReference then Field.reference name else { name }
  { field with column := o.column.getD field.column, auto := o.isAuto }

/-- The entity after one more field, and whether its key column is settled. -/
def addField (e : Entity × Bool) (f : StructField) : Except Fault (Entity × Bool) := do
  let (e, settled) := e
  let o ← FieldOptions.of f
  if o.skip then pure (e, settled)
  else
    let field := fieldOf f o
    let e := { e with fields := e.fields ++ [field] }
    if o.isKey then
      if settled then throw .secondKey
      pure ({ e with primaryKey := field.column }, true)
    else pure (e, settled)

/-- The entity that a declaration describes. -/
def entity (d : Declaration) : Except Fault Entity := do
  let options ← (ownItems d.attributes).foldlM EntityOptions.add {}
  match d.shape with
  | .other => throw .noStruct
  | .unnamed => throw .unnamedFields
  | .named =>
    let name := plainName d.name
    let start : Entity :=
      { label := options.app.elim name (· ++ "." ++ name)
        table := options.table.getD (Text.snakeCase name)
        database := options.database }
    let (e, _) ← d.fields.foldlM addField (start, false)
    pure e

end DeclaredTriggers.Derive
