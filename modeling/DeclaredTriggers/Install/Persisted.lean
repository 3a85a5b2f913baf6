import DeclaredTriggers.Install.Compiled
import DeclaredTriggers.Json.Reader

/-!
# Persisted triggers

Compiled triggers are kept as JSON documents, and handed to migration tools. A document holds the
name and, under `sql`, the template's version, the parameters that are set and the hash.
`CompiledTrigger.ofJson` reads it whatever the order of the members, passes over members it does
not know, and refuses one that it knows twice.
-/

namespace DeclaredTriggers

/-- The name of a template in documents. -/
def TemplateVersion.name : TemplateVersion → String
  | .v1 => "V1"

namespace InstallParams

/-- A parameter that has to be set, and its name in documents. -/
def requiredNames : List String := ["pgid", "func", "table", "when", "operation"]

/-- The names in documents of all parameters. -/
def allNames : List String := [
  "ignore_func_name", "pgid", "declare", "func", "table", "constraint", "when", "operation",
  "timing", "referencing", "level", "condition", "execute"]

/-- The parameters under their names in documents. -/
def named (p : InstallParams) : List (String × Option String) := [
  ("ignore_func_name", p.ignoreFuncName), ("pgid", some p.pgid), ("declare", p.declare),
  ("func", some p.func), ("table", some p.table), ("constraint", p.constraint),
  ("when", some p.moment), ("operation", some p.operation), ("timing", p.timing),
  ("referencing", p.referencing), ("level", p.level), ("condition", p.condition),
  ("execute", p.execute)]

end InstallParams

namespace CompiledTrigger

/-- The members of the `sql` object. -/
def sqlMembers (c : CompiledTrigger) : List (Option String × Json) :=
  (some "version", .text (some c.sql.version.name)) ::
    (c.sql.params.named.filterMap fun (name, value) =>
      value.map fun v => (some name, .text (some v))) ++
    [(some "hash", .text (some c.sql.hash))]

/-- The document of a compiled trigger. -/
def json (c : CompiledTrigger) : Json :=
  .object [(some "name", .text (some c.name)), (some "sql", .object c.sqlMembers)]

/-- The text of a compiled trigger's document. -/
def toJson (c : CompiledTrigger) : String := String.ofList c.json.print

/-- How many containers a document may go deep. -/
def maxDepth : Nat := 127

/-- The value of a member, which must not occur twice; absent, it is none. -/
def member? (members : List (Option String × Json)) (name : String) : Option (Option Json) :=
  match members.filter (·.1 = some name) with
  | [] => some none
  | [(_, v)] => some (some v)
  | _ => none

/-- A member that has to be there and has to be a text. -/
def requiredText? (members : List (Option String × Json)) (name : String) : Option String :=
  match member? members name with
  | some (some (.text s)) => s
  | _ => none

/-- A member that may be left out or null, and is a text otherwise. -/
def optionalText? (members : List (Option String × Json)) (name : String) :
    Option (Option String) :=
  match member? members name with
  | some none | some (some .null) => some none
  | some (some (.text (some s))) => some (some s)
  | _ => none

/-- The template that a document names; left out, it is the first. -/
def version? (members : List (Option String × Json)) : Option TemplateVersion :=
  match member? members "version" with
  | some none => some .v1
  | some (some (.text (some "V1"))) => some .v1
  | some (some (.object [(some "V1", .null)])) => some .v1
  | _ => none

/-- The parameters among the members of a document. -/
def params? (members : List (Option String × Json)) : Option InstallParams := do
  let ignoreFuncName ← optionalText? members "ignore_func_name"
  let pgid ← requiredText? members "pgid"
  let declare ← optionalText? members "declare"
  let func ← requiredText? members "func"
  let table ← requiredText? members "table"
  let constraint ← optionalText? members "constraint"
  let moment ← requiredText? members "when"
  let operation ← requiredText? members "operation"
  let timing ← optionalText? members "timing"
  let referencing ← optionalText? members "referencing"
  let level ← optionalText? members "level"
  let condition ← optionalText? members "condition"
  let execute ← optionalText? members "execute"
  pure { ignoreFuncName, pgid, declare, func, table, constraint, moment, operation, timing,
         referencing, level, condition, execute }

/-- The statements that a document's `sql` object spells. Its values have to be sound even where
they are not known. -/
def installSql? : Json → Option InstallSql
  | .object members => do
    let version ← version? members
    let params ← params? members
    let hash ← requiredText? members "hash"
    if Json.membersSound members && Json.depthOfMembers members + 2 ≤ maxDepth then
      pure ⟨version, params, hash⟩
    else none
  | _ => none

/-- The compiled trigger of a document; the two members may also come as an array. -/
def ofDocument? : Json → Option CompiledTrigger
  | .object members => do
    let name ← requiredText? members "name"
    let sql ← (← member? members "sql")
    let sql ← installSql? sql
    if members.all (·.1.isSome) then pure ⟨name, sql⟩ else none
  | .array [.text (some name), sql] => do
    let sql ← installSql? sql
    pure ⟨name, sql⟩
  | _ => none

/-- The compiled trigger that a text spells. -/
def ofJson (text : String) : Except Error CompiledTrigger :=
  match (Json.parse? text).bind ofDocument? with
  | some c => pure c
  | none => throw .invalidCompiled

end CompiledTrigger

/-- A migration: a number, a name and the statements to run. -/
structure Migration where
  number : Nat
  name : String
  sql : String
  deriving DecidableEq

/-- The greatest number a migration can have. -/
def maxMigrationNumber : Nat := 2147483647

/-- How a migration is listed. -/
def Migration.display (m : Migration) : String := s!"V{m.number}__{m.name}"

namespace CompiledTrigger

/-- A label and the trigger's name in small letters, with an underscore for anything that is
neither letter nor digit. -/
def slug (c : CompiledTrigger) (label : String) : String :=
  String.ofList <| (label ++ "_" ++ c.name).toList.map fun x =>
    if x.isAlphanum then x.toLower else '_'

/-- The migrations that install and uninstall a trigger. -/
def migrations (c : CompiledTrigger) (number : Int) (label : String) :
    Except Error (Migration × Migration) :=
  if 0 ≤ number && number ≤ maxMigrationNumber then
    pure (⟨number.toNat, "install_" ++ c.slug label, c.installSql⟩,
      ⟨number.toNat, "uninstall_" ++ c.slug label, c.uninstallSql⟩)
  else throw .migration

end CompiledTrigger

end DeclaredTriggers
