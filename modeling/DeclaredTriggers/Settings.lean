import DeclaredTriggers.Sql.Identifier

/-!
# Settings

The three things a project can set: the schema of the function that compiled triggers ask, whether
a bulk run prunes afterwards, and whether triggers are installed after the host's migrations.
-/

namespace DeclaredTriggers

/-- The settings of a project. -/
structure Settings where
  /-- The schema of the function that compiled triggers ask. -/
  schema : String := "public"
  /-- Prune triggers nobody registered after a bulk run. -/
  pruneOnInstall : Bool := true
  /-- Install triggers after the host's migrations. -/
  installOnMigrate : Bool := false
  deriving DecidableEq, Inhabited

/-- What is wrong with settings: the schema has to be one identifier. -/
def Settings.fault? (s : Settings) : Option SettingsFault :=
  match Sql.Identifier.parse s.schema with
  | .error fault => some (.schema s.schema fault)
  | .ok i => if i.parts.length = 1 then none else some (.schemaParts s.schema)

/-- The settings, if nothing is wrong with them. -/
def Settings.checked (s : Settings) : Except Error Settings :=
  match s.fault? with
  | some fault => throw (.config fault)
  | none => pure s

end DeclaredTriggers
