import DeclaredTriggers.Command.Expansion
import DeclaredTriggers.Entity
import DeclaredTriggers.Settings.Document
import DeclaredTriggers.Text.Blank

/-!
# Configurations

A configuration holds the settings and the databases that commands connect to. It is written in
TOML, its texts may refer to variables of the environment, and each database has a name of its own.
-/

namespace DeclaredTriggers.Command

/-- A database that commands connect to. -/
structure Database where
  name : String
  /-- The connection string. -/
  url : String
  deriving DecidableEq

/-- The settings and the databases that commands connect to. -/
structure Configuration where
  settings : Settings := {}
  databases : List Database
  deriving DecidableEq

/-- Why a document holds no configuration. -/
inductive ConfigurationFault where
  | malformed
  | expansion (fault : ExpansionFault)
  | settings (fault : SettingsFault)
  | noDatabase
  | unnamed
  | repeatedName (name : String)
  | noUrl (name : String)
  deriving DecidableEq

def ConfigurationFault.message : ConfigurationFault → String
  | .malformed => "TOML parse error"
  | .expansion fault => fault.message
  | .settings fault => (Error.config fault).message
  | .noDatabase => "at least one [[databases]] entry is required"
  | .unnamed => "databases.name must not be empty"
  | .repeatedName name => s!"duplicate databases.name: {name}"
  | .noUrl name => s!"databases.url must not be empty (database: {name})"

/-- The database that a value describes. -/
def Database.ofToml? (v : Toml) : Option Database := do
  match ← v.parts? ["name", "url"] with
  | [some name, some url] => pure { name := ← name.asText?, url := ← url.asText? }
  | _ => none

/-- A database with its texts expanded. -/
def Database.expanded (env : Environment) (d : Database) : Except ExpansionFault Database := do
  pure { name := ← expand env d.name, url := ← expand env d.url }

namespace Configuration

/-- The configuration that a value describes. -/
def ofToml? (v : Toml) : Option Configuration := do
  match ← v.parts? ["settings", "databases"] with
  | [settings, some databases] =>
    pure {
      settings := ← settings.elim (some {}) Settings.ofToml?
      databases := ← (← databases.asList?).mapM Database.ofToml? }
  | _ => none

/-- A configuration with its texts expanded, those of the databases first. -/
def expanded (env : Environment) (c : Configuration) : Except ExpansionFault Configuration := do
  let databases ← c.databases.mapM (·.expanded env)
  let schema ← expand env c.settings.schema
  pure { settings := { c.settings with schema }, databases }

/-- What is wrong with databases, if those before have the given names. -/
def databasesFault? (before : List String) : List Database → Option ConfigurationFault
  | [] => none
  | d :: rest =>
    if Text.isBlankText d.name then some .unnamed
    else if before.contains d.name then some (.repeatedName d.name)
    else if Text.isBlankText d.url then some (.noUrl d.name)
    else databasesFault? (d.name :: before) rest

/-- What is wrong with a configuration, its settings first. -/
def fault? (c : Configuration) : Option ConfigurationFault :=
  (c.settings.fault?.map .settings).or
    (if c.databases.isEmpty then some .noDatabase else databasesFault? [] c.databases)

/-- The configuration of a document. -/
def read (env : Environment) (document : String) : Except ConfigurationFault Configuration := do
  let some c := (Toml.parse? document).bind ofToml? | throw .malformed
  let c ← (c.expanded env).mapError .expansion
  match c.fault? with
  | some fault => throw fault
  | none => pure c

/-- The configuration of a project that has none: one database, at a variable's connection
string. -/
def ofUrl (url : String) : Configuration := { databases := [⟨defaultDatabase, url⟩] }

/-- The database with a name. -/
def find? (c : Configuration) (name : String) : Option Database :=
  c.databases.find? (·.name = name)

end Configuration

end DeclaredTriggers.Command
