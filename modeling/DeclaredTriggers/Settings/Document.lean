import DeclaredTriggers.Settings
import DeclaredTriggers.Storage
import DeclaredTriggers.Toml.Reader

/-!
# Settings in a document

Settings are written in TOML. What is left out has its default; another name than those of the
settings is refused.
-/

namespace DeclaredTriggers

namespace Settings

/-- The settings that a value describes. -/
def ofToml? (v : Toml) : Option Settings := do
  match ← v.parts? ["schema", "prune_on_install", "install_on_migrate"] with
  | [schema, prune, migrate] =>
    let start : Settings := {}
    pure {
      schema := ← schema.elim (some start.schema) Toml.asText?
      pruneOnInstall := ← prune.elim (some start.pruneOnInstall) Toml.asBool?
      installOnMigrate := ← migrate.elim (some start.installOnMigrate) Toml.asBool? }
  | _ => none

/-- The settings of a document. -/
def read (document : String) : Except Error Settings :=
  match (Toml.parse? document).bind ofToml? with
  | none => throw (.config .malformed)
  | some s => s.checked

/-- The settings of the document at a path. -/
def load (path : String) (stored : Stored) : Except Error Settings :=
  match stored.content with
  | .ok document => read document
  | .error reason => throw (.config (.unreadable path reason))

end Settings

end DeclaredTriggers
