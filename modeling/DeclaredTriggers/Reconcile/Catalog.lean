import DeclaredTriggers.Connection.Channel
import DeclaredTriggers.Install.Compiled
import DeclaredTriggers.Registry.Basic

/-!
# The catalog

What the database says about triggers: whether one is installed, in which version, and which ones
are there that nobody registered.
-/

namespace DeclaredTriggers

open Channel

/-- How an entry stands in the database. -/
inductive InstallState where
  | installed
  | uninstalled
  /-- Another version is installed. -/
  | outdated
  /-- It may not be installed in this database. -/
  | unallowed
  deriving DecidableEq

def InstallState.name : InstallState → String
  | .installed => "INSTALLED"
  | .uninstalled => "UNINSTALLED"
  | .outdated => "OUTDATED"
  | .unallowed => "UNALLOWED"

/-- How an entry stands, and whether it is enabled if it is there. -/
structure Status where
  state : InstallState
  enabled : Option Bool := none
  deriving DecidableEq

/-- A trigger in the database that nobody registered. -/
structure PruneCandidate where
  table : String
  pgid : String
  enabled : Bool
  deriving DecidableEq

/-- Asks for the comment and the mode of one trigger. -/
def statusSql : String :=
  "SELECT obj_description(t.oid, 'pg_trigger'), t.tgenabled::text " ++
    "FROM pg_trigger t " ++
    "WHERE t.tgname = $1 AND t.tgrelid = to_regclass($2)"

/-- Asks for the managed triggers on relations that the search path finds. Those of partitions
go with their parent's. -/
def prunableSql : String :=
  "SELECT t.tgrelid::regclass::text, t.tgname::text, t.tgenabled::text " ++
    "FROM pg_trigger t " ++
    "WHERE t.tgname LIKE 'pgtrigger_%' " ++
    "AND t.tgparentid = 0 " ++
    "AND array_length(parse_ident(t.tgrelid::regclass::text), 1) = 1 " ++
    "ORDER BY 1, 2"

/-- Whether the server knows no such table. -/
def Error.isUndefinedTable (e : Error) : Bool := e.sqlstate? = some "42P01"

/-- Whether a trigger in a mode fires at all. -/
def isEnabledMode (mode : String) : Bool := mode ≠ "D"

variable {κ : Type} [Channel κ]

/-- The comment and the state of a trigger that is in the database. -/
def catalogEntry? (table pgid : String) : Act κ (Option (Option String × Bool)) := do
  match ← Act.attempt (queryFirst statusSql [pgid, Sql.quote table]) with
  | .error e => if e.isUndefinedTable then pure none else throw e
  | .ok none => pure none
  | .ok (some row) =>
    let hash ← cellAt row 0
    let mode ← textAt row 1
    pure (some (hash, isEnabledMode mode))

/-- How a trigger stands in the database. -/
def statusOf (e : Entity) (t : Trigger) (s : Settings) : Act κ Status := do
  let pgid ← t.pgid e
  match ← catalogEntry? e.table pgid with
  | none => pure { state := .uninstalled }
  | some (installed, enabled) =>
    let hash ← t.hash e s
    let state := if installed = some hash then InstallState.installed else .outdated
    pure { state, enabled := some enabled }

/-- A row of the answer about managed triggers. -/
def candidateOf (row : ResultRow) : Except Error PruneCandidate := do
  let table ← textAt row 0
  let pgid ← textAt row 1
  let mode ← textAt row 2
  pure ⟨table, pgid, isEnabledMode mode⟩

/-- The managed triggers in the database that no entry accounts for. -/
def prunable (r : Registry) : Act κ (List PruneCandidate) := do
  let rows ← query prunableSql []
  let candidates ← (rows.mapM candidateOf : Except Error _)
  pure (candidates.filter fun c => !r.installedPairs.contains (Sql.quote c.table, c.pgid))

end DeclaredTriggers
