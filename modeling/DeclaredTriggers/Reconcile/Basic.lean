import DeclaredTriggers.Connection.Isolation
import DeclaredTriggers.Reconcile.Catalog

/-!
# Reconciliation

Closing the gap between a registry and one database: installing, uninstalling, enabling and
disabling triggers, and pruning those that nobody registered. A run that names its triggers acts
on each of them; a bulk run acts on those of its database that need it, and may prune afterwards.
-/

namespace DeclaredTriggers

open Channel

variable {κ : Type} [Channel κ]

/-- Installs a trigger. -/
def installTrigger (e : Entity) (t : Trigger) (s : Settings) : Act κ Unit := do
  let sql ← t.installSql e s
  runIsolated sql

/-- Uninstalls a trigger. -/
def uninstallTrigger (e : Entity) (t : Trigger) : Act κ Unit := do
  let sql ← t.uninstallSql e
  runIsolated sql

/-- Enables a trigger. -/
def enableTrigger (e : Entity) (t : Trigger) : Act κ Unit := do
  let pgid ← t.pgid e
  runIsolated (enableTriggerSql pgid e.table)

/-- Disables a trigger. -/
def disableTrigger (e : Entity) (t : Trigger) : Act κ Unit := do
  let pgid ← t.pgid e
  runIsolated (disableTriggerSql pgid e.table)

/-- What a database is brought into line with. -/
structure Reconciler where
  registry : Registry
  settings : Settings := {}
  router : Router := .standard
  /-- The database that is connected to. -/
  database : String := defaultDatabase

namespace Reconciler

/-- The entries that URIs name, or those that live in the database. -/
def entries (r : Reconciler) (uris : List String) : Except Error (List Entry) :=
  if uris.isEmpty then r.registry.select uris [r.database] r.router else r.registry.resolve uris

/-- Whether an entry may be installed in the database. -/
def allows (r : Reconciler) (x : Entry) : Bool := r.router.allows r.database x.entity

/-- How an entry stands in the database. -/
def status (r : Reconciler) (x : Entry) : Act κ Status :=
  if r.allows x then statusOf x.entity x.trigger r.settings else pure { state := .unallowed }

/-- How entries stand in the database. -/
def statuses (r : Reconciler) (uris : List String) : Act κ (List (Entry × Status)) := do
  let entries ← r.entries uris
  entries.mapM fun x => do pure (x, ← r.status x)

/-- Whether a run acts on an entry: it must be allowed and, in a bulk run, need it. -/
def isTarget (r : Reconciler) (bulk : Bool) (needs : Status → Bool) (x : Entry) : Act κ Bool :=
  if !r.allows x then pure false
  else if bulk then do
    let status ← r.status x
    pure (needs status)
  else pure true

/-- The entries that a run acts on. -/
def targets (r : Reconciler) (uris : List String) (needs : Status → Bool) :
    Act κ (List Entry) := do
  let entries ← r.entries uris
  entries.filterM (r.isTarget uris.isEmpty needs)

/-- Whether a bulk run has to do something about an entry. -/
def needs : Verb → Status → Bool
  | .install, s => s.state ≠ .installed
  | .uninstall, s => s.state ≠ .uninstalled
  | .enable, s => s.enabled = some false
  | .disable, s => s.enabled = some true

/-- Does one thing to one entry. -/
def perform (r : Reconciler) (verb : Verb) (x : Entry) : Act κ Unit := do
  notify (.reconciling verb x.uri x.trigger.name x.table r.database)
  match verb with
  | .install => installTrigger x.entity x.trigger r.settings
  | .uninstall => uninstallTrigger x.entity x.trigger
  | .enable => enableTrigger x.entity x.trigger
  | .disable => disableTrigger x.entity x.trigger

/-- Does one thing to the entries that URIs name, or to all that need it. The first failure ends
the run. -/
def run (r : Reconciler) (verb : Verb) (uris : List String) : Act κ Unit := do
  let targets ← r.targets uris (needs verb)
  targets.forM (r.perform verb)

/-- Drops one trigger that nobody registered. -/
def dropCandidate (r : Reconciler) (c : PruneCandidate) : Act κ Unit := do
  notify (.pruning c.pgid c.table r.database)
  runIsolated (dropTriggerSql c.pgid c.table)

/-- Drops the managed triggers that nobody registered. -/
def prune (r : Reconciler) : Act κ (List PruneCandidate) := do
  let candidates ← prunable r.registry
  candidates.forM r.dropCandidate
  pure candidates

/-- Does one thing and, if it was done in bulk and pruning is wanted, prunes. -/
def runAndPrune (r : Reconciler) (verb : Verb) (uris : List String) (pruning : Bool) :
    Act κ Unit := do
  r.run verb uris
  if uris.isEmpty && pruning then
    let _ ← r.prune

def install (r : Reconciler) (uris : List String) : Act κ Unit :=
  r.runAndPrune .install uris r.settings.pruneOnInstall

def uninstall (r : Reconciler) (uris : List String) : Act κ Unit :=
  r.runAndPrune .uninstall uris r.settings.pruneOnInstall

def enable (r : Reconciler) (uris : List String) : Act κ Unit := r.run .enable uris

def disable (r : Reconciler) (uris : List String) : Act κ Unit := r.run .disable uris

/-- Installs everything after the host's migrations, if the settings ask for it. -/
def afterMigrations (r : Reconciler) : Act κ Unit :=
  if r.settings.installOnMigrate then r.install [] else pure ()

end Reconciler

end DeclaredTriggers
