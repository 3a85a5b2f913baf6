import DeclaredTriggers.Command.Fault
import DeclaredTriggers.Registry.Basic

/-!
# Plans

A plan says on which databases a command acts, and there on which triggers. A database without
triggers in a plan stands for all of them.
-/

namespace DeclaredTriggers.Command

/-- The URIs to act on, by database. -/
abbrev Plan := Keyed (List String)

namespace Plan

/-- The plan that acts on entries, each in its own database. -/
def ofEntries (xs : List Entry) : Plan :=
  xs.foldl (fun p x => p.update (x.database .standard) [] (· ++ [x.uri])) .empty

/-- The plan that acts on all triggers of databases. -/
def ofDatabases (names : List String) : Plan := .ofList (names.map (·, []))

/-- The plan, if each of its databases is configured. -/
def checked (p : Plan) (c : Configuration) : Except Fault Plan :=
  match p.keys.find? fun name => (c.find? name).isNone with
  | some name => throw (.notConfigured name)
  | none => pure p

/-- What options ask for: the URIs they name, or else the databases they name, or else all. -/
def make (o : Options) (c : Configuration) (r : Registry) : Except Fault Plan := do
  if !o.uris.isEmpty then
    let entries ← (r.resolve o.uris).mapError .error
    (ofEntries entries).checked c
  else if !o.databases.isEmpty then (ofDatabases o.databases).checked c
  else (ofDatabases (c.databases.map (·.name))).checked c

end Plan

end DeclaredTriggers.Command
