import DeclaredTriggers.Registry.Basic
import DeclaredTriggers.Session.Scope

/-!
# What a session is asked to do with triggers

Which registered triggers can be ignored, and the timing of constraint triggers inside a
transaction.
-/

namespace DeclaredTriggers

/-- The identifiers of the triggers to ignore: those that URIs name, which all must tolerate it, or
all that do if there are no URIs. -/
def Registry.ignorable (r : Registry) (uris : List String) : Except Error (List String) :=
  if uris.isEmpty then pure ((r.entries.filter (·.trigger.canIgnore)).map (·.pgid))
  else do
    let targets ← r.resolve uris
    match targets.find? (!·.trigger.canIgnore) with
    | some x => throw (.usage (.notIgnorable x.trigger.kind.name x.uri))
    | none => pure (targets.map (·.pgid))

namespace Client

variable {σ : Type} [Server σ]

/-- Opens a scope in which registered triggers are ignored. -/
def ignore (r : Registry) (uris : List String) : Act (Client σ) IgnoreScope := do
  let ids ← r.ignorable uris
  ignoring ids

/-- Sets the timing of constraint triggers for the rest of the transaction. -/
def setConstraints (r : Registry) (timing : Timing) (uris : List String) :
    Act (Client σ) Unit := do
  let targets ← r.targets uris
  match targets.find? (·.trigger.timing.isNone) with
  | some x => throw (.usage (.notDeferrable x.trigger.name x.entity.label))
  | none =>
    if (← get).session.status ≠ .inTransaction then throw (.usage .noTransaction)
    else if targets.isEmpty then pure ()
    else
      let names := ", ".intercalate (targets.map fun x => Sql.triggerName x.pgid)
      batch ("SET CONSTRAINTS " ++ names ++ " " ++ timing.sql)

end Client

end DeclaredTriggers
