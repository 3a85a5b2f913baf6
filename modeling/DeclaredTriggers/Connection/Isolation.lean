import DeclaredTriggers.Connection.Channel

/-!
# Isolated statements

A statement that may fail without spoiling what is around it. Inside a transaction it runs between
a savepoint of its own and its release, and its failure is rolled back to the savepoint; outside,
the server takes it back by itself.
-/

namespace DeclaredTriggers

open Channel

variable {κ : Type} [Channel κ]

/-- The name of a savepoint. -/
def savepointName (number : Nat) : String := s!"pgtrigger_sp_{number}"

/-- Runs a batch under a savepoint of its own. Its own error is what is reported. -/
def withSavepoint (sql : String) : Act κ Unit := do
  let name := savepointName (← freshSavepoint)
  batch ("SAVEPOINT " ++ name)
  match ← Act.attempt (batch sql) with
  | .ok () => batch ("RELEASE SAVEPOINT " ++ name)
  | .error e =>
    match ← Act.attempt (batch ("ROLLBACK TO SAVEPOINT " ++ name)) with
    | .ok () => throw e
    | .error again =>
      notify (.savepointRollbackFailed again)
      throw e

/-- Runs a batch so that its failure changes nothing. -/
def runIsolated (sql : String) : Act κ Unit := do
  if inTransaction (← get) then withSavepoint sql else batch sql

end DeclaredTriggers
