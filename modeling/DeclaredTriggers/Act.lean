import DeclaredTriggers.Error

/-!
# Work that may fail

`Act κ α` is work on a state `κ` that gives an `α` or fails; either way the state goes on from
where the work left it. What is done after a failure (a rollback, the closing of a scope) is
written here once, for any state and over any monad.
-/

namespace DeclaredTriggers

/-- Work on a state that may fail and keeps the state when it does. -/
abbrev Act (κ α : Type) := ExceptT Error (StateM κ) α

namespace Act

/-- The outcome of some work, as a value. -/
def attempt {m : Type → Type} [Monad m] {α : Type} (act : ExceptT Error m α) :
    ExceptT Error m (Except Error α) :=
  ExceptT.mk do
    let result ← act.run
    pure (.ok result)

/-- Work on a part of a state. -/
def focus {κ ρ α : Type} (part : κ → ρ) (put : ρ → κ → κ) (act : Act ρ α) : Act κ α :=
  ExceptT.mk fun k =>
    let (result, r) := act.run.run (part k)
    (result, put r k)

/-- All of some works, failing or not; the first failure is reported. -/
def all {κ : Type} : List (Act κ Unit) → Act κ Unit
  | [] => pure ()
  | act :: acts => do
    let first ← attempt act
    let rest ← attempt (all acts)
    match first with
    | .ok () => ExceptT.mk (pure rest)
    | .error e => throw e

/-- Work between entering something and leaving it. It is left whether the work succeeds or fails,
and a failure to leave is reported only if the work succeeded. -/
def within {m : Type → Type} [Monad m] {ρ α : Type} (enter : ExceptT Error m ρ)
    (leave : ρ → ExceptT Error m Unit) (body : ExceptT Error m α) : ExceptT Error m α := do
  let scope ← enter
  let result ← attempt body
  let left ← attempt (leave scope)
  match result, left with
  | .ok a, .ok () => pure a
  | .ok _, .error e => throw e
  | .error e, _ => throw e

/-- Work in a transaction: kept if it succeeds, rolled back if it fails. -/
def atomic {m : Type → Type} [Monad m] {α : Type} (start commit rollback : ExceptT Error m Unit)
    (body : ExceptT Error m α) : ExceptT Error m α := do
  start
  match ← attempt body with
  | .ok a =>
    commit
    pure a
  | .error e =>
    match ← attempt rollback with
    | .ok () => throw e
    | .error again => throw (.other s!"{e.message} (rollback failed: {again.message})")

end Act

end DeclaredTriggers
