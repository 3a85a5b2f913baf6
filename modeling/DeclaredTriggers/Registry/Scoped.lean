import DeclaredTriggers.Act
import DeclaredTriggers.Registry.Basic

/-!
# Changing a registry for a while

Work on a registry that others share: filling it at the start, and changes that a guard undoes. A
guard remembers what stood under its URI, so guards on one URI are to be undone in reverse order.
-/

namespace DeclaredTriggers

/-- A trigger to be registered, if it could be built. -/
structure Registration where
  entity : Entity
  trigger : Except Error Trigger

namespace Registry

/-- Registers a trigger. -/
def declare (e : Entity) (t : Trigger) : Act Registry Unit := do
  let r ← (← get).register e t
  set r

/-- Registers triggers in order, up to the first that fails, and counts what is registered. -/
def bootstrap (registrations : List Registration) : Act Registry Nat := do
  registrations.forM fun x => do
    let t ← x.trigger
    declare x.entity t
  pure (← get).size

end Registry

/-- What stood under a URI before it was changed. -/
structure RegistrationGuard where
  uri : String
  previous : Option Entry

namespace RegistrationGuard

/-- Registers a trigger until the guard is undone. -/
def register (e : Entity) (t : Trigger) : Act Registry RegistrationGuard := do
  let uri := t.uri e
  let previous := (← get).find? uri
  Registry.declare e t
  pure ⟨uri, previous⟩

/-- Takes a trigger away until the guard is undone. -/
def unregister (uri : String) : Act Registry RegistrationGuard := do
  let r ← get
  match r.find? uri with
  | none => throw (.notRegistered uri)
  | some x =>
    set (r.erase uri)
    pure ⟨uri, some x⟩

/-- Puts back what stood under the URI. -/
def undo (g : RegistrationGuard) (r : Registry) : Registry :=
  match g.previous with
  | some x => (r.erase g.uri).put x
  | none => r.erase g.uri

end RegistrationGuard

end DeclaredTriggers
