import DeclaredTriggers.Session.Scope

/-!
# Clients that work together

Several clients write to one journal, and those of one worker share their overrides. A session
over several clients makes all of them apply the overrides of their workers.
-/

namespace DeclaredTriggers

/-- `n` clients; each belongs to one of at most `n` workers. -/
structure Group (σ : Type) (n : Nat) where
  seats : Vector (Seat σ) n
  worker : Vector (Fin n) n
  overrides : Vector Overrides n := .replicate n {}
  journal : Journal := {}

namespace Group

variable {σ : Type} {n : Nat}

/-- One of the clients, with what it shares. -/
def client (g : Group σ n) (i : Fin n) : Client σ :=
  { g.seats[i] with overrides := g.overrides[g.worker[i]], journal := g.journal }

/-- The group after one of its clients changed. -/
def withClient (g : Group σ n) (i : Fin n) (c : Client σ) : Group σ n :=
  { g with
    seats := g.seats.set i c.toSeat
    overrides := g.overrides.set g.worker[i] c.overrides
    journal := c.journal }

/-- Work on one of the clients. -/
def on {α : Type} (i : Fin n) (act : Act (Client σ) α) : Act (Group σ n) α :=
  ExceptT.mk fun g =>
    let (result, c) := act.run.run (g.client i)
    (result, g.withClient i c)

end Group

/-- A session in which several clients apply the ignored triggers of their workers. -/
structure IgnoreSession (n : Nat) where
  clients : List (Fin n)

namespace IgnoreSession

variable {σ : Type} {n : Nat}

/-- Opens a session on some clients. -/
def enter (clients : List (Fin n)) : Act (Group σ n) (IgnoreSession n) := do
  clients.forM fun i => Group.on i (Client.learn fun s => { s with ignore := s.ignore.opened })
  pure ⟨clients⟩

/-- Closes the session on each client, and reports the first failure. -/
def release [Server σ] (session : IgnoreSession n) : Act (Group σ n) Unit :=
  Act.all (session.clients.map fun i => Group.on i Client.closeIgnore)

/-- Closes the session on each client; the undoings wait for the next statements. -/
def drop (session : IgnoreSession n) : Act (Group σ n) Unit :=
  session.clients.forM fun i => Group.on i (Client.learn fun s => (s.closeIgnore true).2)

end IgnoreSession

/-- A session in which several clients apply the schemas of their workers. -/
structure SchemaSession (n : Nat) where
  clients : List (Fin n)

namespace SchemaSession

variable {σ : Type} {n : Nat}

/-- Closes the session on each client; the undoings wait for the next statements. -/
def drop (session : SchemaSession n) : Act (Group σ n) Unit :=
  session.clients.forM fun i => Group.on i (Client.learn fun s => (s.closePath true).2)

/-- Opens sessions on clients behind those that have one already, and closes all of these if it
fails on one. -/
def enterAfter [Server σ] (opened : List (Fin n)) :
    List (Fin n) → Act (Group σ n) (SchemaSession n)
  | [] => pure ⟨opened⟩
  | i :: rest => do
    match ← Act.attempt (Group.on i Client.openPath) with
    | .ok () => enterAfter (opened ++ [i]) rest
    | .error e =>
      drop ⟨opened⟩
      throw e

/-- Opens a session on some clients: on all of them or on none. -/
def enter [Server σ] (clients : List (Fin n)) : Act (Group σ n) (SchemaSession n) :=
  enterAfter [] clients

/-- Closes the session on each client, and reports the first failure. -/
def release [Server σ] (session : SchemaSession n) : Act (Group σ n) Unit :=
  Act.all (session.clients.map fun i => Group.on i Client.closePath)

end SchemaSession

end DeclaredTriggers
