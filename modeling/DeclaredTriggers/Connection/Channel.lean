import DeclaredTriggers.Act
import DeclaredTriggers.Connection.Server
import DeclaredTriggers.Event

/-!
# Channels

What work on a database asks of a connection: send statements, know whether a transaction is
open, leave events. `Direct` is the plain channel, which sends what it is given.
-/

namespace DeclaredTriggers

/-- What was sent and what happened, in order, over all connections. -/
structure Journal where
  /-- Each request and the number of the connection it went over. -/
  sent : List (Nat × Request) := []
  events : List Event := []
  /-- How many savepoints have been named. -/
  savepoints : Nat := 0

/-- What a finished request gives. -/
structure Answer where
  rows : List ResultRow
  affected : Nat

/-- A connection and the journal it writes to. -/
structure Line (σ : Type) where
  wire : Wire σ
  journal : Journal := {}

/-- Sends a request. A connection that was hung up takes none, so none is written down. -/
def Line.send {σ : Type} [Server σ] (q : Request) : Act (Line σ) Answer :=
  ExceptT.mk fun l =>
    if l.wire.isOpen then
      let (reply, server) := Server.receive q l.wire.server
      let journal := { l.journal with sent := l.journal.sent ++ [(l.wire.number, q)] }
      match reply with
      | .done rows affected => (.ok ⟨rows, affected⟩, ⟨{ l.wire with server }, journal⟩)
      | .refused refusal =>
        (.error (.query (.refused refusal)), ⟨{ l.wire with server }, journal⟩)
      | .closed =>
        (.error (.connection .closed), ⟨{ l.wire with server, isOpen := false }, journal⟩)
    else (.error (.connection .closed), l)

/-- A state that statements can be sent through. -/
class Channel (κ : Type) where
  query : String → List String → Act κ (List ResultRow)
  execute : String → List String → Act κ Nat
  batch : String → Act κ Unit
  /-- Whether a transaction is open. -/
  inTransaction : κ → Bool
  journal : κ → Journal
  withJournal : Journal → κ → κ

namespace Channel

variable {κ : Type} [Channel κ]

/-- The first row of a query's answer. -/
def queryFirst (sql : String) (params : List String) : Act κ (Option ResultRow) := do
  let rows ← query sql params
  pure rows.head?

/-- Leaves an event. -/
def record (e : Event) : Act κ Unit :=
  modify fun k =>
    let j := journal k
    withJournal { j with events := j.events ++ [e] } k

/-- Leaves a notice for the operator. -/
def notify (n : Notice) : Act κ Unit := record (.notice n)

/-- A number no savepoint was named by. -/
def freshSavepoint : Act κ Nat := do
  let j := journal (← get)
  modify (withJournal { j with savepoints := j.savepoints + 1 })
  pure j.savepoints

end Channel

/-- A connection that is used as it is. -/
structure Direct (σ : Type) extends Line σ where
  /-- Whether it was handed over inside an open transaction. -/
  held : Bool := false

/-- Sends a request over a plain connection. -/
def Direct.send {σ : Type} [Server σ] (q : Request) : Act (Direct σ) Answer :=
  Act.focus Direct.toLine (fun l d => { d with toLine := l }) (Line.send q)

instance {σ : Type} [Server σ] : Channel (Direct σ) where
  query sql params := do pure (← Direct.send (.prepared sql params)).rows
  execute sql params := do pure (← Direct.send (.prepared sql params)).affected
  batch sql := do let _ ← Direct.send (.batch sql)
  inTransaction d := d.held
  journal d := d.journal
  withJournal j d := { d with journal := j }

end DeclaredTriggers
