import DeclaredTriggers.Connection.Channel
import DeclaredTriggers.Hook.Basic
import DeclaredTriggers.Session.Basic

/-!
# Clients

A client sends statements over a connection. It shows each to its hooks, sends what the session
owes in front of it, and keeps track of the transaction. `Client.handOver` gives the connection
back with nothing set on it.
-/

namespace DeclaredTriggers

open Sql (Control)

/-- A connection, what is known about it, and what is done with its statements. -/
structure Seat (σ : Type) where
  wire : Wire σ
  session : Session := {}
  hook : Option Hook := none
  /-- A word that hooks are shown with every statement. -/
  tag : Option String := none

/-- A seat together with the overrides and the journal it may share with others. -/
structure Client (σ : Type) extends Seat σ where
  overrides : Overrides := {}
  journal : Journal := {}

namespace Client

variable {σ : Type}

/-- Leaves events. -/
def record (events : List Event) : Act (Client σ) Unit :=
  modify fun c => { c with journal := { c.journal with events := c.journal.events ++ events } }

/-- Changes what is known about the connection. -/
def learn (f : Session → Session) : Act (Client σ) Unit :=
  modify fun c => { c with session := f c.session }

/-- Changes what is known about the connection and gives what comes of it. -/
def decide {α : Type} (f : Session → Overrides → α × Session) : Act (Client σ) α := do
  let c ← get
  let (a, session) := f c.session c.overrides
  set { c with session }
  pure a

/-- Changes the overrides and gives what comes of it. -/
def override {α : Type} (f : Overrides → α × Overrides) : Act (Client σ) α := do
  let c ← get
  let (a, overrides) := f c.overrides
  set { c with overrides }
  pure a

/-- What hooks are shown of a statement. -/
def contextOf (c : Client σ) (sql : String) (params : Nat) : Hook.Context :=
  let ignored :=
    if c.session.ignore.sessions = 0 then []
    else [("ignored", ",".intercalate c.overrides.ignored.keys)]
  let schemas :=
    if c.session.path.sessions = 0 then []
    else [("schemas", ",".intercalate c.overrides.schemas)]
  { Hook.Context.of sql params with tag := c.tag, fields := Keyed.ofList (ignored ++ schemas) }

/-- Shows a statement to the hooks, and gives what they leave of it. -/
def inspect (sql : String) (params : Nat) : Act (Client σ) Hook.Context := do
  let c ← get
  let context := c.contextOf sql params
  match c.hook with
  | none => pure context
  | some hook =>
    let (action, events) := hook.before context
    record events
    match context.applied action with
    | .ok context => pure context
    | .error reason => throw (.usage (.abortedByHook reason))

/-- Tells the hooks what came of a statement. -/
def report (context : Hook.Context) (outcome : Hook.Outcome) : Act (Client σ) Unit := do
  let c ← get
  match c.hook with
  | none => pure ()
  | some hook => record (hook.after context outcome)

/-- Tells the hooks what came of a statement, and gives it. -/
def conclude {α : Type} (context : Hook.Context) (outcome : α → Hook.Outcome) :
    Except Error α → Act (Client σ) α
  | .ok a => do
    report context (outcome a)
    pure a
  | .error e => do
    report context (Hook.Outcome.ofMessage e.message)
    throw e

variable [Server σ]

/-- Sends a request as it is. -/
def sendRaw (q : Request) : Act (Client σ) Answer :=
  Act.focus (fun c => ⟨c.wire, c.journal⟩)
    (fun l c => { c with wire := l.wire, journal := l.journal }) (Line.send q)

/-- Sends a batch as it is. -/
def sendBatch (sql : String) : Act (Client σ) Unit := do
  let _ ← sendRaw (.batch sql)

/-- Sends undoings or a preamble on their own. A failure fails the transaction. -/
def sendOwn (sql : String) : Act (Client σ) Unit := do
  match ← Act.attempt (sendBatch sql) with
  | .ok () => learn (·.settle true)
  | .error e =>
    learn fun s => (s.track "" false).settle false
    throw e

/-- Sends the preamble of a statement with parameters, as a batch of its own. -/
def sendPreamble (sql : String) : Act (Client σ) Unit := do
  if (controlOf? sql).isNone then
    let preamble ← decide fun s o => s.preamble o sql false
    if preamble ≠ "" then sendOwn preamble

/-- Sends a statement with parameters. -/
def prepared {α : Type} (sql : String) (params : List String) (result : Answer → α)
    (outcome : α → Hook.Outcome) : Act (Client σ) α := do
  let context ← inspect sql params.length
  sendPreamble context.exec
  let reply ← Act.attempt (sendRaw (.prepared context.exec params))
  learn (·.track context.exec reply.toOption.isSome)
  conclude context outcome (reply.map result)

/-- The rows that a statement gives. -/
def query (sql : String) (params : List String) : Act (Client σ) (List ResultRow) :=
  prepared sql params Answer.rows fun rows => .rows rows.length

/-- How many rows a statement is about. -/
def execute (sql : String) (params : List String) : Act (Client σ) Nat :=
  prepared sql params Answer.affected .affected

/-- Sends a batch. -/
def batch (sql : String) : Act (Client σ) Unit := do
  let context ← inspect sql 0
  let full ← decide fun s o => s.withPreamble o context.exec
  let reply ← Act.attempt (sendBatch full)
  let ok := reply.toOption.isSome
  learn fun s => (s.track context.exec ok).settle ok
  conclude context (fun () => .batch) reply

instance : Channel (Client σ) where
  query := query
  execute := execute
  batch := batch
  inTransaction c := c.session.status ≠ .idle
  journal c := c.journal
  withJournal j c := { c with journal := j }

def begin : Act (Client σ) Unit := batch "BEGIN"

def commit : Act (Client σ) Unit := batch "COMMIT"

def rollback : Act (Client σ) Unit := batch "ROLLBACK"

def savepoint (name : String) : Act (Client σ) Unit :=
  batch ("SAVEPOINT " ++ Sql.quoteName name)

def releaseSavepoint (name : String) : Act (Client σ) Unit :=
  batch ("RELEASE SAVEPOINT " ++ Sql.quoteName name)

def rollbackTo (name : String) : Act (Client σ) Unit :=
  batch ("ROLLBACK TO SAVEPOINT " ++ Sql.quoteName name)

/-- Undoes what is still set on the connection, before it is given back. A failed transaction is
rolled back first, since nothing else can run in it. -/
def handOver : Act (Client σ) Unit := do
  let c ← get
  if c.session.owed ≠ "" then
    if c.session.status = .inError then
      record [.notice .resettingAfterFailure]
      sendBatch "ROLLBACK"
      learn Session.rolledBack
    sendBatch (← get).session.owed

end Client

end DeclaredTriggers
