import DeclaredTriggers.Error

/-!
# Servers

What goes over a connection: a request, and the server's reply to it. A server is any state that
can receive requests, so a scripted one will do, and so will one that keeps a database.
-/

namespace DeclaredTriggers

/-- A statement as a server receives it. -/
inductive Request where
  /-- One or more statements in one text, without parameters. -/
  | batch (sql : String)
  /-- One statement with its parameters. -/
  | prepared (sql : String) (params : List String)
  deriving DecidableEq

/-- The text of a request. -/
def Request.sql : Request → String
  | .batch sql | .prepared sql _ => sql

/-- The parameters of a request; a batch has none. -/
def Request.params : Request → List String
  | .batch _ => []
  | .prepared _ params => params

/-- One row of an answer. -/
abbrev ResultRow := List (Option String)

/-- What a column holds. -/
def cellAt (row : ResultRow) (column : Nat) : Except Error (Option String) :=
  match row[column]? with
  | some cell => pure cell
  | none => throw (.query (.missingColumn column))

/-- The text in a column, which must hold one. -/
def textAt (row : ResultRow) (column : Nat) : Except Error String := do
  match ← cellAt row column with
  | some s => pure s
  | none => throw (.query (.missingText column))

/-- What a server says to a request. -/
inductive Reply where
  /-- It was done, with these rows, or on that many rows. -/
  | done (rows : List ResultRow) (affected : Nat)
  | refused (refusal : Refusal)
  /-- The server hangs up. -/
  | closed

/-- A state that can receive requests. -/
class Server (σ : Type) where
  receive : Request → σ → Reply × σ

/-- One end of a connection. -/
structure Wire (σ : Type) where
  /-- Which of several connections it is. -/
  number : Nat := 0
  server : σ
  /-- Whether the server has not hung up. -/
  isOpen : Bool := true

end DeclaredTriggers
