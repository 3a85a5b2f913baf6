import DeclaredTriggers.Session.Overrides
import DeclaredTriggers.Session.Setting
import DeclaredTriggers.Sql.Scan
import DeclaredTriggers.Sql.Control

/-!
# Sessions

What is known about a connection: whether a transaction is open, and the state of the two settings
on it. From that follows which statements have to go before the caller's (`Session.preamble`,
`Session.withPreamble`), and a statement that was sent changes what is known (`Session.track`).
Nothing here sends anything.
-/

namespace DeclaredTriggers

open Sql (Control)

/-- Whether a transaction is open, as far as the statements sent tell. -/
inductive TransactionStatus where
  | idle
  | inTransaction
  /-- A statement failed; only a rollback is accepted. -/
  | inError
  deriving DecidableEq

/-- What is known about a connection. -/
structure Session where
  status : TransactionStatus := .idle
  /-- The setting that names the triggers to ignore. -/
  ignore : Setting := {}
  /-- The setting that names the schemas to search. -/
  path : Setting := {}
  /-- The search path as it was before the first session on it. -/
  initialPath : Option String := none

/-- The statement that undoes the setting of triggers to ignore. -/
def resetIgnoreSql : String := "RESET pgtrigger.ignore;"

/-- The statement that gives a connection a search path. -/
def setPathSql (path : String) : String := "SET search_path=" ++ path ++ ";"

/-- The transaction control in a batch, in order. -/
def controlsOf (sql : String) : List Control :=
  (Sql.statements sql.toList).filterMap Control.ofStatement?

/-- What a single statement does to its transaction, if it is there for that. -/
def controlOf? (sql : String) : Option Control := Control.ofStatement? sql.toList

namespace Session

/-- The statement that gives a connection its own search path back, once that is known. -/
def undoPath? (s : Session) : Option String := s.initialPath.map setPathSql

/-- The undoings owed to the connection. -/
def owed (s : Session) : String :=
  (if s.ignore.isOwed then resetIgnoreSql else "") ++
    (if s.path.isOwed then s.undoPath?.getD "" else "")

/-- The transaction ended and kept its work. -/
def committed (s : Session) : Session :=
  { s with ignore := s.ignore.committed, path := s.path.committed }

/-- The transaction, or a part of it, was rolled back. -/
def rolledBack (s : Session) : Session :=
  { s with ignore := s.ignore.rolledBack, path := s.path.rolledBack }

/-- One session fewer on the triggers to ignore, and the undoing to send. -/
def closeIgnore (s : Session) (queueOnly : Bool) : Option String × Session :=
  let canSend := !queueOnly && s.status ≠ .inError
  let (undo, ignore) := s.ignore.close (s.status = .idle) canSend (some resetIgnoreSql)
  (undo, { s with ignore })

/-- One session fewer on the search path, and the undoing to send. -/
def closePath (s : Session) (queueOnly : Bool) : Option String × Session :=
  let canSend := !queueOnly && s.status ≠ .inError
  let (undo, path) := s.path.close (s.status = .idle) canSend s.undoPath?
  (undo, { s with path })

/-- The statements owed before `statement`: undoings first, then what open sessions need.
A batch runs in a transaction of its own where none is open, so settings for it are local. A
failed transaction accepts none, and a concurrent statement tolerates none. -/
def preamble (s : Session) (o : Overrides) (statement : String) (inBatch : Bool) :
    String × Session :=
  if s.status = .inError || Sql.isConcurrent statement.toList then ("", s)
  else
    let isLocal := inBatch || s.status = .inTransaction
    let (resetIgnore, ignore) := s.ignore.payReset resetIgnoreSql
    let (resetPath, path) := s.path.payReset (s.undoPath?.getD "")
    let (setIgnore, ignore) := ignore.apply (some (o.ignoreSql isLocal)) isLocal
    let (setPath, path) := path.apply (o.pathSql? isLocal) isLocal
    (resetIgnore ++ resetPath ++ setIgnore ++ setPath, { s with ignore, path })

/-- A batch with its preamble: in front of it, or behind the statement that opens a transaction or
a savepoint, so that it takes effect inside. -/
def withPreamble (s : Session) (o : Overrides) (sql : String) : String × Session :=
  let first := (Sql.statements sql.toList).headD []
  match Control.ofStatement? first with
  | none =>
    let (preamble, s) := s.preamble o sql true
    (preamble ++ sql, s)
  | some .opens | some .savepoint =>
    match Sql.splitStatement? sql.toList with
    | none => (sql, s)
    | some (head, rest) =>
      if (Control.ofStatement? rest).isSome then (sql, s)
      else
        let rest := String.ofList rest
        let (preamble, s) := s.preamble o rest true
        (String.ofList head ++ preamble ++ rest, s)
  | some _ => (sql, s)

/-- What is known after a statement that controls the transaction. A commit of a failed
transaction rolls it back. -/
def afterControl (s : Session) : Control → Session
  | .opens => { s with status := .inTransaction }
  | .commit =>
    let s := if s.status = .inError then s.rolledBack else s.committed
    { s with status := .idle }
  | .rollback => { s.rolledBack with status := .idle }
  | .rollbackTo => { s.rolledBack with status := .inTransaction }
  | .savepoint | .release => s

/-- Whether a batch is nothing but the end of a transaction. -/
def endsTransaction (sql : String) : Bool :=
  (Sql.statements sql.toList).length = 1 &&
    ((controlsOf sql).head? = some .commit || (controlsOf sql).head? = some .rollback)

/-- What is known after a batch that failed. -/
def afterFailure (s : Session) (sql : String) : Session :=
  if endsTransaction sql then { s.rolledBack with status := .idle }
  else if s.status ≠ .idle || (controlsOf sql).contains .opens then
    { s with status := .inError }
  else { s with status := .idle }

/-- What is known after a batch. -/
def track (s : Session) (sql : String) (ok : Bool) : Session :=
  if ok then (controlsOf sql).foldl afterControl s else s.afterFailure sql

/-- Outside a transaction, what was sent is kept or rolled back at once. -/
def settle (s : Session) (ok : Bool) : Session :=
  if s.status ≠ .idle then s else if ok then s.committed else s.rolledBack

end Session

end DeclaredTriggers
