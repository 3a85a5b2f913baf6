import DeclaredTriggers.Keyed
import DeclaredTriggers.Sql.StatementKind
import DeclaredTriggers.Text.Bytes

/-!
# What hooks see

A hook sees each statement before it is sent, may change or refuse it, and is told afterwards what
came of it. `Context.applied` is the one place where a hook's word takes effect, for one hook and
for any row of them.
-/

namespace DeclaredTriggers.Hook

open Sql (StatementKind)

/-- What is known about a statement that is about to be sent. -/
structure Context where
  /-- The statement as the caller wrote it. -/
  canonical : String
  /-- The statement as it will be sent. -/
  exec : String
  /-- How many parameters come with it. -/
  params : Nat
  /-- What the canonical statement does. -/
  kind : StatementKind
  /-- A word of the caller's on all its statements. -/
  tag : Option String := none
  fields : Keyed String := Keyed.empty

/-- The kind of a statement that is kept as a string. -/
def kindOf (sql : String) : StatementKind := StatementKind.ofStatement sql.toList

/-- The context of a statement nobody has changed yet. -/
def Context.of (sql : String) (params : Nat) : Context :=
  { canonical := sql, exec := sql, params, kind := kindOf sql }

/-- What a hook wants done with a statement. -/
inductive Action where
  | proceed
  /-- Send another statement; `canonical` replaces the caller's, if given. -/
  | modify (exec : String) (canonical : Option String)
  /-- Do not send it. -/
  | abort (reason : String)
  deriving DecidableEq

/-- The context after a hook's word on it, or the reason why the statement is not sent. -/
def Context.applied (c : Context) : Action → Except String Context
  | .proceed => pure c
  | .modify exec canonical =>
    let canonical := canonical.getD c.canonical
    pure { c with exec, canonical, kind := kindOf canonical }
  | .abort reason => throw reason

/-- What came of a statement. -/
inductive Outcome where
  | rows (count : Nat)
  | affected (count : Nat)
  | batch
  | failed (message : String)
  deriving DecidableEq

/-- How many bytes of an error's message are kept. -/
def maxErrorLength : Nat := 512

/-- The outcome of a statement that failed; a long message is cut. -/
def Outcome.ofMessage (message : String) : Outcome :=
  .failed (Text.abbreviated maxErrorLength message)

/-- An outcome as it is shown. -/
def Outcome.text : Outcome → String
  | .rows n => s!"{n} rows"
  | .affected n => s!"{n} affected"
  | .batch => "ok"
  | .failed message => s!"error: {message}"

end DeclaredTriggers.Hook
