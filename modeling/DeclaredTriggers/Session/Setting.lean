/-!
# Settings of a connection

What is known about one variable that overrides set on a connection. While sessions on it are
open, it is set along with each statement; when the last one closes, what was set for good has to
be undone, and the undoing can be lost: a transaction that is rolled back brings the setting back.
-/

namespace DeclaredTriggers

/-- What is known about one variable on a connection. -/
structure Setting where
  /-- How many sessions need it. -/
  sessions : Nat := 0
  /-- It was set for good and is not known to be undone. -/
  dirty : Bool := false
  /-- An undoing has to be sent before the next statement. -/
  pending : Bool := false
  /-- An undoing of what was set for good went out in a transaction that is still open. -/
  uncommitted : Bool := false
  deriving DecidableEq

namespace Setting

/-- An undoing went out. -/
def resetSent (s : Setting) : Setting :=
  { s with pending := false, uncommitted := s.uncommitted || s.dirty }

/-- The transaction ended and kept its work. -/
def committed (s : Setting) : Setting :=
  if s.uncommitted then { s with dirty := false, uncommitted := false } else s

/-- The transaction, or a part of it, was rolled back. -/
def rolledBack (s : Setting) : Setting :=
  if s.uncommitted then { s with pending := true, uncommitted := false } else s

/-- Whether an undoing is owed, whatever the sessions think. -/
def isOwed (s : Setting) : Bool := s.dirty || s.pending

/-- One more session needs it. -/
def opened (s : Setting) : Setting := { s with sessions := s.sessions + 1 }

/-- The undoing that has to go before a statement. -/
def payReset (s : Setting) (undo : String) : String × Setting :=
  if s.pending then (undo, s.resetSent) else ("", s)

/-- What sets the variable for a statement, if a session needs it and there is something to set;
`isLocal` says that it holds for the transaction only. -/
def apply (s : Setting) (set : Option String) (isLocal : Bool) : String × Setting :=
  match set with
  | some sql =>
    if s.sessions = 0 then ("", s)
    else if isLocal then (sql, s)
    else (sql, { s with dirty := true, uncommitted := false })
  | none => ("", s)

/-- One session fewer. After the last one an undoing is owed if a transaction is open or the
variable was set for good; it is given, or left pending where it cannot be sent now. -/
def close (s : Setting) (idle canSend : Bool) (undo : Option String) :
    Option String × Setting :=
  let s := { s with sessions := s.sessions - 1 }
  match undo with
  | none => (none, s)
  | some undo =>
    if 0 < s.sessions || (idle && !s.dirty) then (none, s)
    else if canSend then (some undo, s.resetSent)
    else (none, { s with pending := true })

end Setting

end DeclaredTriggers
