import DeclaredTriggers.Event

/-!
# Hooks

A hook is two functions: one from a statement's context to what is to be done with it, and one
that is told what came of it. Both may leave events. `Hook.composite` makes one hook of several:
each sees the statement as the hooks before it left it, and the first to refuse it has the last
word.
-/

namespace DeclaredTriggers

/-- Looks at statements before and after they are sent. -/
structure Hook where
  before : Hook.Context → Hook.Action × List Event := fun _ => (.proceed, [])
  after : Hook.Context → Hook.Outcome → List Event := fun _ _ => []
  deriving Inhabited

namespace Hook

/-- What several hooks in a row leave of a statement, or the first reason not to send it. -/
def applyAll : List Hook → Context → Except String Context × List Event
  | [], c => (pure c, [])
  | h :: hs, c =>
    let (action, events) := h.before c
    match c.applied action with
    | .error reason => (throw reason, events)
    | .ok c =>
      let (result, more) := applyAll hs c
      (result, events ++ more)

/-- The word that takes a context to another one. -/
def wordFor (c d : Context) : Action :=
  if d.exec ≠ c.exec || d.canonical ≠ c.canonical then
    .modify d.exec (if d.canonical ≠ c.canonical then some d.canonical else none)
  else .proceed

/-- Several hooks as one. -/
def composite (hs : List Hook) : Hook where
  before c :=
    match applyAll hs c with
    | (.error reason, events) => (.abort reason, events)
    | (.ok d, events) => (wordFor c d, events)
  after c o := hs.flatMap fun h => h.after c o

/-- One more hook, behind those there are. -/
def append : Option Hook → Hook → Hook
  | none, h => h
  | some first, h => composite [first, h]

/-- A hook that lets everything pass and records what it was shown under a name. -/
def recorder (name : String) : Hook where
  before c := (.proceed, [.before name c])
  after c o := [.after name c o]

/-- A hook that writes every statement to the log, cut to `limit` bytes, and what came of it if
asked to. -/
def statementLog (severity : Severity) (limit : Option Nat) (outcomes : Bool) : Hook where
  before c :=
    let sql := limit.elim c.exec fun n => Text.abbreviated n c.exec
    (.proceed, [.statement severity c sql])
  after c o := if outcomes then [.outcome severity c o] else []

/-- How many bytes of a statement are logged if nothing else is said. -/
def defaultLogLimit : Nat := 200

end Hook

end DeclaredTriggers
