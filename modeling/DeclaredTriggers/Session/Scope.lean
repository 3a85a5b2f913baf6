import DeclaredTriggers.Session.Client
import DeclaredTriggers.Sql.Identifier

/-!
# Scopes

A scope overrides something on one client until it is closed: it ignores triggers, or searches
schemas. It remembers what it added, so that closing it takes away no more. Released, it undoes
the setting at once; dropped, it leaves the undoing to the next statement.
-/

namespace DeclaredTriggers

/-- A scope in which triggers are ignored. -/
structure IgnoreScope where
  /-- The identifiers that were not ignored before. -/
  added : List String

/-- A scope in which schemas are searched. -/
structure SchemaScope where
  /-- The schemas that were not searched before. -/
  added : List String

/-- A schema's name as the database understands it: a bare name in small letters, a quoted one as
it is. -/
def schemaName (text : String) : Except Error String :=
  match Sql.Identifier.parse (Text.trimmed text) with
  | .error fault => throw (.usage (.schemaName text (.identifier fault)))
  | .ok i =>
    match i.parts with
    | [.bare name] => pure (Sql.folded name)
    | [.quoted name] => pure name
    | _ => throw (.usage (.schemaName text .severalParts))

namespace Client

variable {σ : Type} [Server σ]

/-- The search path of the connection. -/
def showPath : Act (Client σ) String := do
  let answer ← sendRaw (.prepared "SHOW search_path" [])
  match answer.rows with
  | row :: _ => textAt row 0
  | [] => throw (.notFound "search_path")

/-- One more session on the search path. The first remembers what it was. -/
def openPath : Act (Client σ) Unit := do
  if (← get).session.path.sessions = 0 then
    let path ← showPath
    learn fun s => { s with initialPath := some path }
  learn fun s => { s with path := s.path.opened }

/-- Sends an undoing, if there is one. -/
def sendUndo (undo : Option String) : Act (Client σ) Unit :=
  match undo with
  | some sql => sendOwn sql
  | none => pure ()

/-- One session fewer on the triggers to ignore. -/
def closeIgnore : Act (Client σ) Unit := do
  sendUndo (← decide fun s _ => s.closeIgnore false)

/-- One session fewer on the search path. -/
def closePath : Act (Client σ) Unit := do
  sendUndo (← decide fun s _ => s.closePath false)

/-- Opens a scope in which triggers are ignored. -/
def ignoring (ids : List String) : Act (Client σ) IgnoreScope := do
  learn fun s => { s with ignore := s.ignore.opened }
  let added ← override (·.addIgnored ids)
  pure ⟨added⟩

/-- Opens a scope in which schemas are searched. -/
def searching (schemas : List String) : Act (Client σ) SchemaScope := do
  let names ← (schemas.mapM schemaName : Except Error _)
  openPath
  let added ← override (·.addSchemas names)
  pure ⟨added⟩

end Client

namespace IgnoreScope

variable {σ : Type} [Server σ]

/-- Closes the scope and undoes the setting. -/
def release (scope : IgnoreScope) : Act (Client σ) Unit := do
  Client.override fun o => ((), o.removeIgnored scope.added)
  Client.closeIgnore

/-- Closes the scope; the undoing waits for the next statement. -/
def drop (scope : IgnoreScope) : Act (Client σ) Unit := do
  Client.override fun o => ((), o.removeIgnored scope.added)
  Client.learn fun s => (s.closeIgnore true).2

end IgnoreScope

namespace SchemaScope

variable {σ : Type} [Server σ]

/-- Closes the scope and undoes the setting. -/
def release (scope : SchemaScope) : Act (Client σ) Unit := do
  Client.override fun o => ((), o.removeSchemas scope.added)
  Client.closePath

/-- Closes the scope; the undoing waits for the next statement. -/
def drop (scope : SchemaScope) : Act (Client σ) Unit := do
  Client.override fun o => ((), o.removeSchemas scope.added)
  Client.learn fun s => (s.closePath true).2

end SchemaScope

end DeclaredTriggers
