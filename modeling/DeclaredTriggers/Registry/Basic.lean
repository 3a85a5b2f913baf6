import DeclaredTriggers.Entity
import DeclaredTriggers.Keyed
import DeclaredTriggers.Trigger.Builder

/-!
# Registries

A registry holds the triggers that were declared, each for its entity, under their URIs. It
accepts a trigger only if neither its name on the table nor its identifier is taken, so that each
entry has a place of its own in the database.
-/

namespace DeclaredTriggers

/-- A trigger declared for an entity. -/
structure Entry where
  entity : Entity
  trigger : Trigger
  /-- What the trigger and its function are called in the database. -/
  pgid : String
  pgid_eq : trigger.pgid entity = .ok pgid

namespace Entry

/-- What the entry is called. -/
def uri (x : Entry) : String := x.trigger.uri x.entity

def table (x : Entry) : String := x.entity.table

/-- The database the entry lives in. -/
def database (x : Entry) (r : Router) : String := r.database x.entity

end Entry

/-- The triggers that were declared, by their URIs. -/
structure Registry where
  byUri : Keyed Entry := Keyed.empty

namespace Registry

/-- The entries in the order of their URIs. -/
def entries (r : Registry) : List Entry := r.byUri.values

/-- How many entries there are. -/
def size (r : Registry) : Nat := r.byUri.size

/-- The entry with a URI. -/
def find? (r : Registry) (uri : String) : Option Entry := r.byUri.find? uri

/-- The first entry with an identifier. -/
def byPgid? (r : Registry) (pgid : String) : Option Entry := r.entries.find? (·.pgid = pgid)

/-- The first entry whose trigger has a name on a table. -/
def named? (r : Registry) (table name : String) : Option Entry :=
  r.entries.find? fun x => x.table = table && x.trigger.name = name

/-- The registry with an entry in its place. -/
def put (r : Registry) (x : Entry) : Registry := ⟨r.byUri.insert x.uri x⟩

/-- The registry without a URI. -/
def erase (r : Registry) (uri : String) : Registry := ⟨r.byUri.erase uri⟩

/-- The registry with one more trigger. The same trigger may be declared again. -/
def register (r : Registry) (e : Entity) (t : Trigger) : Except Error Registry :=
  match h : t.pgid e with
  | .error fault => throw fault
  | .ok pgid =>
    match r.named? e.table t.name with
    | some existing =>
      if existing.trigger.same t then pure (r.put ⟨e, t, pgid, h⟩)
      else throw (.nameAlreadyUsed t.name e.table existing.uri)
    | none =>
      match r.byPgid? pgid with
      | some existing => throw (.functionNameAlreadyUsed pgid existing.uri)
      | none => pure (r.put ⟨e, t, pgid, h⟩)

/-- The entry that a URI names. -/
def lookup (r : Registry) (uri : String) : Except Error Entry :=
  if !uri.toList.contains ':' then throw (.invalidUri uri)
  else
    match r.find? uri with
    | some x => pure x
    | none => throw (.notRegistered uri)

/-- The entries that URIs name, in their order. -/
def resolve (r : Registry) (uris : List String) : Except Error (List Entry) := uris.mapM r.lookup

/-- The entries that URIs name, or all of them if there are no URIs. -/
def targets (r : Registry) (uris : List String) : Except Error (List Entry) :=
  if uris.isEmpty then pure r.entries else r.resolve uris

/-- The entries that URIs name, or those that live in one of some databases, or all. -/
def select (r : Registry) (uris databases : List String) (router : Router) :
    Except Error (List Entry) :=
  if uris.isEmpty then
    pure (r.entries.filter fun x => databases.isEmpty || databases.contains (x.database router))
  else if databases.isEmpty then r.resolve uris
  else throw (.usage .urisAndDatabase)

/-- The databases that entries live in, each once and in order. -/
def databases (r : Registry) (router : Router) : List String :=
  (Names.ofList (r.entries.map (·.database router))).keys

/-- The tables, as they are quoted, and identifiers of all entries, each pair once and in
order. -/
def installedPairs (r : Registry) : List (String × String) :=
  let byTable := r.entries.foldl
    (fun m x => m.update (Sql.quote x.table) Keyed.empty (Names.add · x.pgid))
    (Keyed.empty : Keyed Names)
  byTable.entries.flatMap fun (table, pgids) => pgids.keys.map (table, ·)

end Registry

end DeclaredTriggers
