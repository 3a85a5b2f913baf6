import DeclaredTriggers.Keyed
import DeclaredTriggers.Sql.Quoting

/-!
# Overrides

What a worker overrides for a while on all its connections: the triggers that are ignored and the
schemas searched before all others. A connection is told of them by `SET`, or by `SET LOCAL` for
one transaction only.
-/

namespace DeclaredTriggers

/-- Triggers to ignore and schemas to search. -/
structure Overrides where
  /-- The identifiers of the triggers that are ignored. -/
  ignored : Names := Keyed.empty
  /-- The schemas to search, each once, in order. -/
  schemas : List String := []

namespace Overrides

/-- Ignores triggers; the identifiers that were not ignored before are given back. -/
def addIgnored (o : Overrides) : List String → List String × Overrides
  | [] => ([], o)
  | id :: ids =>
    if o.ignored.contains id then o.addIgnored ids
    else
      let (added, o) := addIgnored { o with ignored := o.ignored.add id } ids
      (id :: added, o)

/-- Ignores triggers no longer. -/
def removeIgnored (o : Overrides) (ids : List String) : Overrides :=
  { o with ignored := ids.foldl Keyed.erase o.ignored }

/-- Searches schemas after those there are; the ones that were not searched before are given
back. -/
def addSchemas (o : Overrides) : List String → List String × Overrides
  | [] => ([], o)
  | s :: rest =>
    if o.schemas.contains s then o.addSchemas rest
    else
      let (added, o) := addSchemas { o with schemas := o.schemas ++ [s] } rest
      (s :: added, o)

/-- Searches schemas no longer. -/
def removeSchemas (o : Overrides) (schemas : List String) : Overrides :=
  { o with schemas := o.schemas.filter (!schemas.contains ·) }

/-- The word that sets something, for the transaction or for good. -/
def setWord (isLocal : Bool) : String := if isLocal then "SET LOCAL" else "SET"

/-- The statement that tells a connection which triggers are ignored. -/
def ignoreSql (o : Overrides) (isLocal : Bool) : String :=
  setWord isLocal ++ " pgtrigger.ignore='\x7b" ++ ",".intercalate o.ignored.keys ++ "\x7d';"

/-- The statement that tells a connection which schemas to search, if there are any. -/
def pathSql? (o : Overrides) (isLocal : Bool) : Option String :=
  if o.schemas.isEmpty then none
  else
    some (setWord isLocal ++ " search_path=" ++ ",".intercalate (o.schemas.map Sql.quoteName) ++
      ";")

end Overrides

end DeclaredTriggers
