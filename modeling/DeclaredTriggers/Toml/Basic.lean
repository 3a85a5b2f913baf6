/-!
# TOML values

The values of a TOML document. Tables and arrays remember how they were written, because that
decides which lines below may still add to them: a table that only longer headers name can get a
header of its own, one made by a dotted key can get more dotted keys, and one in braces is closed.
-/

namespace DeclaredTriggers

/-- How a table came to be. -/
inductive Toml.Origin where
  /-- It stands in braces. -/
  | braces
  /-- A dotted key goes through it. -/
  | dotted
  /-- Only headers of tables inside it name it. -/
  | implied
  /-- It has a header of its own. -/
  | header
  deriving DecidableEq

/-- A TOML value. -/
inductive Toml where
  | text (s : String)
  | bool (b : Bool)
  /-- A number, a date or a time, as it is spelled. -/
  | plain (spelling : String)
  /-- An array in brackets. -/
  | array (values : List Toml)
  /-- An array of tables that have headers. -/
  | tables (values : List Toml)
  | table (origin : Toml.Origin) (entries : List (String × Toml))

namespace Toml

/-- The entries of a table, in the order of their first lines. -/
abbrev Entries := List (String × Toml)

/-- The entries with the value of `k`, nothing if it has none, replaced by its image. -/
def change? (k : String) (f : Option Toml → Option Toml) : Entries → Option Entries
  | [] => (f none).map fun v => [(k, v)]
  | (k', v) :: rest =>
    if k' = k then (f (some v)).map fun v => (k, v) :: rest
    else (change? k f rest).map ((k', v) :: ·)

/-- The entries with the value of a dotted key, whose last part is `k`, added to them. -/
def put? (k : String) (v : Toml) : List String → Entries → Option Entries
  | [], es =>
    change? k (fun
      | none => some v
      | some _ => none) es
  | p :: path, es =>
    change? p (fun
      | none => (put? k v path []).map (.table .dotted)
      | some (.table .dotted inner) => (put? k v path inner).map (.table .dotted)
      | some (.table .implied inner) => (put? k v path inner).map (.table .implied)
      | some _ => none) es

/-- The entries with those of the table at a header's path, in an array of tables those of the last
one, replaced by their image. -/
def within? (f : Entries → Option Entries) : List String → Entries → Option Entries
  | [], es => f es
  | p :: path, es =>
    change? p (fun
      | none => (within? f path []).map (.table .implied)
      | some (.table .braces _) => none
      | some (.table origin inner) => (within? f path inner).map (.table origin)
      | some (.tables vs) =>
        match vs.getLast? with
        | some (.table origin inner) =>
          (within? f path inner).map fun inner => .tables (vs.dropLast ++ [.table origin inner])
        | _ => none
      | some _ => none) es

/-- The entries with a table opened at `k`. -/
def openTable? (k : String) : Entries → Option Entries :=
  change? k fun
    | none => some (.table .header [])
    | some (.table .implied inner) => some (.table .header inner)
    | some _ => none

/-- The entries with one more table opened in the array at `k`. -/
def openNext? (k : String) : Entries → Option Entries :=
  change? k fun
    | none => some (.tables [.table .header []])
    | some (.tables vs) => some (.tables (vs ++ [.table .header []]))
    | some _ => none

/-- A line of a document; of its key or header, the path and the last part. -/
inductive Line where
  | entry (path : List String) (k : String) (v : Toml)
  | header (path : List String) (k : String)
  | nextHeader (path : List String) (k : String)

/-- The entries of a document so far, and the path of the header that its lines stand under. -/
structure Draft where
  entries : Entries := []
  here : List String := []

/-- A draft with one more line. -/
def Draft.add? (d : Draft) : Line → Option Draft
  | .entry path k v => (within? (put? k v path) d.here d.entries).map ({ d with entries := · })
  | .header path k => (within? (openTable? k) path d.entries).map (⟨·, path ++ [k]⟩)
  | .nextHeader path k => (within? (openNext? k) path d.entries).map (⟨·, path ++ [k]⟩)

/-- The table that the lines of a document describe. -/
def ofLines? (lines : List Line) : Option Toml :=
  (lines.foldlM Draft.add? {}).map (.table .header ·.entries)

/-- The parts of a record with the given names: those of a table by name, if it has no other, and
those of an array by place. -/
def parts? (names : List String) : Toml → Option (List (Option Toml))
  | .table _ es =>
    if es.all (names.contains ·.1) then some (names.map fun n => List.lookup n es) else none
  | .array vs | .tables vs => some (names.mapIdx fun i _ => vs[i]?)
  | _ => none

/-- The text that a value is. -/
def asText? : Toml → Option String
  | .text s => some s
  | _ => none

/-- The truth value that a value is. -/
def asBool? : Toml → Option Bool
  | .bool b => some b
  | _ => none

/-- The values of an array. -/
def asList? : Toml → Option (List Toml)
  | .array vs | .tables vs => some vs
  | _ => none

end Toml

end DeclaredTriggers
