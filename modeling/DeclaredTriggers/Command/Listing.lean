import DeclaredTriggers.Reconcile.Catalog

/-!
# Listings

The lines that say how triggers stand: for each a URI or a table and a name, the database, and one
or two words, with tabs between them. The words may be coloured for a terminal.
-/

namespace DeclaredTriggers.Command

/-- How a word looks. -/
inductive Tint where
  | red
  | green
  | yellow
  | magenta
  | dimmed
  deriving DecidableEq

/-- The number that terminals know a look by. -/
def Tint.code : Tint → Nat
  | .red => 31
  | .green => 32
  | .yellow => 33
  | .magenta => 35
  | .dimmed => 2

/-- A word as it is shown; a word that is empty has no colour. -/
def tinted (coloured : Bool) (tint : Tint) (word : String) : String :=
  if coloured && !word.isEmpty then
    "\x1b[" ++ toString tint.code ++ "m" ++ word ++ "\x1b[0m"
  else word

/-- How a state looks. -/
def stateTint : InstallState → Tint
  | .installed => .green
  | .outdated => .yellow
  | .uninstalled => .red
  | .unallowed => .dimmed

/-- The word for whether a trigger is enabled. -/
def enabledWord (coloured : Bool) : Option Bool → String
  | some true => tinted coloured .green "ENABLED"
  | some false => tinted coloured .red "DISABLED"
  | none => ""

/-- Columns with tabs between them. -/
def columns (cells : List String) : String := "\t".intercalate cells

/-- The line for a registered trigger. -/
def statusLine (coloured : Bool) (uri database : String) (s : Status) : String :=
  columns [uri, database, tinted coloured (stateTint s.state) s.state.name,
    enabledWord coloured s.enabled]

/-- The line for a trigger that nobody registered. -/
def pruneLine (coloured : Bool) (database : String) (c : PruneCandidate) : String :=
  columns [c.table ++ ":" ++ c.pgid, database, tinted coloured .magenta "PRUNE",
    enabledWord coloured (some c.enabled)]

end DeclaredTriggers.Command
