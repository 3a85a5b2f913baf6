import DeclaredTriggers.Command.Request

/-!
# Help

The texts that explain the commands.
-/

namespace DeclaredTriggers.Command

/-- The help on all commands. -/
def overview : String :=
  "pgtrigger - manage registered Postgres triggers

USAGE:
  <app> <COMMAND> [URIS...] [OPTIONS]

COMMANDS:
  ls            List trigger status (and orphans that would be pruned)
  install       Install triggers
  uninstall     Uninstall triggers
  enable        Enable triggers
  disable       Disable triggers
  prune         Drop installed triggers that are no longer registered

OPTIONS:
  --config <FILE>         Config file path (default: pgtrigger.toml)
  -d, --database <NAME>   Only act on this database (repeatable)
  -s, --schema <NAME>     Add a schema to the search path (repeatable)
  -h, --help              Print help

URIs have the form <entity>:<trigger>, e.g. library.Book:protect_deletes.
Run \x60<app> <command> --help\x60 for more."

/-- How a command is written. -/
def usage (c : Command) : String :=
  "USAGE:\n  <app> " ++ c.name ++ (if c = .prune then "" else " [URIS...]") ++ " [OPTIONS]\n\n"

/-- What a command does. -/
def description : Command → String
  | .list =>
    "Prints one line per trigger:
  <uri>  <database>  INSTALLED|UNINSTALLED|OUTDATED|UNALLOWED  ENABLED|DISABLED

Without URIs, installed triggers that nothing registers are listed as PRUNE."
  | .enable | .disable =>
    "Flips the enabled flag of installed triggers. Without URIs, acts on every
installed trigger that needs it."
  | .prune =>
    "Drops pgtrigger_* triggers on tables in the search path that no registered
trigger accounts for."
  | c =>
    "Without URIs, acts on every trigger not already " ++ c.name ++ "ed and prunes
orphaned triggers afterwards.

OPTIONS:
  --no-prune              Skip pruning after a bulk " ++ c.name

/-- The help on a command, or on all of them. -/
def help : Option Command → String
  | none => overview
  | some c => c.usage ++ c.description

end DeclaredTriggers.Command
