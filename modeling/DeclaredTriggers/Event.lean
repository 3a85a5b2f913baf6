import DeclaredTriggers.Error
import DeclaredTriggers.Hook.Context

/-!
# Events

What can be observed from the side while statements are sent: what hooks were shown, and the lines
of the log. An event says what happened; `Event.line?` words it for the log.
-/

namespace DeclaredTriggers

/-- How much a line of the log matters. -/
inductive Severity where
  | error
  | warn
  | info
  | debug
  | trace
  deriving DecidableEq

def Severity.name : Severity → String
  | .error => "ERROR"
  | .warn => "WARN"
  | .info => "INFO"
  | .debug => "DEBUG"
  | .trace => "TRACE"

/-- What reconciliation does to one trigger. -/
inductive Verb where
  | install
  | uninstall
  | enable
  | disable
  deriving DecidableEq

def Verb.text : Verb → String
  | .install => "Installing"
  | .uninstall => "Uninstalling"
  | .enable => "Enabling"
  | .disable => "Disabling"

/-- Something the operator is told. -/
inductive Notice where
  /-- A failed transaction is rolled back so that settings can be reset. -/
  | resettingAfterFailure
  | rollbackFailed (error : Error)
  | savepointRollbackFailed (error : Error)
  | reconciling (verb : Verb) (uri trigger table database : String)
  | pruning (pgid table database : String)
  /-- A trigger gives way to the alteration of a column. -/
  | giveWay (pgid table : String)

/-- The value of a field in a line of the log. -/
inductive FieldValue where
  | text (s : String)
  | number (n : Nat)

/-- A line of the log. -/
structure LogLine where
  target : String
  severity : Severity
  message : Option String
  fields : List (String × FieldValue)

/-- Something that happened while statements were sent. -/
inductive Event where
  /-- A hook was shown a statement. -/
  | before (hook : String) (context : Hook.Context)
  /-- A hook was told what came of a statement. -/
  | after (hook : String) (context : Hook.Context) (outcome : Hook.Outcome)
  /-- A statement was logged, as `sql`. -/
  | statement (severity : Severity) (context : Hook.Context) (sql : String)
  /-- What came of a statement was logged. -/
  | outcome (severity : Severity) (context : Hook.Context) (outcome : Hook.Outcome)
  | notice (n : Notice)

/-- A notice as a line of the log. -/
def Notice.line : Notice → LogLine
  | .resettingAfterFailure =>
    ⟨"pgtrigger.runtime", .warn, "rolling back failed transaction to reset session settings", []⟩
  | .rollbackFailed e => ⟨"pgtrigger", .warn, "rollback failed", [("error", .text e.message)]⟩
  | .savepointRollbackFailed e =>
    ⟨"pgtrigger", .warn, "savepoint rollback failed", [("error", .text e.message)]⟩
  | .reconciling verb uri trigger table database =>
    ⟨"pgtrigger", .info,
      s!"{verb.text} {trigger} trigger for {table} table on {database} database.",
      [("uri", .text uri)]⟩
  | .pruning pgid table database =>
    ⟨"pgtrigger", .info, s!"Pruning trigger {pgid} for table {table} on {database} database.", []⟩
  | .giveWay pgid table =>
    ⟨"pgtrigger", .info, s!"Dropping trigger {pgid} to alter column on {table} table.",
      [("pgid", .text pgid), ("table", .text table)]⟩

/-- The tag of a context in the log. -/
def Hook.Context.shownTag (c : Hook.Context) : String := c.tag.getD "-"

/-- The line of the log that an event leaves, if it leaves one. -/
def Event.line? : Event → Option LogLine
  | .before .. | .after .. => none
  | .statement severity c sql =>
    some ⟨"pgtrigger.sql", severity, none, [
      ("query_type", .text c.kind.name), ("tag", .text c.shownTag),
      ("param_count", .number c.params), ("sql", .text sql),
      ("fields", .text (Text.shownPairs c.fields.entries))]⟩
  | .outcome severity c o =>
    some ⟨"pgtrigger.sql", severity, none, [
      ("query_type", .text c.kind.name), ("tag", .text c.shownTag), ("result", .text o.text)]⟩
  | .notice n => some n.line

end DeclaredTriggers
