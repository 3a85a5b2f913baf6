import DeclaredTriggers.Install.Template
import DeclaredTriggers.Settings
import DeclaredTriggers.Trigger.Builder

/-!
# Compiled triggers

A trigger compiled for one entity: its name and the statements that install it. The `WHEN` clause
holds the trigger's own condition and the one its kind brings, between parentheses that close at
the clause's end.
-/

namespace DeclaredTriggers

/-- Whether the parenthesis that brings the depth back to zero is the last character of a text;
`depth` are open, and `inString` says whether a string literal is. -/
def closesAtEnd (depth : Nat) (inString : Bool) : List Char → Bool
  | [] => false
  | c :: rest =>
    if c = '\'' then closesAtEnd depth (!inString) rest
    else if c = '(' && !inString then closesAtEnd (depth + 1) inString rest
    else if c = ')' && !inString then
      if depth ≤ 1 then rest.isEmpty else closesAtEnd (depth - 1) inString rest
    else closesAtEnd depth inString rest

/-- Whether a text begins with a parenthesis that its last character closes. -/
def isParenthesised (text : List Char) : Bool :=
  Text.begins ['('] text && Text.ends [')'] text && closesAtEnd 0 false text

namespace Trigger

/-- The trigger's own condition and the one its kind brings. -/
def fullCondition? (t : Trigger) : Option Condition :=
  match t.condition, t.kind.condition? with
  | some own, some implied => some (own.and implied)
  | some own, none => some own
  | none, implied => implied

/-- The `WHEN` clause, empty for a trigger without a condition. -/
def whenClause (t : Trigger) (e : Entity) : Except Error String :=
  match t.fullCondition? with
  | none => pure ""
  | some c => do
    let text ← c.sql e
    let text := Text.trimmed text
    pure (if isParenthesised text.toList then "WHEN " ++ text else "WHEN (" ++ text ++ ")")

/-- The `DECLARE` block, empty for a function without variables. -/
def declareBlock (t : Trigger) : String :=
  match t.kind.declarations t.declare with
  | [] => ""
  | ds => "DECLARE \n" ++ "\n".intercalate (ds.map fun (name, type) => s!"{name} {type};")

/-- The body of the trigger's function. -/
def body (t : Trigger) (e : Entity) : Except Error String := t.kind.body e t.operation

/-- The template's parameters for the trigger, every one of them set. -/
def installParams (t : Trigger) (e : Entity) (s : Settings) : Except Error InstallParams := do
  let pgid ← t.pgid e
  let func ← t.body e
  let condition ← t.whenClause e
  let execute ← t.kind.execute e pgid
  pure
    { ignoreFuncName := some (Sql.ignoreFunction s.schema)
      pgid
      declare := some t.declareBlock
      func
      table := e.table
      constraint := t.timing.map fun _ => "CONSTRAINT"
      moment := t.moment.sql
      operation := t.operation.sql e
      timing := t.timing.map fun d => "DEFERRABLE INITIALLY " ++ d.sql
      referencing := t.tables.map TransitionTables.sql
      level := some t.level.sql
      condition := some condition
      execute := some execute }

end Trigger

/-- A trigger compiled for one table. -/
structure CompiledTrigger where
  name : String
  sql : InstallSql
  deriving DecidableEq, Inhabited

namespace CompiledTrigger

/-- A compiled trigger put together again from its parts; the hash is taken as it is. -/
def ofParts (name : String) (version : TemplateVersion) (p : InstallParams) (hash : String) :
    CompiledTrigger :=
  ⟨name, .withHash version p hash⟩

def pgid (c : CompiledTrigger) : String := c.sql.params.pgid

def table (c : CompiledTrigger) : String := c.sql.params.table

def hash (c : CompiledTrigger) : String := c.sql.hash

def installSql (c : CompiledTrigger) : String := c.sql.text

def uninstallSql (c : CompiledTrigger) : String := dropTriggerSql c.pgid c.table

def enableSql (c : CompiledTrigger) : String := enableTriggerSql c.pgid c.table

def disableSql (c : CompiledTrigger) : String := disableTriggerSql c.pgid c.table

end CompiledTrigger

namespace Trigger

/-- The trigger compiled for an entity. -/
def compile (t : Trigger) (e : Entity) (s : Settings) : Except Error CompiledTrigger := do
  let p ← t.installParams e s
  pure ⟨t.name, .ofParams p⟩

/-- The statements that install the trigger. -/
def installSql (t : Trigger) (e : Entity) (s : Settings) : Except Error String := do
  let c ← t.compile e s
  pure c.installSql

/-- The statement that uninstalls the trigger. -/
def uninstallSql (t : Trigger) (e : Entity) : Except Error String := do
  let pgid ← t.pgid e
  pure (dropTriggerSql pgid e.table)

/-- The hash that the installed trigger carries. -/
def hash (t : Trigger) (e : Entity) (s : Settings) : Except Error String := do
  let c ← t.compile e s
  pure c.hash

end Trigger

end DeclaredTriggers
