import DeclaredTriggers.Digest.Sha1
import DeclaredTriggers.Text.Bytes
import DeclaredTriggers.Trigger.Kind

/-!
# Triggers

A trigger is a definition that passed every check: its name is short and plain, its level, moment
and timing go together, and its kind has all it needs. It is bound to a table only by an entity.
`Trigger.pgid` is the name that the trigger and its function have in the database: the trigger's
own name between a fixed beginning and five digits of a digest of its URI.
-/

namespace DeclaredTriggers

/-- Whether a trigger fires for each row or once for each statement. -/
inductive Level where
  | row
  | statement
  deriving DecidableEq

def Level.sql : Level → String
  | .row => "ROW"
  | .statement => "STATEMENT"

/-- When a trigger fires, as seen from its operation. -/
inductive Moment where
  | before
  | after
  | insteadOf
  deriving DecidableEq

def Moment.sql : Moment → String
  | .before => "BEFORE"
  | .after => "AFTER"
  | .insteadOf => "INSTEAD OF"

/-- Whether a constraint trigger waits for the end of the transaction. -/
inductive Timing where
  | immediate
  | deferred
  deriving DecidableEq

def Timing.sql : Timing → String
  | .immediate => "IMMEDIATE"
  | .deferred => "DEFERRED"

/-- The names under which a statement-level trigger sees the rows before and after. -/
structure TransitionTables where
  old : Option String
  new : Option String
  deriving DecidableEq

namespace TransitionTables

/-- Transition tables with at least one name. -/
def make (old new : Option String) : Except Error TransitionTables :=
  if old.isNone && new.isNone then throw (.definition .noTransitionTable) else pure ⟨old, new⟩

def sql (t : TransitionTables) : String :=
  "REFERENCING" ++ (t.old.elim "" (" OLD TABLE AS " ++ ·)) ++
    (t.new.elim "" (" NEW TABLE AS " ++ ·))

end TransitionTables

/-- The longest name a trigger can have, in bytes. -/
def maxNameLength : Nat := 47

/-- The longest identifier the database keeps whole, in bytes. -/
def maxIdentifierLength : Nat := 63

/-- What the identifier of every managed trigger begins with. -/
def identifierLead : String := "pgtrigger_"

/-- The parts of a trigger. -/
structure Definition where
  name : String
  level : Level
  moment : Moment
  operation : Operation
  condition : Option Condition
  tables : Option TransitionTables
  /-- Variables of the function, as pairs of name and type. -/
  declare : List (String × String)
  timing : Option Timing
  kind : Kind

namespace Definition

/-- Equality of definitions. -/
def same (a b : Definition) : Bool :=
  a.name = b.name && a.level = b.level && a.moment = b.moment && a.operation = b.operation &&
    (match a.condition, b.condition with
      | none, none => true
      | some c, some d => c.same d
      | _, _ => false) &&
    a.tables = b.tables && a.declare = b.declare && a.timing = b.timing && a.kind.same b.kind

/-- Whether a character may stand in a trigger's name. -/
def isNameCharacter (c : Char) : Bool := c.isAlphanum || c = '_' || c = '-'

/-- What is wrong with a trigger's name. -/
def nameFault? (name : String) : Option DefinitionFault :=
  if name.isEmpty then some .noName
  else if maxNameLength < Text.byteSize name then some (.nameTooLong name)
  else if !name.toList.all isNameCharacter then some (.nameCharacters name)
  else none

/-- What is wrong with the way the parts go together. -/
def fault? (d : Definition) : Option DefinitionFault :=
  if d.operation = .anyOf [] then some .emptyOperations
  else if d.level = .row && d.tables.isSome then some .rowTransitionTables
  else if d.timing.isSome && d.level ≠ .row then some .deferredStatement
  else if d.timing.isSome && d.moment ≠ .after then some .deferredEarly
  else d.kind.fault?

end Definition

/-- A definition that passed every check. -/
structure Trigger extends Definition where
  named : Definition.nameFault? name = none
  sound : toDefinition.fault? = none

namespace Trigger

/-- Equality of triggers: the same definition. -/
def same (a b : Trigger) : Bool := a.toDefinition.same b.toDefinition

/-- Whether the trigger may be ignored for a while. -/
def canIgnore (t : Trigger) : Bool := t.kind.canIgnore

/-- What the trigger is called: the entity's label and the trigger's name. -/
def uri (t : Trigger) (e : Entity) : String := e.label ++ ":" ++ t.name

/-- The identifier of the trigger and its function in the database. -/
def pgid (t : Trigger) (e : Entity) : Except Error String :=
  let digits := (Digest.sha1 (t.uri e)).toList.take 5
  let pgid := identifierLead ++ t.name ++ "_" ++ String.ofList digits
  if maxIdentifierLength < Text.byteSize pgid then throw (.definition (.identifierTooLong pgid))
  else pure (Sql.folded pgid)

end Trigger

end DeclaredTriggers
