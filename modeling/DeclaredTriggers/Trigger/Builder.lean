import DeclaredTriggers.Trigger.Basic

/-!
# Building a trigger

A builder holds what has been said about a trigger so far. Its parts can be set in any order, and
a later word on one part replaces the earlier; `Builder.build` makes the checks and gives the
trigger. `Builder.ofTrigger` starts from a trigger that exists, for one that differs in a few
parts.
-/

namespace DeclaredTriggers

/-- What has been said about a trigger. -/
structure Builder where
  name : String
  level : Level := .row
  moment : Option Moment := none
  operation : Option Operation := none
  condition : Option Condition := none
  tables : Option TransitionTables := none
  declare : List (String × String) := []
  timing : Option Timing := none
  kind : Option Kind := none

namespace Builder

/-- The trigger that was described, or the first thing that is wrong with it. -/
def build (b : Builder) : Except Error Trigger :=
  match hn : Definition.nameFault? b.name with
  | some fault => throw (.definition fault)
  | none =>
    match b.moment, b.operation, b.kind with
    | none, _, _ => throw (.definition .noMoment)
    | some _, none, _ => throw (.definition .noOperation)
    | some _, some _, none => throw (.definition .noKind)
    | some moment, some operation, some kind =>
      let d : Definition :=
        { name := b.name, level := b.level, moment, operation, condition := b.condition,
          tables := b.tables, declare := b.declare, timing := b.timing, kind }
      match hd : d.fault? with
      | some fault => throw (.definition fault)
      | none => pure ⟨d, hn, hd⟩

/-- A builder with everything said that a trigger says. -/
def ofTrigger (t : Trigger) : Builder :=
  { name := t.name, level := t.level, moment := some t.moment, operation := some t.operation,
    condition := t.condition, tables := t.tables, declare := t.declare, timing := t.timing,
    kind := some t.kind }

/-- One more variable of the function. -/
def declaring (b : Builder) (name type : String) : Builder :=
  { b with declare := b.declare ++ [(name, type)] }

/-- Another text search configuration, if a search vector is kept. -/
def searching (b : Builder) (config : String) : Builder :=
  match b.kind with
  | some (.searchVector vector documents _) =>
    { b with kind := some (.searchVector vector documents config) }
  | _ => b

/-- A trigger that forbids an operation. -/
def protect (name : String) (operation : Operation) : Builder :=
  { name, moment := some .before, operation := some operation, kind := some .protect }

/-- A trigger that forbids updates of `fields`, or of all but `exclude`. -/
def readOnly (name : String) (fields exclude : List String) : Builder :=
  { name, moment := some .before, operation := some .update,
    kind := some (.readOnly fields exclude) }

/-- A trigger that turns deletes into updates of one field. -/
def softDelete (name field : String) (value : Value) : Builder :=
  { name, moment := some .before, operation := some .delete,
    kind := some (.softDelete field value) }

/-- A trigger that holds a field to the transitions of a state machine. -/
def stateMachine (name field : String) (transitions : List (String × String)) : Builder :=
  { name, moment := some .before, operation := some .update,
    kind := some (.stateMachine field transitions) }

/-- A trigger that keeps a search vector up to date. -/
def searchVector (name vector : String) (documents : List String) : Builder :=
  { name, moment := some .before, operation := some (.or .insert (.updateOf documents)),
    kind := some (.searchVector vector documents "pg_catalog.english") }

end Builder

end DeclaredTriggers
