import DeclaredTriggers.Condition.Basic
import DeclaredTriggers.Text.LetterCase
import DeclaredTriggers.Trigger.Operation

/-!
# Kinds of trigger

What a trigger does when it fires: run a body of the caller's, forbid its operations, forbid
changes of some fields, turn a delete into an update, hold a field to the transitions of a state
machine, or keep a search vector up to date. A kind gives the trigger its body, its procedure
call and, for read-only fields, a condition of its own.
-/

namespace DeclaredTriggers

/-- What a trigger does. -/
inductive Kind where
  /-- A body of the caller's. -/
  | custom (body : String)
  /-- Raise an exception on every operation of the trigger. -/
  | protect
  /-- Raise an exception when one of the selected fields changes. -/
  | readOnly (fields exclude : List String)
  /-- Turn a delete into an update of `field` to `value`. -/
  | softDelete (field : String) (value : Value)
  /-- Allow only the listed transitions of `field`. -/
  | stateMachine (field : String) (transitions : List (String × String))
  /-- Keep a search vector up to date with the documents it is made of. -/
  | searchVector (vector : String) (documents : List String) (config : String)
  deriving Inhabited

namespace Kind

/-- The short name of a kind, for messages. -/
def name : Kind → String
  | .custom _ => "Trigger"
  | .protect => "Protect"
  | .readOnly .. => "ReadOnly"
  | .softDelete .. => "SoftDelete"
  | .stateMachine .. => "FSM"
  | .searchVector .. => "UpdateSearchVector"

/-- Whether a trigger of this kind may be ignored for a while. The procedure of a search vector
is the database's own and does not ask. -/
def canIgnore : Kind → Bool
  | .searchVector .. => false
  | _ => true

/-- Equality of kinds. -/
def same : Kind → Kind → Bool
  | .custom a, .custom b => a = b
  | .protect, .protect => true
  | .readOnly a b, .readOnly c d => a = c && b = d
  | .softDelete a v, .softDelete b w => a = b && v.same w
  | .stateMachine a s, .stateMachine b t => a = b && s = t
  | .searchVector a s p, .searchVector b t q => a = b && s = t && p = q
  | _, _ => false

/-- Characters with a meaning in a list of transitions. -/
def reserved : List Char := [':', ',', '\x7b', '\x7d', '"', '\\', '\'']

/-- Whether a state's name holds a character with a meaning of its own. -/
def isReservedState (state : String) : Bool := state.toList.any (reserved.contains ·)

/-- What is wrong with a kind. -/
def fault? : Kind → Option DefinitionFault
  | .custom body => if Text.isBlankText body then some .blankBody else none
  | .protect => none
  | .readOnly fields exclude =>
    if !fields.isEmpty && !exclude.isEmpty then some .fieldsAndExclude else none
  | .softDelete field _ => if field.isEmpty then some .softDeleteField else none
  | .stateMachine field transitions =>
    if field.isEmpty then some .machineField
    else if transitions.isEmpty then some .noTransition
    else
      (transitions.find? fun (a, b) => isReservedState a || isReservedState b).map fun (a, b) =>
        .reservedState a b
  | .searchVector vector documents config =>
    if vector.isEmpty then some .vectorField
    else if documents.isEmpty then some .documentFields
    else if config.isEmpty then some .searchConfig
    else none

/-- The variables the function declares, as pairs of name and type. -/
def declarations (k : Kind) (own : List (String × String)) : List (String × String) :=
  match k with
  | .stateMachine .. => [("_is_valid_transition", "BOOLEAN")]
  | _ => own

/-- The condition that a kind brings with it. -/
def condition? : Kind → Option Condition
  | .readOnly fields exclude => some (.change { kind := .any, fields, exclude })
  | _ => none

/-- The list of transitions as the text of an array. -/
def transitionArray (transitions : List (String × String)) : String :=
  "\x7b" ++ ",".intercalate (transitions.map fun (a, b) => a ++ ":" ++ b) ++ "\x7d"

/-- The test of a transition, and the exception for one that is not listed. -/
def machineBody (column array field : String) : String :=
  s!"SELECT CONCAT(OLD.{column}, ':', NEW.{column}) = ANY({array}::text[]) " ++
  "INTO _is_valid_transition; " ++
  s!"IF (_is_valid_transition IS FALSE AND OLD.{column} IS DISTINCT FROM NEW.{column}) THEN " ++
  "RAISE EXCEPTION 'pgtrigger: Invalid transition of field \"" ++ Text.quotesDoubled field ++
  "\" from \"%\" to \"%\" on table %', " ++
  s!"OLD.{column}, NEW.{column}, TG_TABLE_NAME; " ++
  "ELSE RETURN NEW; END IF;"

/-- What stands between `BEGIN` and `END` in the function. -/
def body (k : Kind) (e : Entity) (op : Operation) : Except Error String :=
  match k with
  | .custom body => pure body
  | .protect | .readOnly .. =>
    pure ("RAISE EXCEPTION 'pgtrigger: Cannot " ++
      Text.quotesDoubled (Text.lowercase op.display) ++ " rows from % table', TG_TABLE_NAME;")
  | .softDelete field value => do
    let column ← e.column field
    let key := Sql.quoteName e.primaryKey
    let value ← value.sql
    pure ("UPDATE " ++ Sql.quote e.table ++ " SET " ++ Sql.quoteName column ++ " = " ++ value ++
      s!" WHERE {key} = OLD.{key}; RETURN NULL;")
  | .stateMachine field transitions => do
    let column ← e.column field
    let array ← Sql.quoteLiteral (transitionArray transitions)
    pure (machineBody (Sql.quoteName column) array field)
  | .searchVector .. => pure ""

/-- The procedure that the trigger executes. -/
def execute (k : Kind) (e : Entity) (pgid : String) : Except Error String :=
  match k with
  | .searchVector vector documents config => do
    let documents ← documents.mapM e.column
    let vector ← e.column vector
    pure ("tsvector_update_trigger(" ++ Sql.quote vector ++ ", " ++ Sql.quote config ++ ", " ++
      ", ".intercalate (documents.map Sql.quote) ++ ")")
  | _ => pure (Sql.triggerName pgid ++ "()")

end Kind

end DeclaredTriggers
