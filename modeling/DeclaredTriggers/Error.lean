import DeclaredTriggers.Decimal.Shortest
import DeclaredTriggers.Text.Shown

/-!
# What can go wrong

Every refusal of the library is a value that says what was wrong and with what. The wording is in
one place, `Error.message`; nothing else reads it.
-/

namespace DeclaredTriggers

open Text (shown)

/-- Why a text is no identifier. -/
inductive IdentifierFault where
  | empty
  | nulCharacter
  | trailingDot
  | missingDot (found : Char)
  | unclosedQuote
  | emptyQuoted
  | invalidCharacter (found : Char)
  | emptySegment
  deriving DecidableEq

def IdentifierFault.message : IdentifierFault → String
  | .empty => "Identifier cannot be empty"
  | .nulCharacter => "Identifier cannot contain NUL character"
  | .trailingDot => "Trailing '.' in identifier"
  | .missingDot c => s!"Expected '.' between identifier parts, got '{c}'"
  | .unclosedQuote => "Unclosed quoted identifier"
  | .emptyQuoted => "Empty quoted identifier"
  | .invalidCharacter c => s!"Invalid character in identifier: '{c}'"
  | .emptySegment => "Empty identifier segment"

/-- Why a condition or a trigger is no valid definition. -/
inductive DefinitionFault where
  | nulInLiteral
  | notFinite (number : Decimal.Binary)
  | needsBoolean (key : String)
  | needsSomeValue (key : String)
  | needsList (key : String)
  | needsText (key : String)
  | refusesList (key : String)
  | noFieldSelected (entity : String)
  | blankCondition
  | emptyGroup
  | noTransitionTable
  | identifierTooLong (pgid : String)
  | noName
  | nameTooLong (name : String)
  | nameCharacters (name : String)
  | noMoment
  | noOperation
  | noKind
  | emptyOperations
  | rowTransitionTables
  | deferredStatement
  | deferredEarly
  | blankBody
  | fieldsAndExclude
  | softDeleteField
  | machineField
  | noTransition
  | reservedState (before after : String)
  | vectorField
  | documentFields
  | searchConfig
  deriving DecidableEq

def DefinitionFault.message : DefinitionFault → String
  | .nulInLiteral => "String literal cannot contain NUL character"
  | .notFinite x => "Cannot use non-finite number " ++ x.text ++ " in a trigger condition"
  | .needsBoolean key => s!"\"{key}\" expects a boolean"
  | .needsSomeValue key => s!"\"{key}\" needs at least one value"
  | .needsList key => s!"\"{key}\" expects a list of values"
  | .needsText key => s!"\"{key}\" expects a string"
  | .refusesList key => s!"\"{key}\" does not accept a list"
  | .noFieldSelected entity => s!"Change condition on {entity} selects no fields"
  | .blankCondition => "Must provide SQL to condition"
  | .emptyGroup => "Empty condition group"
  | .noTransitionTable => "Must provide either \"old\" and/or \"new\" to referencing"
  | .identifierTooLong pgid => s!"Trigger identifier \"{pgid}\" is greater than 63 chars"
  | .noName => "Trigger must have \"name\" attribute"
  | .nameTooLong name => s!"Trigger name \"{name}\" > 47 characters."
  | .nameCharacters name =>
    s!"Trigger name \"{name}\" has invalid characters. Only alphanumeric characters, " ++
      "hyphens, and underscores are allowed."
  | .noMoment => "Trigger must have \"when\" attribute"
  | .noOperation => "Trigger must have \"operation\" attribute"
  | .noKind => "Must define func attribute or use a builtin trigger kind"
  | .emptyOperations => "Empty operation list"
  | .rowTransitionTables => "Row-level triggers cannot have a \"referencing\" attribute"
  | .deferredStatement => "Deferrable triggers must have \"level\" attribute as Row"
  | .deferredEarly => "Deferrable triggers must have \"when\" attribute as After"
  | .blankBody => "Must define func attribute"
  | .fieldsAndExclude =>
    "Must provide only one of \"fields\" or \"exclude\" to ReadOnly trigger"
  | .softDeleteField => "Must provide \"field\" for soft delete"
  | .machineField => "Must provide \"field\" for FSM"
  | .noTransition => "Must provide \"transitions\" for FSM"
  | .reservedState before after =>
    "FSM transition states cannot contain any of " ++
      "[':', ',', '\x7b', '\x7d', '\"', '\\\\', '\\'']: " ++ s!"\"{before}\" -> \"{after}\""
  | .vectorField => "Must provide \"vector_field\" to update search vector"
  | .documentFields => "Must provide \"document_fields\" to update search vector"
  | .searchConfig => "Must provide \"config_name\" to update search vector"

/-- Why a text names no schema. -/
inductive SchemaNameFault where
  | identifier (fault : IdentifierFault)
  | severalParts
  deriving DecidableEq

def SchemaNameFault.message : SchemaNameFault → String
  | .identifier fault => fault.message
  | .severalParts => "expected a single identifier"

/-- A request that cannot be met in the state it was made in. -/
inductive UsageFault where
  | identifier (fault : IdentifierFault)
  | urisAndDatabase
  | abortedByHook (reason : String)
  | notIgnorable (kind uri : String)
  | notDeferrable (trigger entity : String)
  | noTransaction
  | schemaName (text : String) (fault : SchemaNameFault)
  deriving DecidableEq

def UsageFault.message : UsageFault → String
  | .identifier fault => fault.message
  | .urisAndDatabase => "Cannot supply both trigger URIs and a database"
  | .abortedByHook reason => s!"Statement aborted by hook: {reason}"
  | .notIgnorable kind uri => s!"Cannot ignore {kind} triggers ({uri})"
  | .notDeferrable trigger entity => s!"Trigger {trigger} on {entity} is not deferrable"
  | .noTransaction => "SET CONSTRAINTS requires an open transaction"
  | .schemaName text fault => "Invalid schema name " ++ shown text ++ ": " ++ fault.message

/-- Why settings were not accepted. -/
inductive SettingsFault where
  | unreadable (path reason : String)
  | malformed
  | schema (text : String) (fault : IdentifierFault)
  | schemaParts (text : String)
  deriving DecidableEq

def SettingsFault.message : SettingsFault → String
  | .unreadable path reason => s!"failed to read {path}: {reason}"
  | .malformed => "TOML parse error"
  | .schema text fault =>
    "invalid schema " ++ shown text ++ ": Usage error: " ++ fault.message
  | .schemaParts text => "schema must be a single identifier, got " ++ shown text

/-- What a server says when it refuses a statement. -/
structure Refusal where
  /-- The five characters of the SQLSTATE code. -/
  code : String
  message : String
  detail : Option String
  deriving DecidableEq

/-- Why a statement gave no answer that could be used. -/
inductive QueryFault where
  | refused (refusal : Refusal)
  /-- A cell that must hold a text holds none. -/
  | missingText (column : Nat)
  | missingColumn (column : Nat)
  deriving DecidableEq

def QueryFault.message : QueryFault → String
  | .refused _ => "db error"
  | .missingText column => s!"error deserializing column {column}"
  | .missingColumn column => "invalid column \x60" ++ toString column ++ "\x60"

/-- Why a connection cannot be used. -/
inductive ConnectionFault where
  | closed
  | invalidString
  deriving DecidableEq

def ConnectionFault.message : ConnectionFault → String
  | .closed => "connection closed"
  | .invalidString => "invalid connection string"

/-- Everything that can go wrong. -/
inductive Error where
  | definition (fault : DefinitionFault)
  /-- Two different triggers of one name on one table. -/
  | nameAlreadyUsed (name table existing : String)
  /-- Two triggers with one database identifier. -/
  | functionNameAlreadyUsed (pgid existing : String)
  | unknownField (entity field : String)
  /-- A row reference that begins with neither row's name. -/
  | invalidReference (text : String)
  | invalidUri (uri : String)
  | notRegistered (uri : String)
  | usage (fault : UsageFault)
  | notFound (what : String)
  | connection (fault : ConnectionFault)
  | query (fault : QueryFault)
  | config (fault : SettingsFault)
  /-- A migration number or name that migrations cannot have. -/
  | migration
  /-- A persisted trigger that cannot be read back. -/
  | invalidCompiled
  /-- An error told in words only. -/
  | other (message : String)
  deriving DecidableEq

/-- The wording of an error. -/
def Error.message : Error → String
  | .definition fault => "Invalid trigger definition: " ++ fault.message
  | .nameAlreadyUsed name table existing =>
    s!"Trigger name \"{name}\" already used for table \"{table}\" ({existing})"
  | .functionNameAlreadyUsed pgid existing =>
    s!"Trigger function \"{pgid}\" already used by {existing}; choose a different trigger name"
  | .unknownField entity field => s!"Unknown field \"{field}\" on {entity}"
  | .invalidReference text =>
    s!"Invalid row reference \"{text}\": must start with \"old__\" or \"new__\""
  | .invalidUri uri => s!"Invalid trigger URI \"{uri}\": expected \"<entity>:<trigger>\""
  | .notRegistered uri => s!"No trigger registered for URI \"{uri}\""
  | .usage fault => "Usage error: " ++ fault.message
  | .notFound what => s!"Not found: {what}"
  | .connection fault => "Connection error: " ++ fault.message
  | .query fault => "Query error: " ++ fault.message
  | .config fault => "Config error: " ++ fault.message
  | .migration => "Migration error"
  | .invalidCompiled => "invalid compiled trigger"
  | .other message => message

/-- What the server said, if the error is its refusal. -/
def Error.refusal? : Error → Option Refusal
  | .query (.refused r) => some r
  | _ => none

/-- The SQLSTATE code of the server's refusal. -/
def Error.sqlstate? (e : Error) : Option String := e.refusal?.map (·.code)

end DeclaredTriggers
