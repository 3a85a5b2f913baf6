import DeclaredTriggers.Sql.Control

/-!
# Kinds of statement

What a statement does, told by its first word. A statement that begins with common table
expressions does what the statement behind the last of them does.
-/

namespace DeclaredTriggers.Sql

/-- What a statement does. -/
inductive StatementKind where
  | select
  | insert
  | update
  | delete
  /-- It creates, alters, drops or comments on something. -/
  | definition
  /-- It controls a transaction. -/
  | transaction
  | other
  deriving DecidableEq

namespace StatementKind

/-- The name under which a kind is logged. -/
def name : StatementKind → String
  | .select => "Select"
  | .insert => "Insert"
  | .update => "Update"
  | .delete => "Delete"
  | .definition => "Ddl"
  | .transaction => "Transaction"
  | .other => "Other"

/-- The words that tell a kind. -/
def keywords : List (String × StatementKind) := [
  ("SELECT", .select), ("INSERT", .insert), ("UPDATE", .update), ("DELETE", .delete),
  ("CREATE", .definition), ("ALTER", .definition), ("DROP", .definition),
  ("COMMENT", .definition)]

/-- The kind that a text's first word tells. -/
def ofKeyword? (s : List Char) : Option StatementKind :=
  (keywords.find? fun (word, _) => startsWith word s).map (·.2)

/-- What follows the last parenthesis that brings the depth to zero, else `rest`; `depth` are
open, and `inString` says whether a string is. -/
def afterLastGroup (depth : Int) (inString : Bool) (rest : List Char) : List Char → List Char
  | [] => rest
  | c :: s =>
    if c = '\'' then afterLastGroup depth (!inString) rest s
    else if inString then afterLastGroup depth inString rest s
    else if c = '(' then afterLastGroup (depth + 1) inString rest s
    else if c = ')' then
      afterLastGroup (depth - 1) inString (if depth - 1 = 0 then s else rest) s
    else afterLastGroup depth inString rest s

/-- The kind of the statement behind common table expressions. -/
def behindExpressions (s : List Char) : StatementKind :=
  match ofKeyword? (Text.trimStart (afterLastGroup 0 false s s)) with
  | some .insert => .insert
  | some .update => .update
  | some .delete => .delete
  | _ => .select

/-- The kind of a statement. -/
def ofStatement (s : List Char) : StatementKind :=
  let s := withoutLead s
  if (Control.ofStatement? s).isSome then .transaction
  else
    match ofKeyword? s with
    | some kind => kind
    | none => if startsWith "WITH" s then behindExpressions s else .other

end StatementKind

end DeclaredTriggers.Sql
