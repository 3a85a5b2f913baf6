import DeclaredTriggers.Error
import DeclaredTriggers.Text.Search

/-!
# Quoting names and literals

How a name and a text are written inside a statement. A column name is always quoted; a table
label is left alone where it brings quotes of its own; a trigger's identifier is quoted only
where it needs to be. A literal that holds a backslash takes the `E''` form, which means the
same under either setting of `standard_conforming_strings`.
-/

namespace DeclaredTriggers.Sql

open Text (replaced begins ends)

/-- A table or schema label between double quotes, unless it begins or ends with one. -/
def quote (label : String) : String :=
  if begins ['"'] label.toList || ends ['"'] label.toList then label else "\"" ++ label ++ "\""

/-- A name between double quotes, those inside it written twice. -/
def quoteName (name : String) : String :=
  "\"" ++ String.ofList (replaced '"' ['"', '"'] name.toList) ++ "\""

/-- A bare name as the database reads it: its ASCII capitals are made small. -/
def folded (name : String) : String := String.ofList (name.toList.map Char.toLower)

/-- A text as a string literal. -/
def quoteLiteral (text : String) : Except Error String :=
  let cs := text.toList
  if '\x00' ∈ cs then throw (.definition .nulInLiteral)
  else
    let doubled := replaced '\'' ['\'', '\''] cs
    if '\\' ∈ doubled then
      pure ("E'" ++ String.ofList (replaced '\\' ['\\', '\\'] doubled) ++ "'")
    else pure ("'" ++ String.ofList doubled ++ "'")

/-- Whether a name may stand without quotes: small ASCII letters, digits and underscores. -/
def isPlainName (name : String) : Bool :=
  name.toList.all fun c => c.isLower || c.isDigit || c = '_'

/-- A trigger's identifier, quoted if it is no plain name. -/
def triggerName (pgid : String) : String :=
  if isPlainName pgid then pgid else quoteName pgid

/-- The function every compiled trigger asks whether it is to be ignored. -/
def ignoreFunction (schema : String) : String := quote schema ++ "._pgtrigger_should_ignore"

end DeclaredTriggers.Sql
