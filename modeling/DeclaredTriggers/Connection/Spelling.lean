import DeclaredTriggers.Connection.Parameters
import DeclaredTriggers.Text.Blank
import DeclaredTriggers.Text.PercentCoded

/-!
# Connection strings

The two ways to spell the parameters of connections: as settings, each a word, an equals sign and
a value, with blanks between them, or as a URL.
-/

namespace DeclaredTriggers

open Text (isBlank percentText?)

namespace ConnectionParams

/-! ## Settings -/

/-- A value up to the first character that ends it, and what follows. A backslash takes the meaning
from the next character. -/
def readValue (ends : Char → Bool) : List Char → List Char × List Char
  | [] | ['\\'] => ([], [])
  | '\\' :: c :: rest =>
    let (value, after) := readValue ends rest
    (c :: value, after)
  | c :: rest =>
    if ends c then ([], c :: rest)
    else
      let (value, after) := readValue ends rest
      (c :: value, after)

/-- The value of a setting, and what follows it. Between single quotes it may be empty. -/
def readSettingValue? : List Char → Option (List Char × List Char)
  | '\'' :: rest =>
    match readValue (· = '\'') rest with
    | (value, '\'' :: after) => some (value, after)
    | _ => none
  | s =>
    match readValue isBlank s with
    | ([], _) => none
    | (value, after) => some (value, after)

/-- The parameters with those set that a text spells; it ends where no word follows. Each setting
takes a unit of fuel. -/
def withSettings? : Nat → ConnectionParams → List Char → Option ConnectionParams
  | 0, p, _ => some p
  | fuel + 1, p, s =>
    match (Text.trimStart s).span fun c => !isBlank c && c ≠ '=' with
    | ([], _) => some p
    | (word, rest) =>
      match Text.trimStart rest with
      | '=' :: rest => do
        let (value, after) ← readSettingValue? (Text.trimStart rest)
        withSettings? fuel (← p.set? (String.ofList word) (String.ofList value)) after
      | _ => none

/-! ## URLs -/

/-- The beginnings of a connection string that is a URL. -/
def urlLeads : List String := ["postgres://", "postgresql://"]

/-- What follows the beginning of a URL. -/
def afterLead? (s : List Char) : Option (List Char) :=
  urlLeads.findSome? fun lead => Text.strip? lead.toList s

/-- The parameters with the user of a URL, before whose password stands a colon. -/
def withUser? (p : ConnectionParams) (s : List Char) : Option ConnectionParams := do
  p.set? "user" (← percentText? (s.takeWhile (· ≠ ':')))

/-- The parameters with a host of a URL. Only a path may have bytes that are no text. -/
def withUrlHost? (p : ConnectionParams) (s : List Char) : Option ConnectionParams :=
  match percentText? s with
  | some host => some (p.withHost (some host))
  | none => if Text.beginsWithSlash s then some (p.withHost none) else none

/-- The host in a part of a URL, and what follows its colon, nothing if it has none. A host with
colons of its own stands in brackets. -/
def splitPlace? : List Char → Option (List Char × List Char)
  | '[' :: s =>
    match Text.splitFirst? [']'] s with
    | some (host, []) => some (host, [])
    | some (host, ':' :: after) => some (host, after)
    | _ => none
  | s => some ((Text.splitFirst? [':'] s).getD (s, []))

/-- The parameters with a host of a URL, and with the ports that stand behind it. -/
def withPlace? (p : ConnectionParams) (s : List Char) : Option ConnectionParams := do
  let (host, after) ← splitPlace? s
  (← p.withUrlHost? host).withPorts? (← percentText? after)

/-- The parameters with those set that stand behind the question mark of a URL. Each takes a unit
of fuel. -/
def withQuery? : Nat → ConnectionParams → List Char → Option ConnectionParams
  | 0, p, _ | _, p, [] => some p
  | fuel + 1, p, s => do
    let (name, s) ← Text.splitFirst? ['='] s
    let name ← percentText? name
    let (value, after) := (Text.splitFirst? ['&'] s).getD (s, [])
    let p ←
      if name = "host" then p.withUrlHost? value else p.set? name (← percentText? value)
    withQuery? fuel p after

/-- The parameters of a URL, from what follows its beginning. The user stands before the first at
sign, the places before the first slash or question mark, and then the database. -/
def ofUrl? (s : List Char) : Option ConnectionParams := do
  let (user, s) :=
    match Text.splitFirst? ['@'] s with
    | some (user, rest) => (some user, rest)
    | none => (none, s)
  let (places, s) := s.span fun c => c ≠ '/' && c ≠ '?'
  let (path, query) := s.span (· ≠ '?')
  let start : ConnectionParams := {}
  let p ← user.elim (some start) start.withUser?
  let p ← if places.isEmpty then some p else (Text.splitAll ',' places).foldlM withPlace? p
  let database := path.drop 1
  let p ← if database.isEmpty then some p else p.set? "dbname" (← percentText? database)
  withQuery? query.length p (query.drop 1)

/-- The parameters that a connection string spells. -/
def parse? (s : String) : Option ConnectionParams :=
  match afterLead? s.toList with
  | some rest => ofUrl? rest
  | none => withSettings? (s.length + 1) {} s.toList

end ConnectionParams

end DeclaredTriggers
