import DeclaredTriggers.Command.Expansion
import DeclaredTriggers.Text.Alphanumeric
import DeclaredTriggers.Text.Blank
import DeclaredTriggers.Text.Search

/-!
# Files of variables

A project may keep variables in a file, a name and a value on each line. A value may stand in
quotes, then also over many lines, and may refer to other variables. What the environment holds
already is left as it is. The first line that makes no sense ends the file.
-/

namespace DeclaredTriggers.Command

/-! ## Lines -/

/-- What a place in a file stands in, as far as the end of a line is concerned. -/
inductive Place where
  | plain
  /-- Behind a blank, where a comment may begin. -/
  | blank
  | escaped
  /-- Between quotes of this kind. -/
  | quoted (quote : Char)
  | quotedEscaped (quote : Char)
  | comment
  deriving DecidableEq

/-- The place behind one more character. -/
def Place.next (p : Place) (c : Char) : Place :=
  match p with
  | .comment => .comment
  | .escaped => .plain
  | .quotedEscaped q => .quoted q
  | .quoted q => if c = '\\' then .quotedEscaped q else if c = q then .plain else .quoted q
  | .plain | .blank =>
    if c = '#' && p = .blank then .comment
    else if c = '\\' then .escaped
    else if c = '"' || c = '\'' then .quoted c
    else if p = .plain && Text.isBlank c && c ≠ '\n' && c ≠ '\r' then .blank
    else .plain

/-- The rest of a line behind a place: its characters without a comment, the place it ends in, and
what follows it. -/
def readPhysical (p : Place) : List Char → List Char × Place × List Char
  | [] => ([], p, [])
  | c :: rest =>
    let next := p.next c
    if c = '\n' then ([c], next, rest)
    else
      let (line, last, after) := readPhysical next rest
      (if next = .comment then line else c :: line, last, after)

/-- A line without the characters that end it. -/
def withoutEnd (line : List Char) : List Char :=
  match line.reverse with
  | '\n' :: '\r' :: before => before.reverse
  | '\n' :: before => before.reverse
  | _ => line

/-- The lines of a file, each with those that its quotes reach over; `before` is what was read of
the first. A line that the file does not finish is nothing. Each line takes a unit of fuel. -/
def logicalLines : Nat → Place → List Char → List Char → List (Option (List Char))
  | 0, _, _, _ => []
  | _ + 1, p, _, [] => if p = .plain then [] else [none]
  | fuel + 1, p, before, s =>
    let (line, last, after) := readPhysical p s
    let whole := before ++ line
    if (Text.trimStart (before ++ s.takeWhile (· ≠ '\n'))).head? = some '#' then
      some [] :: logicalLines fuel .plain [] after
    else
      match last with
      | .plain | .comment => some (withoutEnd whole) :: logicalLines fuel .plain [] after
      | p => logicalLines fuel p whole after

/-! ## Values -/

/-- How much of a reference was read: what follows the dollar sign, or what follows the brace
behind it, backwards. -/
inductive Reference where
  | open (key : List Char)
  | braced (key : List Char)

/-- A value as far as it was read, backwards. -/
structure Draft where
  value : List Char := []
  quote : Option Char := none
  escaped : Bool := false
  reference : Option Reference := none
  /-- Nothing but a comment may follow. -/
  finished : Bool := false

/-- The value with what a variable holds behind it. -/
def Draft.refer (env : Environment) (key : List Char) (d : Draft) : Draft :=
  let held := (env (String.ofList key.reverse)).getD ""
  { d with value := held.toList.reverse ++ d.value, reference := none }

/-- The value with a character behind it. -/
def Draft.push (c : Char) (d : Draft) : Draft := { d with value := c :: d.value }

/-- The value with one more character read. -/
def Draft.next (env : Environment) (d : Draft) (c : Char) : Option Draft :=
  if d.escaped then
    if c = '\\' || c = '\'' || c = '"' || c = '$' || c = ' ' then
      some { d.push c with escaped := false }
    else if c = 'n' then some { d.push '\n' with escaped := false }
    else none
  else if d.quote = some '\'' then
    some (if c = '\'' then { d with quote := none } else d.push c)
  else
    match d.reference with
    | some (.open key) =>
      some <|
        if Text.isAlphanumeric c then { d with reference := some (.open (c :: key)) }
        else if c = '\x7b' && key.isEmpty then { d with reference := some (.braced []) }
        else if c = '$' then { d.refer env key with reference := some (.open []) }
        else (d.refer env key).push c
    | some (.braced key) =>
      some <|
        if c = '\x7d' then d.refer env key
        else { d with reference := some (.braced (c :: key)) }
    | none =>
      some <|
        if c = '$' then { d with reference := some (.open []) }
        else if c = '\\' then { d with escaped := true }
        else if d.quote = some c then { d with quote := none }
        else if d.quote.isSome then d.push c
        else if c = '\'' || c = '"' then { d with quote := some c }
        else if c = ' ' || c = '\t' then { d with finished := true }
        else d.push c

/-- The value that a text spells; `d` is what was read of it. -/
def readValue? (env : Environment) (d : Draft) : List Char → Option String
  | [] =>
    match d.quote, d.reference with
    | none, none => some (String.ofList d.value.reverse)
    | none, some (.open key) => some (String.ofList (d.refer env key).value.reverse)
    | _, _ => none
  | c :: rest =>
    if d.finished then
      if c = ' ' || c = '\t' then readValue? env d rest
      else if c = '#' then readValue? env d []
      else none
    else (d.next env c).bind (readValue? env · rest)

/-! ## Assignments -/

/-- The name that a text begins with, and what follows it and blanks. -/
def readName? (s : List Char) : Option (String × List Char) :=
  let isInner (c : Char) : Bool := c.isAlphanum || c = '_' || c = '.'
  match s with
  | [] => none
  | c :: _ =>
    if c.isAlpha || c = '_' then
      some (String.ofList (s.takeWhile isInner), Text.trimStart (s.dropWhile isInner))
    else none

/-- The name that a line gives a value and the text of that value. The word `export` may stand in
front. -/
def readAssignment? (s : List Char) : Option (String × List Char) := do
  match ← readName? s with
  | (name, '=' :: value) => pure (name, Text.trimStart value)
  | ("export", rest) =>
    match ← readName? rest with
    | (name, '=' :: value) => pure (name, Text.trimStart value)
    | _ => none
  | _ => none

/-- The environment with a variable set, unless it is. -/
def Environment.define (env : Environment) (name value : String) : Environment := fun k =>
  (env k).or (if k = name then some value else none)

/-- The environment after one line. -/
def Environment.readLine? (env : Environment) (line : List Char) : Option Environment :=
  let s := Text.trim line
  if s.isEmpty || s.head? = some '#' then some env
  else do
    let (name, value) ← readAssignment? s
    if value.head? = some '#' then pure (env.define name "")
    else pure (env.define name (← readValue? env {} value))

/-- The environment after lines, up to one that makes no sense. -/
def Environment.readLines (env : Environment) : List (Option (List Char)) → Environment
  | [] => env
  | none :: _ => env
  | some line :: rest =>
    match env.readLine? line with
    | none => env
    | some env => env.readLines rest

/-- The environment after a file of variables. A byte order mark may stand in front. -/
def Environment.read (env : Environment) (document : String) : Environment :=
  let s := match document.toList with
    | '\ufeff' :: rest => rest
    | s => s
  env.readLines (logicalLines (s.length + 1) .plain [] s)

end DeclaredTriggers.Command
