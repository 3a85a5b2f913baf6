import DeclaredTriggers.Toml.Basic
import DeclaredTriggers.Toml.Plain
import DeclaredTriggers.Toml.Quoted

/-!
# Reading TOML

`Toml.parse?` reads a whole document: its lines first, and then the table that they describe.
Lists and tables in braces may go over many lines and end with a comma, and stand in one another up
to a limit.
-/

namespace DeclaredTriggers.Toml

/-- A text without the blanks it begins with. -/
def skipBlanks (s : List Char) : List Char := s.dropWhile isBlank

/-- What follows a comment, or the text if it begins with none. -/
def skipComment? : List Char → Option (List Char)
  | '#' :: rest =>
    let after := rest.dropWhile (!isControl ·)
    if after.isEmpty || (endOfLine? after).isSome then some after else none
  | s => some s

/-- What follows the end of a line: blanks, perhaps a comment, and the end of the line or of the
document. -/
def finishLine? (s : List Char) : Option (List Char) :=
  match skipComment? (skipBlanks s) with
  | some [] => some []
  | some after => endOfLine? after
  | none => none

/-- What follows blanks, comments and ends of lines. Each line takes a unit of fuel. -/
def skipGaps? : Nat → List Char → Option (List Char)
  | 0, _ => none
  | fuel + 1, s =>
    match skipComment? (skipBlanks s) with
    | none => none
    | some after =>
      match endOfLine? after with
      | some rest => skipGaps? fuel rest
      | none => some after

/-- What follows blanks, comments and ends of lines. -/
def skipAll? (s : List Char) : Option (List Char) := skipGaps? (s.length + 1) s

/-- Whether a character may stand in a key without quotes. -/
def isBare (c : Char) : Bool := c.isAlphanum || c = '_' || c = '-'

/-- One part of a key, and what follows it. -/
def readPart? : List Char → Option (String × List Char)
  | '"' :: rest => readOneLine? '"' rest
  | '\'' :: rest => readOneLine? '\'' rest
  | s =>
    match s.span isBare with
    | ([], _) => none
    | (part, after) => some (String.ofList part, after)

/-- The parts of a key, which points separate, and what follows them and blanks. Each part takes
a unit of fuel. -/
def readParts? : Nat → List Char → Option (List String × List Char)
  | 0, _ => none
  | fuel + 1, s => do
    let (part, after) ← readPart? (skipBlanks s)
    match skipBlanks after with
    | '.' :: rest =>
      let (parts, after) ← readParts? fuel rest
      pure (part :: parts, after)
    | after => pure ([part], after)

/-- The path and the last part of a key, and what follows it and blanks. -/
def readKey? (s : List Char) : Option ((List String × String) × List Char) := do
  let (parts, after) ← readParts? (s.length + 1) s
  let k ← parts.getLast?
  pure ((parts.dropLast, k), after)

/-- The value that a plain spelling stands for. -/
def ofPlain? (spelling : List Char) : Option Toml :=
  if spelling = "true".toList then some (.bool true)
  else if spelling = "false".toList then some (.bool false)
  else if isNumber spelling || isMoment spelling then some (.plain (String.ofList spelling))
  else none

/-- How many brackets and braces may be open at once. -/
def maxOpen : Nat := 80

mutual

/-- The value a text begins with, and what follows it. Each call takes a unit of fuel, and `room`
more brackets and braces may be opened. -/
def readValue? : Nat → Nat → List Char → Option (Toml × List Char)
  | 0, _, _ => none
  | _ + 1, _, '"' :: rest => (readString? '"' rest).map fun (s, after) => (.text s, after)
  | _ + 1, _, '\'' :: rest => (readString? '\'' rest).map fun (s, after) => (.text s, after)
  | _, 0, '[' :: _ | _, 0, '\x7b' :: _ => none
  | fuel + 1, room + 1, '[' :: rest =>
    (readItems? fuel room rest).map fun (vs, after) => (.array vs, after)
  | fuel + 1, room + 1, '\x7b' :: rest =>
    (readEntries? fuel room [] rest).map fun (es, after) => (.table .braces es, after)
  | _ + 1, _, s =>
    let (spelling, after) := readPlain s
    (ofPlain? spelling).map (·, after)

/-- The values up to the bracket that ends an array, and what follows it. -/
def readItems? : Nat → Nat → List Char → Option (List Toml × List Char)
  | 0, _, _ => none
  | fuel + 1, room, s => do
    match ← skipAll? s with
    | ']' :: after => pure ([], after)
    | s =>
      let (v, after) ← readValue? fuel room s
      match ← skipAll? after with
      | ']' :: rest => pure ([v], rest)
      | ',' :: rest =>
        let (vs, rest) ← readItems? fuel room rest
        pure (v :: vs, rest)
      | _ => none

/-- The entries up to the brace that ends a table, put to the ones before, and what follows it. Each
part of an entry may stand on a line of its own. -/
def readEntries? : Nat → Nat → Entries → List Char → Option (Entries × List Char)
  | 0, _, _, _ => none
  | fuel + 1, room, es, s => do
    match ← skipAll? s with
    | '\x7d' :: after => pure (es, after)
    | s =>
      let ((path, k), after) ← readKey? s
      match ← skipAll? after with
      | '=' :: rest =>
        let (v, after) ← readValue? fuel room (← skipAll? rest)
        let es ← put? k v path es
        match ← skipAll? after with
        | '\x7d' :: rest => pure (es, rest)
        | ',' :: rest => readEntries? fuel room es rest
        | _ => none
      | _ => none

end

/-- The line a text begins with, and what follows it. -/
def readLine? : List Char → Option (Line × List Char)
  | '[' :: '[' :: rest => do
    let ((path, k), after) ← readKey? rest
    match after with
    | ']' :: ']' :: after => pure (.nextHeader path k, ← finishLine? after)
    | _ => none
  | '[' :: rest => do
    let ((path, k), after) ← readKey? rest
    match after with
    | ']' :: after => pure (.header path k, ← finishLine? after)
    | _ => none
  | s => do
    let ((path, k), after) ← readKey? s
    match after with
    | '=' :: rest =>
      let (v, after) ← readValue? (2 * rest.length + 2) maxOpen (skipBlanks rest)
      pure (.entry path k v, ← finishLine? after)
    | _ => none

/-- The lines of a document. Each takes a unit of fuel. -/
def readLines? : Nat → List Char → Option (List Line)
  | 0, _ => none
  | fuel + 1, s => do
    match ← skipAll? s with
    | [] => pure []
    | s =>
      let (line, after) ← readLine? s
      pure (line :: (← readLines? fuel after))

/-- The table of a document. A byte order mark may stand in front of it. -/
def parse? (document : String) : Option Toml := do
  let s := match document.toList with
    | '\ufeff' :: rest => rest
    | s => s
  ofLines? (← readLines? (s.length + 1) s)

end DeclaredTriggers.Toml
