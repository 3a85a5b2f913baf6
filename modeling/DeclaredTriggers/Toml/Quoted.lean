import DeclaredTriggers.Text.Hexadecimal

/-!
# Quoted TOML strings

A string stands between quotes or between single quotes, on one line or, behind three quotes, on
many. Only between quotes a backslash begins an escape. A string is read in two steps: where it
ends, and what its body means.
-/

namespace DeclaredTriggers.Toml

/-- Whether a character may not stand in a document as it is. A tab may, and the end of a line has
rules of its own. -/
def isControl (c : Char) : Bool := (c.toNat < 32 && c ≠ '\t') || c.toNat = 127

/-- Whether a character may stand between tokens on one line. -/
def isBlank (c : Char) : Bool := c = ' ' || c = '\t'

/-- What follows the end of a line. -/
def endOfLine? : List Char → Option (List Char)
  | '\n' :: rest => some rest
  | '\r' :: '\n' :: rest => some rest
  | _ => none

/-! ## Where a string ends -/

/-- The body of a string on one line and what follows it. -/
def readBody? (quote : Char) : List Char → Option (List Char × List Char)
  | [] => none
  | [c] => if c = quote then some ([], []) else none
  | c :: d :: rest =>
    if c = quote then some ([], d :: rest)
    else if c = '\\' && quote = '"' then
      (readBody? quote rest).map fun (body, after) => (c :: d :: body, after)
    else (readBody? quote (d :: rest)).map fun (body, after) => (c :: body, after)

/-- The quotes at the end of a string on many lines: the last three of them, or of the first five,
end it, and the ones before belong to its body. -/
def readClosing? (quote : Char) (s : List Char) : Option (List Char × List Char) :=
  let n := min (s.takeWhile (· = quote)).length 5
  if n < 3 then none else some (List.replicate (n - 3) quote, s.drop n)

/-- The body of a string on many lines and what follows it. -/
def readBlock? (quote : Char) : List Char → Option (List Char × List Char)
  | [] => none
  | c :: rest =>
    match readClosing? quote (c :: rest), rest with
    | some found, _ => some found
    | none, [] => none
    | none, d :: rest =>
      if c = '\\' && quote = '"' then
        (readBlock? quote rest).map fun (body, after) => (c :: d :: body, after)
      else (readBlock? quote (d :: rest)).map fun (body, after) => (c :: body, after)

/-! ## What its body means -/

/-- The character with a code, if there is one. -/
def charOfCode? (n : Nat) : Option Char := if n.isValidChar then some (Char.ofNat n) else none

/-- The number that hexadecimal digits spell. -/
def hexValue? (ds : List Char) : Option Nat :=
  ds.foldlM (fun n d => (Text.hexDigit? d).map (n * 16 + ·)) 0

/-- The character whose code the first `n` characters spell, and what follows them. -/
def readCode? (n : Nat) (s : List Char) : Option (Char × List Char) :=
  if s.length < n then none
  else ((hexValue? (s.take n)).bind charOfCode?).map (·, s.drop n)

/-- The character that stands behind a backslash, and what follows. -/
def readEscape? : List Char → Option (Char × List Char)
  | '"' :: rest => some ('"', rest)
  | '\\' :: rest => some ('\\', rest)
  | 'b' :: rest => some ('\x08', rest)
  | 'e' :: rest => some ('\x1b', rest)
  | 'f' :: rest => some ('\x0c', rest)
  | 'n' :: rest => some ('\n', rest)
  | 'r' :: rest => some ('\r', rest)
  | 't' :: rest => some ('\t', rest)
  | 'x' :: rest => readCode? 2 rest
  | 'u' :: rest => readCode? 4 rest
  | 'U' :: rest => readCode? 8 rest
  | _ => none

/-- A text without the blanks and ends of lines it begins with. -/
def skipLines : List Char → List Char
  | '\r' :: '\n' :: rest => skipLines rest
  | c :: rest => if isBlank c || c = '\n' then skipLines rest else c :: rest
  | [] => []

/-- The text that a body between quotes stands for. On many lines a backslash at the end of a line
takes out the blanks and ends of lines that follow it. Each character takes a unit of fuel. -/
def decode? (block : Bool) : Nat → List Char → Option (List Char)
  | _, [] => some []
  | 0, _ :: _ => none
  | fuel + 1, '\\' :: rest =>
    match readEscape? rest, endOfLine? (rest.dropWhile isBlank) with
    | some (c, after), _ => (decode? block fuel after).map (c :: ·)
    | none, some after => if block then decode? block fuel (skipLines after) else none
    | none, none => none
  | fuel + 1, '\r' :: '\n' :: rest =>
    if block then (decode? block fuel rest).map ('\r' :: '\n' :: ·) else none
  | fuel + 1, c :: rest =>
    if isControl c && !(block && c = '\n') then none else (decode? block fuel rest).map (c :: ·)

/-- The text that a body between single quotes stands for, which is the body. -/
def verbatim? (block : Bool) : List Char → Option (List Char)
  | [] => some []
  | '\r' :: '\n' :: rest =>
    if block then (verbatim? block rest).map ('\r' :: '\n' :: ·) else none
  | c :: rest =>
    if isControl c && !(block && c = '\n') then none else (verbatim? block rest).map (c :: ·)

/-- The text that a body stands for. -/
def meaning? (quote : Char) (block : Bool) (body : List Char) : Option String :=
  (if quote = '"' then decode? block body.length body else verbatim? block body).map String.ofList

/-! ## Strings -/

/-- The string on one line that begins behind `quote`, and what follows it. -/
def readOneLine? (quote : Char) (s : List Char) : Option (String × List Char) := do
  let (body, after) ← readBody? quote s
  pure (← meaning? quote false body, after)

/-- The string that begins behind `quote`, and what follows it. The end of a line right behind
three quotes is no part of it. -/
def readString? (quote : Char) (s : List Char) : Option (String × List Char) :=
  match s with
  | a :: b :: rest =>
    if a = quote && b = quote then do
      let (body, after) ← readBlock? quote ((endOfLine? rest).getD rest)
      pure (← meaning? quote true body, after)
    else readOneLine? quote s
  | s => readOneLine? quote s

end DeclaredTriggers.Toml
