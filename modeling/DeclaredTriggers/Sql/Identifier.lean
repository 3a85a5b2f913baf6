import DeclaredTriggers.Sql.Quoting

/-!
# Identifiers

Names as they are written in SQL: parts joined by dots, each either a bare name or one between
double quotes, in which a double quote is written twice. `Identifier.parse` reads such a text and
`Identifier.sql` writes it.
-/

namespace DeclaredTriggers.Sql

/-- One part of an identifier. -/
inductive Part where
  /-- A bare name: an ASCII letter or underscore, then letters, digits, `_` and `$`. -/
  | bare (name : String)
  /-- A name between quotes; `name` is what it stands for. -/
  | quoted (name : String)
  deriving DecidableEq

/-- A part as it is written. -/
def Part.sql : Part → String
  | .bare name => name
  | .quoted name => quoteName name

/-- A name of one or more parts. -/
structure Identifier where
  parts : List Part
  deriving DecidableEq

/-- An identifier as it is written. -/
def Identifier.sql (i : Identifier) : String := ".".intercalate (i.parts.map Part.sql)

/-- Whether a bare name may begin with this character. -/
def isNameStart (c : Char) : Bool := c = '_' || c.isAlpha

/-- Whether a bare name may go on with this character. -/
def isNameRest (c : Char) : Bool := c = '_' || c = '$' || c.isAlphanum

/-- The rest of a quoted name up to its closing quote, and what follows it. -/
def readQuoted : List Char → Except IdentifierFault (List Char × List Char)
  | [] => throw .unclosedQuote
  | '"' :: '"' :: rest => do
    let (name, after) ← readQuoted rest
    pure ('"' :: name, after)
  | '"' :: rest => pure ([], rest)
  | c :: rest => do
    let (name, after) ← readQuoted rest
    pure (c :: name, after)

/-- The rest of a bare name up to a dot or the end, and what follows it. -/
def readBareRest : List Char → Except IdentifierFault (List Char × List Char)
  | [] => pure ([], [])
  | c :: rest =>
    if c = '.' then pure ([], c :: rest)
    else if isNameRest c then do
      let (name, after) ← readBareRest rest
      pure (c :: name, after)
    else throw (.invalidCharacter c)

/-- The first part of a text that is not empty, and what follows it. -/
def readPart : List Char → Except IdentifierFault (Part × List Char)
  | '"' :: rest => do
    let (name, after) ← readQuoted rest
    if name.isEmpty then throw .emptyQuoted
    pure (.quoted (String.ofList name), after)
  | [] => throw .emptySegment
  | c :: rest =>
    if c = '.' then throw .emptySegment
    else if isNameStart c then do
      let (name, after) ← readBareRest rest
      pure (.bare (String.ofList (c :: name)), after)
    else throw (.invalidCharacter c)

/-- The parts of a text, one for each unit of fuel at most: none is empty, so a text has no more
parts than characters. -/
def readParts : Nat → List Char → Except IdentifierFault (List Part)
  | 0, _ => pure []
  | fuel + 1, s => do
    let (part, after) ← readPart s
    match after with
    | [] => pure [part]
    | ['.'] => throw .trailingDot
    | '.' :: rest => do
      let parts ← readParts fuel rest
      pure (part :: parts)
    | c :: _ => throw (.missingDot c)

/-- The identifier that a text spells. -/
def Identifier.parse (text : String) : Except IdentifierFault Identifier :=
  let cs := text.toList
  if cs.isEmpty then throw .empty
  else if '\x00' ∈ cs then throw .nulCharacter
  else do
    let parts ← readParts cs.length cs
    pure ⟨parts⟩

end DeclaredTriggers.Sql
