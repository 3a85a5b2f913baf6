/-!
# Variables in a text

A text may refer to variables of the environment, each with its name in braces behind a dollar
sign. Such a text is a row of pieces, and each piece stands for a text of its own. What a variable
holds is not read again.
-/

namespace DeclaredTriggers.Command

/-- What the variables of the environment hold. -/
abbrev Environment := String → Option String

/-- A piece of a text that may refer to variables. -/
inductive Piece where
  | char (c : Char)
  | reference (key : String)
  /-- A reference that the text ends in. -/
  | unclosed (key : String)
  deriving DecidableEq

/-- The pieces of a text; inside a reference, `key` is the part of its name before, backwards. -/
def pieces (key : Option (List Char)) : List Char → List Piece
  | [] =>
    match key with
    | none => []
    | some key => [.unclosed (String.ofList key.reverse)]
  | c :: rest =>
    match key, rest with
    | some key, rest =>
      if c = '\x7d' then .reference (String.ofList key.reverse) :: pieces none rest
      else pieces (some (c :: key)) rest
    | none, d :: rest =>
      if c = '$' && d = '\x7b' then pieces (some []) rest else .char c :: pieces none (d :: rest)
    | none, [] => [.char c]

/-- Why a text cannot be expanded. -/
inductive ExpansionFault where
  | unclosed (key : String)
  | unnamed
  | missing (key : String)
  deriving DecidableEq

def ExpansionFault.message : ExpansionFault → String
  | .unclosed key => "unterminated env var reference: $\x7b" ++ key
  | .unnamed => "invalid env var reference: $\x7b\x7d"
  | .missing key => s!"missing env var for config expansion: {key}"

/-- The text that a piece stands for. -/
def Piece.value (env : Environment) : Piece → Except ExpansionFault (List Char)
  | .char c => pure [c]
  | .unclosed key => throw (.unclosed key)
  | .reference key =>
    if key.isEmpty then throw .unnamed
    else
      match env key with
      | none => throw (.missing key)
      | some value => pure value.toList

/-- A text with every reference replaced by what its variable holds. -/
def expand (env : Environment) (text : String) : Except ExpansionFault String := do
  let values ← (pieces none text.toList).mapM (·.value env)
  pure (String.ofList values.flatten)

end DeclaredTriggers.Command
