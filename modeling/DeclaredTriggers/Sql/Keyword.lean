import DeclaredTriggers.Text.Blank
import DeclaredTriggers.Text.Search

/-!
# Keywords

The word a statement begins with, behind blanks, comments and opening parentheses, in any letter
case.
-/

namespace DeclaredTriggers.Sql

open Text (isBlank)

/-- What stands in front of a statement's first word. -/
inductive Lead where
  /-- Between comments. -/
  | between
  /-- A comment up to the end of the line. -/
  | line
  /-- A comment up to a star and a slash. -/
  | block
  /-- The same, right behind a star. The star that opens the comment counts. -/
  | star
  deriving DecidableEq

/-- What follows in a statement that is in the middle of what `Lead` says. -/
def afterLead : Lead → List Char → List Char
  | .between, '-' :: '-' :: rest => afterLead .line rest
  | .between, '/' :: '*' :: rest => afterLead .star rest
  | .between, '(' :: rest => afterLead .between rest
  | .between, c :: rest => if isBlank c then afterLead .between rest else c :: rest
  | .line, '\n' :: rest => afterLead .between rest
  | .line, _ :: rest => afterLead .line rest
  | .block, '*' :: rest => afterLead .star rest
  | .block, _ :: rest => afterLead .block rest
  | .star, '/' :: rest => afterLead .between rest
  | .star, '*' :: rest => afterLead .star rest
  | .star, _ :: rest => afterLead .block rest
  | _, [] => []

/-- A statement without the blanks, comments and opening parentheses that it begins with; empty
where a comment does not end. -/
def withoutLead (s : List Char) : List Char := afterLead .between s

/-- What follows `word` in a text that begins with it in any letter case. -/
def stripWord? : List Char → List Char → Option (List Char)
  | [], s => some s
  | _ :: _, [] => none
  | w :: word, c :: s => if c.toLower = w.toLower then stripWord? word s else none

/-- Whether a character would make a word longer. -/
def isWordCharacter (c : Char) : Bool := c.isAlphanum || c = '_'

/-- Whether a text begins with a keyword, in any letter case, as a word of its own. -/
def startsWith (keyword : String) (s : List Char) : Bool :=
  match stripWord? keyword.toList s with
  | some (c :: _) => !isWordCharacter c
  | some [] => true
  | none => false

/-- Whether a statement creates something concurrently. Such a statement cannot run inside a
transaction, so nothing may be sent along with it. -/
def isConcurrent (s : List Char) : Bool :=
  let s := (Text.trim s).map Char.toLower
  Text.begins "create".toList s && Text.occurs "concurrently".toList s

end DeclaredTriggers.Sql
