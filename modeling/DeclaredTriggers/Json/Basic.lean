import DeclaredTriggers.Decimal.Shortest

/-!
# JSON values

A JSON document as a value, and its compact text. Members keep the order they have in the
document, and a name may occur more than once; what to make of that is the reader's affair. A
string may hold an escape that names no character, half of a surrogate pair; such a string has no
text, and is written as an empty one.
-/

namespace DeclaredTriggers

/-- A JSON value. -/
inductive Json where
  | null
  | bool (b : Bool)
  | number (x : Decimal.Binary)
  /-- A string; none stands for one with an escape that names no character. -/
  | text (s : Option String)
  | array (items : List Json)
  | object (members : List (Option String × Json))
  deriving Inhabited

namespace Json

/-- A control character as its code in four hexadecimal digits. -/
def controlEscape (c : Char) : List Char :=
  ['\\', 'u', '0', '0', Nat.digitChar (c.toNat / 16), Nat.digitChar (c.toNat % 16)]

/-- One character inside a string. -/
def escapedChar (c : Char) : List Char :=
  if c = '"' then ['\\', '"']
  else if c = '\\' then ['\\', '\\']
  else if c = '\x08' then ['\\', 'b']
  else if c = '\x0c' then ['\\', 'f']
  else if c = '\n' then ['\\', 'n']
  else if c = '\r' then ['\\', 'r']
  else if c = '\t' then ['\\', 't']
  else if c.toNat < 32 then controlEscape c
  else [c]

/-- A string between its quotes. -/
def printedText (s : String) : List Char := '"' :: s.toList.flatMap escapedChar ++ ['"']

mutual

/-- The compact text of a value. -/
def print : Json → List Char
  | .null => "null".toList
  | .bool b => (if b then "true" else "false").toList
  | .number x => x.text.toList
  | .text s => printedText (s.getD "")
  | .array items => '[' :: printItems items ++ [']']
  | .object members => '\x7b' :: printMembers members ++ ['\x7d']

/-- The compact text of several values, with commas between them. -/
def printItems : List Json → List Char
  | [] => []
  | [v] => print v
  | v :: vs => print v ++ ',' :: printItems vs

/-- The compact text of several members, with commas between them. -/
def printMembers : List (Option String × Json) → List Char
  | [] => []
  | [(k, v)] => printedText (k.getD "") ++ ':' :: print v
  | (k, v) :: ms => printedText (k.getD "") ++ ':' :: print v ++ ',' :: printMembers ms

end

mutual

/-- How many containers deep a value goes. -/
def depth : Json → Nat
  | .array items => depthOfItems items + 1
  | .object members => depthOfMembers members + 1
  | _ => 0

def depthOfItems : List Json → Nat
  | [] => 0
  | v :: vs => max (depth v) (depthOfItems vs)

def depthOfMembers : List (Option String × Json) → Nat
  | [] => 0
  | (_, v) :: ms => max (depth v) (depthOfMembers ms)

end

mutual

/-- Whether every string of a value has a text and every number is in range. -/
def isSound : Json → Bool
  | .null | .bool _ => true
  | .number x => x.isFinite
  | .text s => s.isSome
  | .array items => itemsSound items
  | .object members => membersSound members

def itemsSound : List Json → Bool
  | [] => true
  | v :: vs => isSound v && itemsSound vs

def membersSound : List (Option String × Json) → Bool
  | [] => true
  | (k, v) :: ms => k.isSome && isSound v && membersSound ms

end

end Json

end DeclaredTriggers
