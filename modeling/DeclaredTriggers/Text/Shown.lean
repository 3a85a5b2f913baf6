import DeclaredTriggers.Text.Visible

/-!
# Texts shown inside messages

A text quoted from somebody's input is shown between double quotes with a backslash before what
would mislead: quotes, backslashes and line ends by letter, and what has no visible form of its
own by its code point.
-/

namespace DeclaredTriggers.Text

/-- The code point of a character in hexadecimal, between braces. -/
def codePointForm (c : Char) : List Char :=
  ['\\', 'u', '\x7b'] ++ Nat.toDigits 16 c.toNat ++ ['\x7d']

/-- One character as it is shown between double quotes. -/
def shownChar (c : Char) : List Char :=
  if c = '\x00' then ['\\', '0']
  else if c = '\t' then ['\\', 't']
  else if c = '\r' then ['\\', 'r']
  else if c = '\n' then ['\\', 'n']
  else if c = '\\' then ['\\', '\\']
  else if c = '"' then ['\\', '"']
  else if isVisible c && !isExtender c then [c]
  else codePointForm c

/-- A text as it is shown in a message. -/
def shown (s : String) : String :=
  "\"" ++ String.ofList (s.toList.flatMap shownChar) ++ "\""

/-- Pairs of texts as they are shown in a message. -/
def shownPairs (ps : List (String × String)) : String :=
  "\x7b" ++ ", ".intercalate (ps.map fun (k, v) => shown k ++ ": " ++ shown v) ++ "\x7d"

end DeclaredTriggers.Text
