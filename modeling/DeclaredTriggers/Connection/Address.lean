import DeclaredTriggers.Decimal.Reading
import DeclaredTriggers.Text.Hexadecimal
import DeclaredTriggers.Text.Search

/-!
# Numeric addresses

The two ways to write a host's address in numbers: four octets with points between them, or up to
eight groups of hexadecimal digits with colons between them. Of the groups one row of zeros may be
left out, and the last two may be written as four octets.
-/

namespace DeclaredTriggers

/-- Whether a text is a number below 256 without a needless zero. -/
def isOctet (s : List Char) : Bool :=
  !s.isEmpty && s.all Char.isDigit && (s.length = 1 || s.head? ≠ some '0') && s.length ≤ 3 &&
    Decimal.digitsValue s < 256

/-- Whether a text is an address of four octets. -/
def isOctets (s : List Char) : Bool :=
  let parts := Text.splitAll '.' s
  parts.length = 4 && parts.all isOctet

/-- Whether a text is one group of an address. -/
def isGroup (s : List Char) : Bool := !s.isEmpty && s.length ≤ 4 && s.all Text.isHexDigit

/-- How many groups a row of them makes; four octets at its end make two. -/
def groupCount? : List (List Char) → Option Nat
  | [] => some 0
  | [last] => if isGroup last then some 1 else if isOctets last then some 2 else none
  | part :: parts => if isGroup part then (groupCount? parts).map (· + 1) else none

/-- The groups of a row with colons between them, none in an empty text. -/
def groupsOf (s : List Char) : List (List Char) := if s.isEmpty then [] else Text.splitAll ':' s

/-- Whether a text is an address of groups. The zeros left out are at least one group, and what
stands before them is not octets. -/
def isGroups (s : List Char) : Bool :=
  match Text.splitFirst? [':', ':'] s with
  | none => groupCount? (groupsOf s) = some 8
  | some (before, after) =>
    (groupsOf before).all isGroup &&
      (groupCount? (groupsOf after)).any fun n => (groupsOf before).length + n ≤ 7

/-- Whether a text is a numeric address. -/
def isAddress (s : String) : Bool := isOctets s.toList || isGroups s.toList

end DeclaredTriggers
