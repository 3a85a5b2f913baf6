import DeclaredTriggers.Text.Alphanumeric
import DeclaredTriggers.Text.LetterCase

/-!
# Snake case

A name is cut into words, the words are put in lower case and joined by underscores. A word ends
at a character that is neither letter nor number, before an upper-case letter that follows a
lower-case one, and before the last upper-case letter of a group that a lower-case one follows:
`XMLHttpRequest` has the words `XML`, `Http` and `Request`.
-/

namespace DeclaredTriggers.Text

/-- The case of the letters read last in the current word. -/
inductive WordCase where
  | unknown
  | lower
  | upper
  deriving DecidableEq

/-- The case after one more character. -/
def WordCase.next (w : WordCase) (c : Char) : WordCase :=
  if isLowercase c then .lower else if isUppercase c then .upper else w

/-- The words of a run of letters and numbers, `current` being what was read of the first. -/
def humps (w : WordCase) (current : List Char) : List Char → List (List Char)
  | [] => if current.isEmpty then [] else [current]
  | [c] => [current ++ [c]]
  | c :: d :: rest =>
    if w.next c = .lower && isUppercase d then
      (current ++ [c]) :: humps .unknown [] (d :: rest)
    else if w = .upper && isUppercase c && isLowercase d then
      current :: humps .unknown [c] (d :: rest)
    else humps (w.next c) (current ++ [c]) (d :: rest)

/-- The runs of letters and numbers of a text, `current` being what was read of the first. -/
def alphanumericRuns (current : List Char) : List Char → List (List Char)
  | [] => [current]
  | c :: rest =>
    if isAlphanumeric c then alphanumericRuns (current ++ [c]) rest
    else current :: alphanumericRuns [] rest

/-- One word in lower case; a `Σ` at its end takes its final form. -/
def lowercaseWord : List Char → List Char
  | [] => []
  | [c] => if c = 'Σ' then ['ς'] else lowerForm c
  | c :: rest => lowerForm c ++ lowercaseWord rest

/-- A name in snake case. -/
def snakeCase (name : String) : String :=
  let words := (alphanumericRuns [] name.toList).flatMap (humps .unknown [])
  "_".intercalate (words.map fun w => String.ofList (lowercaseWord w))

end DeclaredTriggers.Text
