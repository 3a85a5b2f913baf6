import DeclaredTriggers.Text.Blank

/-!
# Statements of a batch

Where the statements of a batch end. Nothing here parses SQL: the scanner only has to know which
semicolons are text. Those inside quotes, comments and dollar-quoted bodies are; every other one
ends a statement. It reads one character at a time, and `Mode` is all it remembers.
`segments` cuts a text at the semicolons that end statements, and loses nothing else
(`join_segments`).
-/

namespace DeclaredTriggers.Sql

open Text (isBlank trim)

/-- What the scanner is in the middle of. -/
inductive Mode where
  /-- Nothing. -/
  | plain
  /-- A minus that a second one would make a comment. -/
  | dash
  /-- A slash that a star would make a comment. -/
  | slash
  /-- A text between two characters `q`. -/
  | quoted (q : Char)
  /-- A quote that ends the text between two `q`, unless a second one follows. -/
  | quoteEnd (q : Char)
  /-- A comment up to the end of the line. -/
  | line
  /-- A comment up to a star and a slash. -/
  | block
  /-- A star in such a comment. -/
  | blockStar
  /-- A dollar sign and what may be the tag of a body. -/
  | tag (sofar : List Char)
  /-- A body up to its tag; once a dollar sign may have begun the tag, what is left of it. -/
  | body (name : List Char) (left : Option (List Char))
  deriving DecidableEq

/-- Whether a character may stand in a tag. -/
def isTagCharacter (c : Char) : Bool := c.isAlphanum || c = '_'

namespace Mode

/-- Whether a semicolon would end a statement. -/
def isTop : Mode → Bool
  | .plain | .dash | .slash | .quoteEnd _ | .tag _ => true
  | .quoted _ | .line | .block | .blockStar | .body .. => false

/-- What a character begins in the middle of nothing. -/
def start (c : Char) : Mode :=
  if c = '\'' || c = '"' then .quoted c
  else if c = '-' then .dash
  else if c = '/' then .slash
  else if c = '$' then .tag []
  else .plain

/-- The mode after one more character of a body, with `left` of its tag `name` still to come. -/
def bodyStep (name : List Char) (c : Char) : Option (List Char) → Mode
  | some [] => if c = '$' then .plain else .body name none
  | some (d :: left) =>
    if c = d then .body name (some left)
    else .body name (if c = '$' then some name else none)
  | none => .body name (if c = '$' then some name else none)

/-- The mode after one more character. -/
def step : Mode → Char → Mode
  | .plain, c => start c
  | .dash, c => if c = '-' then .line else start c
  | .slash, c => if c = '*' then .block else start c
  | .quoted q, c => if c = q then .quoteEnd q else .quoted q
  | .quoteEnd q, c => if c = q then .quoted q else start c
  | .line, c => if c = '\n' then .plain else .line
  | .block, c => if c = '*' then .blockStar else .block
  | .blockStar, c => if c = '/' then .plain else if c = '*' then .blockStar else .block
  | .tag sofar, c =>
    if c = '$' then .body sofar none
    else if isTagCharacter c then .tag (sofar ++ [c])
    else start c
  | .body name left, c => bodyStep name c left

/-- The mode after a text. -/
def run (m : Mode) (s : List Char) : Mode := s.foldl step m

end Mode

/-- The rest of a text in mode `m`: what stands before the first semicolon that ends a statement,
and what stands between each and the next. -/
def segmentsFrom (m : Mode) : List Char → List Char × List (List Char)
  | [] => ([], [])
  | c :: rest =>
    if c = ';' && m.isTop then
      let (first, others) := segmentsFrom .plain rest
      ([], first :: others)
    else
      let (first, others) := segmentsFrom (m.step c) rest
      (c :: first, others)

/-- A text cut at the semicolons that end statements. -/
def segments (s : List Char) : List (List Char) :=
  let (first, others) := segmentsFrom .plain s
  first :: others

/-- Texts with a semicolon between each and the next. -/
def joinSegments : List (List Char) → List Char
  | [] => []
  | [s] => s
  | s :: others => s ++ ';' :: joinSegments others

/-- The statements of a batch, without the blanks around them. -/
def statements (s : List Char) : List (List Char) :=
  ((segments s).map trim).filter (!·.isEmpty)

/-- The segments up to and including the first that is not blank, and those after it; none if no
semicolon ends it. -/
def splitSegments : List (List Char) → Option (List Char × List (List Char))
  | s :: t :: others =>
    if (trim s).isEmpty then
      (splitSegments (t :: others)).map fun (head, rest) => (s ++ ';' :: head, rest)
    else some (s ++ [';'], t :: others)
  | _ => none

/-- A batch cut behind the semicolon of its first statement, if anything but blanks follows. -/
def splitStatement? (s : List Char) : Option (List Char × List Char) :=
  match splitSegments (segments s) with
  | some (head, others) =>
    let rest := joinSegments others
    if (trim rest).isEmpty then none else some (head, rest)
  | none => none

theorem joinSegments_segmentsFrom (m : Mode) (s : List Char) :
    joinSegments ((segmentsFrom m s).1 :: (segmentsFrom m s).2) = s := by
  induction s generalizing m with
  | nil => rfl
  | cons c s ih =>
    simp only [segmentsFrom]
    split
    next h =>
      have hc : c = ';' := by simp at h; exact h.1
      simp only [joinSegments, List.nil_append, hc, ih]
    next =>
      have := ih (m.step c)
      cases hs : (segmentsFrom (m.step c) s).2 with
      | nil => rw [hs] at this; simpa [joinSegments] using this
      | cons t ts => rw [hs] at this; simpa [joinSegments] using this

/-- Cutting loses nothing but the semicolons. -/
theorem join_segments (s : List Char) : joinSegments (segments s) = s :=
  joinSegments_segmentsFrom .plain s

end DeclaredTriggers.Sql
