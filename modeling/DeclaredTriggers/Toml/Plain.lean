import DeclaredTriggers.Text.Hexadecimal

/-!
# Plain TOML values

Numbers, dates and times stand in a document without quotes. This module says which spellings are
theirs. What they are worth is not asked here, so a number may be of any size, and of a whole one
only the digits at its front and those beside an underscore are looked at.
-/

namespace DeclaredTriggers.Toml

open Text (isHexDigit)

/-! ## Numbers -/

/-- A text without the sign it begins with. -/
def unsigned : List Char → List Char
  | '+' :: rest => rest
  | '-' :: rest => rest
  | s => s

/-- Whether every underscore of a text stands between two digits; `left` tells whether a digit
stands before the text. -/
def isGroupedAfter (digit : Char → Bool) (left : Bool) : List Char → Bool
  | [] => true
  | c :: rest =>
    (c ≠ '_' || (left && rest.head?.any digit)) && isGroupedAfter digit (digit c) rest

/-- Whether every underscore of a text stands between two digits. -/
def isGrouped (digit : Char → Bool) (s : List Char) : Bool := isGroupedAfter digit false s

/-- Whether a text holds digits and underscores only, and at least one digit. -/
def isRow (s : List Char) : Bool := s.all (fun c => c.isDigit || c = '_') && s.any Char.isDigit

/-- Whether a text is a row of digits with no needless zero. -/
def isWhole (s : List Char) : Bool :=
  isRow s && (s.countP Char.isDigit = 1 || s.head? ≠ some '0')

/-- Whether a text is nothing, or a mark and what has to follow it. -/
def isMarked (mark : Char → Bool) (then' : List Char → Bool) : List Char → Bool
  | [] => true
  | c :: rest => mark c && then' rest

/-- Whether a character stands before an exponent. -/
def isExponentMark (c : Char) : Bool := c = 'e' || c = 'E'

/-- Whether a text without a sign has the parts of a number with a fraction or an exponent. -/
def isFractional (s : List Char) : Bool :=
  let (mantissa, exponent) := s.span (!isExponentMark ·)
  let (whole, fraction) := mantissa.span (· ≠ '.')
  isWhole whole && isMarked (· = '.') isRow fraction &&
    isMarked isExponentMark (isRow ∘ unsigned) exponent

/-- Whether the digits of a number in base two, eight or sixteen are of that base. There may be
none. -/
def isBased (digit : Char → Bool) (ds : List Char) : Bool :=
  ds.all (fun c => digit c || c = '_') && isGrouped isHexDigit ds

/-- Whether a text spells a decimal number. One with a point or an exponent has to have the parts of
such a number. Another ends with its digits, or goes on behind an underscore. -/
def isDecimal (s : List Char) : Bool :=
  let body := unsigned s
  let rest := body.dropWhile Char.isDigit
  if rest.head?.any fun c => c = '-' || c = ':' then false
  else if rest.any fun c => c = '.' || isExponentMark c then
    isFractional body && isGrouped Char.isDigit s
  else
    !body.isEmpty && (rest.isEmpty || rest.head? = some '_') &&
      (body = ['0'] || body.head? ≠ some '0') && isGrouped isHexDigit s

/-- Whether a text spells a number: one in base two, eight or sixteen, a decimal one, or a word for
infinity or for no number. -/
def isNumber (s : List Char) : Bool :=
  match s with
  | '0' :: 'x' :: ds => isBased isHexDigit ds
  | '0' :: 'o' :: ds => isBased (fun c => '0' ≤ c && c ≤ '7') ds
  | '0' :: 'b' :: ds => isBased (fun c => c = '0' || c = '1') ds
  | s => unsigned s = ['i', 'n', 'f'] || unsigned s = ['n', 'a', 'n'] || isDecimal s

/-! ## Dates and times -/

/-- The number that the first `n` characters spell, if they are digits, and what follows them. -/
def readFixed? (n : Nat) (s : List Char) : Option (Nat × List Char) :=
  let ds := s.take n
  if ds.length = n && ds.all Char.isDigit then
    some (ds.foldl (fun m d => m * 10 + (d.toNat - '0'.toNat)) 0, s.drop n)
  else none

/-- What follows a given character. -/
def after? (c : Char) : List Char → Option (List Char)
  | [] => none
  | d :: rest => if d = c then some rest else none

/-- How many days a month has. -/
def daysOf (year month : Nat) : Nat :=
  if month = 2 then
    if year % 4 = 0 && (year % 100 ≠ 0 || year % 400 = 0) then 29 else 28
  else if month = 4 || month = 6 || month = 9 || month = 11 then 30
  else 31

/-- What follows a date. -/
def afterDate? (s : List Char) : Option (List Char) := do
  let (year, s) ← readFixed? 4 s
  let (month, s) ← readFixed? 2 (← after? '-' s)
  let (day, s) ← readFixed? 2 (← after? '-' s)
  if 1 ≤ month && month ≤ 12 && 1 ≤ day && day ≤ daysOf year month then some s else none

/-- What follows an hour and a minute. -/
def afterMinute? (s : List Char) : Option (List Char) := do
  let (hour, s) ← readFixed? 2 s
  let (minute, s) ← readFixed? 2 (← after? ':' s)
  if hour < 24 && minute < 60 then some s else none

/-- What follows a time; the second and its fraction may be left out. -/
def afterTime? (s : List Char) : Option (List Char) := do
  let s ← afterMinute? s
  match after? ':' s with
  | none => some s
  | some s =>
    let (second, s) ← readFixed? 2 s
    if 60 < second then none
    else
      match after? '.' s with
      | none => some s
      | some s =>
        if (s.takeWhile Char.isDigit).isEmpty then none else some (s.dropWhile Char.isDigit)

/-- Whether a text is how far a clock is from the standard one, or nothing. -/
def isOffset : List Char → Bool
  | [] => true
  | [c] => c = 'Z' || c = 'z'
  | c :: rest => (c = '+' || c = '-') && afterMinute? rest = some []

/-- Whether a text spells a date, a time, or both. -/
def isMoment (s : List Char) : Bool :=
  match afterDate? s with
  | none => afterTime? s = some []
  | some [] => true
  | some (c :: rest) => (c = 'T' || c = 't' || c = ' ') && (afterTime? rest).any isOffset

/-! ## Where a plain value ends -/

/-- The characters that end a plain value. -/
def plainEnds : List Char :=
  ['=', ',', '[', ']', '\x7b', '\x7d', '#', ' ', '\t', '\r', '\n']

/-- Whether a character may stand in a plain value: every one does that does not end it. -/
def isPlain (c : Char) : Bool := !plainEnds.contains c

/-- The plain value that a text begins with, and what follows it. A blank may stand between a date
and a time. -/
def readPlain (s : List Char) : List Char × List Char :=
  let (word, after) := s.span isPlain
  match after with
  | ' ' :: rest =>
    if afterDate? word = some [] && (rest.head?.any Char.isDigit) then
      let (more, after) := rest.span isPlain
      (word ++ ' ' :: more, after)
    else (word, after)
  | _ => (word, after)

end DeclaredTriggers.Toml
