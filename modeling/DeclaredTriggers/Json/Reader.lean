import DeclaredTriggers.Json.Number
import DeclaredTriggers.Text.Hexadecimal
import DeclaredTriggers.Text.Search

/-!
# Reading JSON

`Json.parse?` reads a whole document: one value with blanks around it and nothing else. Each
reader takes what it can from the front of a text and gives the rest back.
-/

namespace DeclaredTriggers.Json

open Text (hexDigit?)

/-- Whether a character may stand between tokens. -/
def isBlank (c : Char) : Bool := c = ' ' || c = '\n' || c = '\t' || c = '\r'

/-- A text without the blanks it begins with. -/
def skipBlanks (s : List Char) : List Char := s.dropWhile isBlank

/-- The value of four hexadecimal digits. -/
def hexFour? (a b c d : Char) : Option Nat := do
  let a ← hexDigit? a
  let b ← hexDigit? b
  let c ← hexDigit? c
  let d ← hexDigit? d
  pure (((a * 16 + b) * 16 + c) * 16 + d)

/-- Whether a code is the first half of a surrogate pair. -/
def isHighSurrogate (n : Nat) : Bool := 0xD800 ≤ n && n < 0xDC00

/-- Whether a code is the second half of a surrogate pair. -/
def isLowSurrogate (n : Nat) : Bool := 0xDC00 ≤ n && n < 0xE000

/-- The character of a surrogate pair. -/
def surrogatePair (high low : Nat) : Char :=
  Char.ofNat (0x10000 + (high - 0xD800) * 0x400 + (low - 0xDC00))

/-- The character that a letter stands for after a backslash. -/
def shortEscape? (c : Char) : Option Char :=
  match c with
  | '"' => some '"'
  | '\\' => some '\\'
  | '/' => some '/'
  | 'b' => some '\x08'
  | 'f' => some '\x0c'
  | 'n' => some '\n'
  | 'r' => some '\r'
  | 't' => some '\t'
  | _ => none

/-- A piece of a string: a character, or a code given by an escape. -/
inductive Piece where
  | char (c : Char)
  | code (n : Nat)
  deriving DecidableEq

/-- The rest of a string up to its closing quote, and what follows it. -/
def readText? : List Char → Option (List Piece × List Char)
  | [] => none
  | '"' :: rest => some ([], rest)
  | '\\' :: 'u' :: a :: b :: c :: d :: rest =>
    match hexFour? a b c d with
    | none => none
    | some n => (readText? rest).map fun (s, after) => (.code n :: s, after)
  | '\\' :: c :: rest =>
    match shortEscape? c with
    | none => none
    | some e => (readText? rest).map fun (s, after) => (.char e :: s, after)
  | c :: rest =>
    if c.toNat < 32 || c = '\\' then none
    else (readText? rest).map fun (s, after) => (.char c :: s, after)

/-- The characters of a string, if each of its codes, or each pair of them, names one. -/
def charsOf : List Piece → Option (List Char)
  | [] => some []
  | .char c :: rest => (charsOf rest).map (c :: ·)
  | .code n :: rest =>
    if isLowSurrogate n then none
    else if isHighSurrogate n then
      match rest with
      | .code m :: rest =>
        if isLowSurrogate m then (charsOf rest).map (surrogatePair n m :: ·) else none
      | _ => none
    else (charsOf rest).map (Char.ofNat n :: ·)

/-- The text of a string. -/
def textOf (s : List Piece) : Option String := (charsOf s).map String.ofList

/-- The digits a text begins with, and what follows them. -/
def readDigits (s : List Char) : List Char × List Char :=
  (s.takeWhile Char.isDigit, s.dropWhile Char.isDigit)

/-- The fraction of a number: its digits, none if there is no point. -/
def readFraction? : List Char → Option (List Char × List Char)
  | '.' :: rest =>
    match readDigits rest with
    | ([], _) => none
    | (ds, after) => some (ds, after)
  | s => some ([], s)

/-- The digits of an exponent after its sign. -/
def readExponentDigits? (negative : Bool) (s : List Char) : Option (Int × List Char) :=
  match readDigits s with
  | ([], _) => none
  | (ds, after) =>
    some (if negative then -(Decimal.digitsValue ds : Int) else Decimal.digitsValue ds, after)

/-- The exponent of a number, zero if there is none. -/
def readExponent? : List Char → Option (Int × List Char)
  | c :: rest =>
    if c = 'e' || c = 'E' then
      match rest with
      | '+' :: r => readExponentDigits? false r
      | '-' :: r => readExponentDigits? true r
      | r => readExponentDigits? false r
    else some (0, c :: rest)
  | [] => some (0, [])

/-- A number without its sign. The whole part has no needless zero. -/
def readNumber? (negative : Bool) (s : List Char) : Option (Json × List Char) :=
  match readDigits s with
  | ([], _) => none
  | ('0' :: _ :: _, _) => none
  | (whole, after) => do
    let (fraction, after) ← readFraction? after
    let (exponent, after) ← readExponent? after
    pure (.number (numberOf negative whole fraction exponent), after)

mutual

/-- The value a text begins with, after blanks. Each call takes a unit of fuel. -/
def readValue? : Nat → List Char → Option (Json × List Char)
  | 0, _ => none
  | fuel + 1, s =>
    match skipBlanks s with
    | 'n' :: rest => (Text.strip? "ull".toList rest).map (.null, ·)
    | 't' :: rest => (Text.strip? "rue".toList rest).map (.bool true, ·)
    | 'f' :: rest => (Text.strip? "alse".toList rest).map (.bool false, ·)
    | '"' :: rest => (readText? rest).map fun (t, after) => (.text (textOf t), after)
    | '[' :: rest =>
      match skipBlanks rest with
      | ']' :: after => some (.array [], after)
      | _ => (readItems? fuel rest).map fun (vs, after) => (.array vs, after)
    | '\x7b' :: rest =>
      match skipBlanks rest with
      | '\x7d' :: after => some (.object [], after)
      | _ => (readMembers? fuel rest).map fun (ms, after) => (.object ms, after)
    | '-' :: rest => readNumber? true rest
    | s => readNumber? false s

/-- The values of an array that has some, and what follows its bracket. -/
def readItems? : Nat → List Char → Option (List Json × List Char)
  | 0, _ => none
  | fuel + 1, s => do
    let (v, after) ← readValue? fuel s
    match skipBlanks after with
    | ']' :: rest => pure ([v], rest)
    | ',' :: rest =>
      let (vs, rest) ← readItems? fuel rest
      pure (v :: vs, rest)
    | _ => none

/-- The members of an object that has some, and what follows its brace. -/
def readMembers? : Nat → List Char → Option (List (Option String × Json) × List Char)
  | 0, _ => none
  | fuel + 1, s =>
    match skipBlanks s with
    | '"' :: rest => do
      let (k, after) ← readText? rest
      match skipBlanks after with
      | ':' :: rest =>
        let (v, after) ← readValue? fuel rest
        match skipBlanks after with
        | '\x7d' :: rest => pure ([(textOf k, v)], rest)
        | ',' :: rest =>
          let (ms, rest) ← readMembers? fuel rest
          pure ((textOf k, v) :: ms, rest)
        | _ => none
      | _ => none
    | _ => none

end

/-- The value of a document. A value takes at most two units of fuel for each character. -/
def parse? (document : String) : Option Json :=
  let s := document.toList
  match readValue? (2 * s.length + 2) s with
  | some (v, after) => if (skipBlanks after).isEmpty then some v else none
  | none => none

end DeclaredTriggers.Json
