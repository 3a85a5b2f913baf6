import DeclaredTriggers.Proofs.Sql.Fragments

/-!
# The lexemes of an expression

What an expression in SQL is made of: words, names between double quotes, literals in each form of quotes,
numbers, operators and marks. An expression is read character by character. Whatever is no lexeme breaks it:
a semicolon, a comment, quotes that stay open.

What has been read of a text put together from two is what was read of each, if the first has come to its
end where they meet (`Spells.meet`). Blanks, commas and parentheses end everything but quotes, so the parts
of a text that is written with these between them are read one by one:

> `Spells.delimited`: so a text is read in front of a blank, a comma or a parenthesis.
>
> `spells_quoteLiteral`: a text that was written as a literal is read as that text, in both forms of quotes.
-/

namespace DeclaredTriggers.Sql.Expression

open Text (isBlank replaced)

/-- A part of an expression. -/
inductive Lexeme where
  /-- A keyword or a bare name. -/
  | word (text : List Char)
  /-- A name between double quotes. -/
  | name (text : List Char)
  | literal (text : List Char)
  | number (text : List Char)
  | operator (text : List Char)
  | mark (c : Char)
  deriving DecidableEq

/-- Whether a lexeme is a keyword, in any letter case. -/
def Lexeme.isKeyword (keyword : String) : Lexeme → Bool
  | .word text => text.map Char.toUpper = keyword.toList
  | .name _ | .literal _ | .number _ | .operator _ | .mark _ => false

/-- The forms of quotes. -/
inductive Quotes where
  /-- Double quotes, around a name. -/
  | name
  /-- Single quotes, around a literal. -/
  | literal
  /-- Single quotes behind an `E`, where a backslash escapes. -/
  | escaped
  deriving DecidableEq

namespace Quotes

/-- The character at both ends. -/
def character : Quotes → Char
  | .name => '"'
  | .literal | .escaped => '\''

/-- What stands between quotes, as a lexeme. -/
def lexeme : Quotes → List Char → Lexeme
  | .name, text => .name text
  | .literal, text | .escaped, text => .literal text

end Quotes

/-! ## Characters -/

/-- Whether a character is a lexeme by itself. -/
def isMark (c : Char) : Bool := ['(', ')', '[', ']', ',', '.'].contains c

/-- Whether a character may stand in an operator. -/
def isOperator (c : Char) : Bool := "+-*/<>=~!@#%^&|`?:".toList.contains c

/-- Whether a word may begin with a character: an ASCII letter, an underscore, or any character beyond ASCII
that is not blank. -/
def isLetter (c : Char) : Bool := c.isAlpha || c = '_' || (128 ≤ c.toNat && !isBlank c)

/-- Whether a word may go on with a character. -/
def isWordRest (c : Char) : Bool := isLetter c || c.isDigit || c = '$'

/-- Whether a number may go on with a character. -/
def isNumberRest (c : Char) : Bool := isLetter c || c.isDigit || c = '.'

/-- Whether a character ends everything but quotes. -/
def isDelimiter (c : Char) : Bool := isBlank c || c = '(' || c = ')' || c = ','

/-! ## Scanning -/

/-- What a scanner of expressions is in the middle of, and what it has read of it, the newest character
first. -/
inductive Scan where
  | between
  | word (sofar : List Char)
  | number (sofar : List Char)
  | operator (sofar : List Char)
  | quoted (q : Quotes) (sofar : List Char)
  /-- Behind a quote that is the last, unless a second one follows. -/
  | quoteEnd (q : Quotes) (sofar : List Char)
  /-- Behind a backslash that escapes. -/
  | backslash (sofar : List Char)
  /-- Behind the dollar sign that begins a tag. -/
  | tag (sofar : List Char)
  /-- In a literal between tags; `label` is what stands between their dollar signs, backwards. -/
  | body (label sofar : List Char)
  /-- Behind something that has no place in an expression. -/
  | broken
  deriving DecidableEq

namespace Scan

/-- The lexeme that ends here, if one does. -/
def ended : Scan → List Lexeme
  | .word sofar => [.word sofar.reverse]
  | .number sofar => [.number sofar.reverse]
  | .operator sofar => [.operator sofar.reverse]
  | .quoteEnd q sofar => [q.lexeme sofar.reverse]
  | .between | .quoted .. | .backslash _ | .tag _ | .body .. | .broken => []

/-- The lexemes and the scan that a character gives in the middle of nothing. -/
def start (c : Char) : List Lexeme × Scan :=
  if isBlank c then ([], .between)
  else if isMark c then ([.mark c], .between)
  else if c = '"' then ([], .quoted .name [])
  else if c = '\'' then ([], .quoted .literal [])
  else if c = '$' then ([], .tag [])
  else if c.isDigit then ([], .number [c])
  else if isOperator c then ([], .operator [c])
  else if isLetter c then ([], .word [c])
  else ([], .broken)

/-- Whether two characters begin a comment. -/
def isComment (c d : Char) : Bool := (c = '-' && d = '-') || (c = '/' && d = '*')

/-- Whether what is in the middle of no quotes ends in front of a character. -/
def endsAt (m : Scan) (c : Char) : Bool :=
  match m with
  | .between => true
  | .word sofar => !isWordRest c && !(c = '\'' && (sofar = ['E'] || sofar = ['e']))
  | .number _ => !isNumberRest c
  | .operator _ => !isOperator c
  | .quoteEnd q _ => c ≠ q.character
  | .quoted .. | .backslash _ | .tag _ | .body .. | .broken => false

/-- The lexemes and the scan that one more character gives where nothing ends in front of it. -/
def continued (m : Scan) (c : Char) : List Lexeme × Scan :=
  match m with
  | .word sofar =>
    if c = '\'' then ([], .quoted .escaped []) else ([], .word (c :: sofar))
  | .number sofar => ([], .number (c :: sofar))
  | .operator sofar =>
    if (sofar.head?.any fun d => isComment d c) then ([], .broken) else ([], .operator (c :: sofar))
  | .quoted q sofar =>
    if c = q.character then ([], .quoteEnd q sofar)
    else if q = .escaped && c = '\\' then ([], .backslash sofar)
    else ([], .quoted q (c :: sofar))
  | .quoteEnd q sofar => ([], .quoted q (c :: sofar))
  | .backslash sofar =>
    if c = '\\' || c = '\'' then ([], .quoted .escaped (c :: sofar))
    else ([], .quoted .escaped (c :: '\\' :: sofar))
  | .tag sofar =>
    if c = '$' then ([], .body sofar [])
    else if isLetter c || (c.isDigit && !sofar.isEmpty) then ([], .tag (c :: sofar))
    else ([], .broken)
  | .body label sofar =>
    match Text.strip? ('$' :: label ++ ['$']) (c :: sofar) with
    | some text => ([.literal text.reverse], .between)
    | none => ([], .body label (c :: sofar))
  | .between | .broken => ([], .broken)

/-- The lexemes and the scan that one more character gives. -/
def step (m : Scan) (c : Char) : List Lexeme × Scan :=
  if m.endsAt c then (m.ended ++ (start c).1, (start c).2) else m.continued c

/-- The lexemes and the scan that a text gives. -/
def read (m : Scan) : List Char → List Lexeme × Scan
  | [] => ([], m)
  | c :: s => ((m.step c).1 ++ (read (m.step c).2 s).1, (read (m.step c).2 s).2)

theorem read_nil (m : Scan) : m.read [] = ([], m) := rfl

theorem read_cons (m : Scan) (c : Char) (s : List Char) :
    m.read (c :: s) = ((m.step c).1 ++ ((m.step c).2.read s).1, ((m.step c).2.read s).2) := rfl

theorem read_append (m : Scan) (a b : List Char) :
    m.read (a ++ b) = ((m.read a).1 ++ ((m.read a).2.read b).1, ((m.read a).2.read b).2) := by
  induction a generalizing m with
  | nil => rfl
  | cons c a ih => rw [List.cons_append, read_cons, read_cons, ih, List.append_assoc]

/-- Whether a text may end here. -/
def isSettled : Scan → Bool
  | .between | .word _ | .number _ | .operator _ | .quoteEnd .. => true
  | .quoted .. | .backslash _ | .tag _ | .body .. | .broken => false

/-- What a lexeme ends in front of is read as if it stood alone. -/
theorem step_of_endsAt {m : Scan} {c : Char} (h : m.endsAt c) :
    m.step c = (m.ended ++ (Scan.between.step c).1, (Scan.between.step c).2) := by
  unfold step
  rw [if_pos h, if_pos (show Scan.between.endsAt c from rfl)]
  rfl

/-- In the middle of nothing, a character begins a lexeme. -/
theorem step_between (c : Char) : Scan.between.step c = start c := by
  unfold step
  rw [if_pos (show Scan.between.endsAt c from rfl)]
  rfl

/-- What is known of a character that ends everything but quotes. -/
theorem delimiter {c : Char} (h : isDelimiter c) :
    isWordRest c = false ∧ isNumberRest c = false ∧ isOperator c = false ∧ c ≠ '"' ∧ c ≠ '\'' := by
  have hall : ∀ n < 128, isDelimiter (Char.ofNat n) →
      isWordRest (Char.ofNat n) = false ∧ isNumberRest (Char.ofNat n) = false ∧
        isOperator (Char.ofNat n) = false ∧ Char.ofNat n ≠ '"' ∧ Char.ofNat n ≠ '\'' := by decide +kernel
  by_cases hc : c.toNat < 128
  · exact forall_ascii (P := fun c => isDelimiter c → isWordRest c = false ∧ isNumberRest c = false ∧
      isOperator c = false ∧ c ≠ '"' ∧ c ≠ '\'') hall c hc h
  · have hne : ∀ d : Char, d.toNat < 128 → c ≠ d := fun d hd hcd => hc (hcd ▸ hd)
    have hblank : isBlank c := by
      simpa [isDelimiter, hne '(' (by decide), hne ')' (by decide), hne ',' (by decide)] using h
    have hname : ∀ d, Definition.isNameCharacter d → c ≠ d := fun d hd =>
      hne d (Definition.toNat_lt_of_isNameCharacter hd)
    have halpha : c.isAlpha = false := by
      rw [Bool.eq_false_iff]
      intro halpha
      exact hname c (by simp [Definition.isNameCharacter, Char.isAlphanum, halpha]) rfl
    have hdigit : c.isDigit = false := by
      rw [Bool.eq_false_iff]
      intro hdigit
      exact hname c (by simp [Definition.isNameCharacter, Char.isAlphanum, hdigit]) rfl
    have hletter : isLetter c = false := by
      simp [isLetter, halpha, hblank, hne '_' (by decide)]
    refine ⟨?_, ?_, ?_, hne _ (by decide), hne _ (by decide)⟩
    · simp [isWordRest, hletter, hdigit, hne '$' (by decide)]
    · simp [isNumberRest, hletter, hdigit, hne '.' (by decide)]
    · have hascii : ∀ d ∈ "+-*/<>=~!@#%^&|`?:".toList, d.toNat < 128 := by decide
      rw [isOperator, Bool.eq_false_iff]
      intro hmem
      exact hc (hascii c (List.elem_iff.1 hmem))

theorem endsAt_delimiter {m : Scan} (h : m.isSettled) {c : Char} (hc : isDelimiter c) : m.endsAt c := by
  obtain ⟨hword, hnumber, hoperator, hname, hliteral⟩ := delimiter hc
  cases m with
  | between => rfl
  | word _ => simp [endsAt, hword, hliteral]
  | number _ => simp [endsAt, hnumber]
  | operator _ => simp [endsAt, hoperator]
  | quoteEnd q _ => cases q <;> simp [endsAt, Quotes.character, hname, hliteral]
  | quoted _ _ | backslash _ | tag _ | body _ _ | broken => cases h

end Scan

/-- The lexemes of a text. -/
def lexemes (s : List Char) : List Lexeme :=
  (Scan.between.read s).1 ++ (Scan.between.read s).2.ended

/-- A text of whole lexemes, and these. -/
structure Spells (s : List Char) (ts : List Lexeme) : Prop where
  lexemes : lexemes s = ts
  settled : (Scan.between.read s).2.isSettled

namespace Spells

variable {a b : List Char} {c : Char} {ts us : List Lexeme}

theorem nil : Spells [] [] := ⟨rfl, rfl⟩

/-- Texts that meet where a lexeme ends. -/
theorem meet (ha : Spells a ts) (hc : (Scan.between.read a).2.endsAt c) (hb : Spells (c :: b) us) :
    Spells (a ++ c :: b) (ts ++ us) := by
  have hread : (Scan.between.read a).2.read (c :: b) =
      ((Scan.between.read a).2.ended ++ (Scan.between.read (c :: b)).1,
        (Scan.between.read (c :: b)).2) := by
    rw [Scan.read_cons, Scan.step_of_endsAt hc, Scan.read_cons Scan.between, List.append_assoc]
  refine ⟨?_, ?_⟩
  · rw [← ha.lexemes, ← hb.lexemes]
    unfold Expression.lexemes
    rw [Scan.read_append, hread]
    simp only [List.append_assoc]
  · rw [Scan.read_append, hread]
    exact hb.settled

/-- A text in front of a blank, a comma or a parenthesis. -/
theorem delimited (ha : Spells a ts) (hc : isDelimiter c) (hb : Spells (c :: b) us) :
    Spells (a ++ c :: b) (ts ++ us) := ha.meet (Scan.endsAt_delimiter ha.settled hc) hb

/-- A text behind one that leaves the scanner between lexemes. -/
theorem behind {p : List Char} {q : List Lexeme} (hp : Scan.between.read p = (q, .between))
    (hb : Spells b us) : Spells (p ++ b) (q ++ us) := by
  refine ⟨?_, ?_⟩
  · rw [← hb.lexemes]
    unfold Expression.lexemes
    rw [Scan.read_append, hp]
    simp only [List.append_assoc]
  · rw [Scan.read_append, hp]
    exact hb.settled

/-- A text behind a blank. -/
theorem blank (hc : isBlank c) (hb : Spells b us) : Spells (c :: b) us :=
  behind (p := [c]) (q := []) (by simp [Scan.read, Scan.step_between, Scan.start, hc]) hb

end Spells

/-! ## Numbers -/

theorem read_number {w sofar : List Char} (h : ∀ c ∈ w, isNumberRest c) :
    (Scan.number sofar).read w = ([], .number (w.reverse ++ sofar)) := by
  induction w generalizing sofar with
  | nil => rfl
  | cons c w ih =>
    have hstep : (Scan.number sofar).step c = ([], .number (c :: sofar)) := by
      simp [Scan.step, Scan.endsAt, Scan.continued, h c List.mem_cons_self]
    rw [Scan.read_cons, hstep, ih fun d hd => h d (List.mem_cons_of_mem _ hd)]
    simp

/-- A digit begins a number. -/
theorem start_digit {c : Char} (h : c.isDigit) : Scan.start c = ([], .number [c]) := by
  have hall : ∀ n < 128, (Char.ofNat n).isDigit →
      Scan.start (Char.ofNat n) = ([], .number [Char.ofNat n]) := by decide +kernel
  refine forall_ascii (P := fun c => c.isDigit → Scan.start c = ([], .number [c])) hall c ?_ h
  exact Definition.toNat_lt_of_isNameCharacter (by simp [Definition.isNameCharacter, Char.isAlphanum, h])

theorem spells_number {c : Char} {w : List Char} (hc : c.isDigit) (h : ∀ d ∈ w, isNumberRest d) :
    Spells (c :: w) [.number (c :: w)] := by
  have hread : Scan.between.read (c :: w) = ([], .number (w.reverse ++ [c])) := by
    rw [Scan.read_cons, Scan.step_between, start_digit hc, read_number h]
    rfl
  refine ⟨?_, by rw [hread]; rfl⟩
  unfold lexemes
  rw [hread]
  simp [Scan.ended]

/-! ## Quotes -/

/-- Between quotes, a text is read as it is, and two quotes as one. -/
theorem read_replaced {q : Quotes} (hq : q ≠ .escaped) (sofar s : List Char) :
    (Scan.quoted q sofar).read (replaced q.character [q.character, q.character] s) =
      ([], .quoted q (s.reverse ++ sofar)) := by
  induction s generalizing sofar with
  | nil => rfl
  | cons c s ih =>
    show (Scan.quoted q sofar).read ((if c = q.character then _ else _) ++ replaced _ _ s) = _
    by_cases hc : c = q.character
    · subst hc
      have hpair : (Scan.quoted q sofar).read [q.character, q.character] =
          ([], .quoted q (q.character :: sofar)) := by
        simp [Scan.read, Scan.step, Scan.endsAt, Scan.continued]
      rw [if_pos rfl, Scan.read_append, hpair, ih]
      simp
    · have hone : (Scan.quoted q sofar).read [c] = ([], .quoted q (c :: sofar)) := by
        simp [Scan.read, Scan.step, Scan.endsAt, Scan.continued, hc, hq]
      rw [if_neg hc, Scan.read_append, hone, ih]
      simp

/-- Where backslashes escape, two of them are read as one as well. -/
theorem read_escaped (sofar s : List Char) :
    (Scan.quoted .escaped sofar).read
        (replaced '\\' ['\\', '\\'] (replaced '\'' ['\'', '\''] s)) =
      ([], .quoted .escaped (s.reverse ++ sofar)) := by
  have hpart : ∀ a b : List Char, replaced '\\' ['\\', '\\'] (a ++ b) =
      replaced '\\' ['\\', '\\'] a ++ replaced '\\' ['\\', '\\'] b := fun a b => List.flatMap_append
  induction s generalizing sofar with
  | nil => rfl
  | cons c s ih =>
    show (Scan.quoted .escaped sofar).read (replaced '\\' ['\\', '\\']
      ((if c = '\'' then ['\'', '\''] else [c]) ++ replaced '\'' ['\'', '\''] s)) = _
    have hone : (Scan.quoted .escaped sofar).read
        (replaced '\\' ['\\', '\\'] (if c = '\'' then ['\'', '\''] else [c])) =
          ([], .quoted .escaped (c :: sofar)) := by
      by_cases hquote : c = '\''
      · subst hquote
        rfl
      · by_cases hslash : c = '\\'
        · subst hslash
          rfl
        · simp [replaced, hquote, hslash, Scan.read, Scan.step, Scan.endsAt, Scan.continued,
            Quotes.character]
    rw [hpart, Scan.read_append, hone, ih]
    simp

/-- Behind a quoted name the scanner is behind its last quote. -/
theorem read_quoteName (name : String) :
    Scan.between.read (quoteName name).toList = ([], .quoteEnd .name name.toList.reverse) := by
  have hopen : Scan.between.step '"' = ([], .quoted .name []) := rfl
  have hall : (Scan.quoted .name []).read (replaced '"' ['"', '"'] name.toList) =
      ([], .quoted .name name.toList.reverse) :=
    (read_replaced (q := .name) (by decide) [] name.toList).trans (by rw [List.append_nil])
  rw [quoteName_eq, List.cons_append, Scan.read_cons, hopen, Scan.read_append]
  simp only [hall]
  rfl

/-- What is read up to the end of quotes. -/
theorem spells_of_quoteEnd {s : List Char} {q : Quotes} {sofar : List Char}
    (h : Scan.between.read s = ([], .quoteEnd q sofar)) : Spells s [q.lexeme sofar.reverse] := by
  refine ⟨?_, by rw [h]; rfl⟩
  unfold lexemes
  rw [h]
  rfl

/-- A quoted name is read as that name. -/
theorem spells_quoteName (name : String) : Spells (quoteName name).toList [.name name.toList] := by
  have hspells := spells_of_quoteEnd (read_quoteName name)
  rwa [List.reverse_reverse] at hspells

/-- A text between single quotes, with its own quotes doubled. -/
theorem read_doubled (s : List Char) :
    Scan.between.read ('\'' :: replaced '\'' ['\'', '\''] s ++ ['\'']) = ([], .quoteEnd .literal s.reverse) := by
  have hopen : Scan.between.step '\'' = ([], .quoted .literal []) := rfl
  have hall : (Scan.quoted .literal []).read (replaced '\'' ['\'', '\''] s) =
      ([], .quoted .literal s.reverse) :=
    (read_replaced (q := .literal) (by decide) [] s).trans (by rw [List.append_nil])
  rw [List.cons_append, Scan.read_cons, hopen, Scan.read_append, hall]
  rfl

/-- Behind a literal the scanner is behind its last quote. -/
theorem read_quoteLiteral {text literal : String} (h : quoteLiteral text = .ok literal) :
    ∃ q : Quotes, q.lexeme text.toList = .literal text.toList ∧
      Scan.between.read literal.toList = ([], .quoteEnd q text.toList.reverse) := by
  rcases quoteLiteral_eq h with h | h
  · exact ⟨.literal, rfl, by rw [h]; exact read_doubled text.toList⟩
  · refine ⟨.escaped, rfl, ?_⟩
    have hopen : Scan.between.read ['E', '\''] = ([], .quoted .escaped []) := by decide
    have hall := read_escaped [] text.toList
    rw [List.append_nil] at hall
    rw [h]
    show Scan.between.read (['E', '\''] ++ (_ ++ ['\''])) = _
    rw [Scan.read_append, hopen, Scan.read_append]
    rw [hall]
    rfl

/-- A text that was written as a literal is read as that text. -/
theorem spells_quoteLiteral {text literal : String} (h : quoteLiteral text = .ok literal) :
    Spells literal.toList [.literal text.toList] := by
  obtain ⟨q, hlexeme, hread⟩ := read_quoteLiteral h
  have hspells := spells_of_quoteEnd hread
  rwa [List.reverse_reverse, hlexeme] at hspells

end DeclaredTriggers.Sql.Expression
