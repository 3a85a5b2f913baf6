import DeclaredTriggers.Proofs.Sql.Fragments

/-!
# String constants

How Postgres reads a string constant at the front of a text, and where it goes on behind it. A constant stands
between single quotes, and two quotes are one of its characters. Behind an `E`, or if strings do not conform to
the standard, a backslash escapes. A quote that ends a constant may be followed by another one, with a line's
end and nothing but blanks and comments between them; then the constant goes on.

> `quoteLiteral_read`: whatever a text holds, the literal that it is written as is read as that text under
> either setting, in front of everything that does not begin with a quote behind blanks and comments; and the
> statements of a batch are cut as if the literal were one character of them.
-/

namespace DeclaredTriggers.Sql

open Text (replaced)

/-! ## Blanks and comments -/

/-- The blanks between the lexemes of a statement. -/
def isSpace (c : Char) : Bool := c = ' ' || (9 ≤ c.toNat && c.toNat ≤ 13)

/-- Whether a character ends a line. -/
def isLineEnd (c : Char) : Bool := c = '\n' || c = '\r'

/-- What does not count, and is passed over. -/
inductive Passing where
  /-- Blanks. -/
  | blanks
  /-- A comment up to the end of the line. -/
  | line
  /-- A comment up to a star and a slash, and how many comments are open around it. -/
  | comment (around : Nat)

/-- The rest of a text behind what does not count. -/
def Passing.behind : Passing → List Char → List Char
  | _, [] => []
  | .blanks, '-' :: '-' :: s => Passing.line.behind s
  | .blanks, '/' :: '*' :: s => (Passing.comment 0).behind s
  | .blanks, c :: s => if isSpace c then Passing.blanks.behind s else c :: s
  | .line, c :: s => if isLineEnd c then Passing.blanks.behind s else Passing.line.behind s
  | .comment around, '/' :: '*' :: s => (Passing.comment (around + 1)).behind s
  | .comment 0, '*' :: '/' :: s => Passing.blanks.behind s
  | .comment (around + 1), '*' :: '/' :: s => (Passing.comment around).behind s
  | .comment around, _ :: s => (Passing.comment around).behind s

/-- Whether a text begins, behind blanks and comments, with a single quote. -/
def isQuoteNext (s : List Char) : Bool := (Passing.blanks.behind s).head? = some '\''

/-! ## Constants -/

/-- What stands behind the quote that takes a constant up again: there is a line's end in front of it, and else
only blanks and comments to the end of the line. -/
def resumed? (inComment lineEnded : Bool) : List Char → Option (List Char)
  | [] => none
  | c :: s =>
    if isLineEnd c then resumed? false true s
    else if inComment then resumed? true lineEnded s
    else if c = '\'' then if lineEnded then some s else none
    else if isSpace c then resumed? false lineEnded s
    else if c = '-' && s.head? = some '-' then resumed? true lineEnded s
    else none

theorem length_resumed? {inComment lineEnded : Bool} {s rest : List Char}
    (h : resumed? inComment lineEnded s = some rest) : rest.length < s.length := by
  fun_induction resumed? inComment lineEnded s <;> simp_all <;> omega

/-- The character of an escape. Those that give it by its number are not read. -/
def escaped? (c : Char) : Option Char :=
  if c = 'b' then some '\x08'
  else if c = 'f' then some '\x0c'
  else if c = 'n' then some '\n'
  else if c = 'r' then some '\r'
  else if c = 't' then some '\t'
  else if c = 'x' || c = 'u' || c = 'U' || ('0' ≤ c && c ≤ '7') then none
  else some c

/-- The text of a constant behind its first quote, and what follows the constant. -/
def constantRest? (escapes : Bool) : List Char → Option (List Char × List Char)
  | [] => none
  | c :: s =>
    if c = '\'' then
      match s with
      | '\'' :: s => (constantRest? escapes s).map fun (text, after) => ('\'' :: text, after)
      | s =>
        match _h : resumed? false false s with
        | some s => constantRest? escapes s
        | none => some ([], s)
    else if escapes && c = '\\' then
      match s with
      | [] => none
      | d :: s => do
        let e ← escaped? d
        let (text, after) ← constantRest? escapes s
        pure (e :: text, after)
    else (constantRest? escapes s).map fun (text, after) => (c :: text, after)
termination_by s => s.length
decreasing_by
  · simp only [List.length_cons]
    omega
  · have := length_resumed? _h
    simp only [List.length_cons]
    omega
  · simp only [List.length_cons]
    omega
  · simp only [List.length_cons]
    omega

/-- The constant that a text begins with, and what follows it. Behind an `E` a backslash escapes; without one
it does so if strings do not conform to the standard. -/
def constant? (conforming : Bool) : List Char → Option (List Char × List Char)
  | '\'' :: s => constantRest? (!conforming) s
  | 'E' :: '\'' :: s | 'e' :: '\'' :: s => constantRest? true s
  | _ => none

/-! ## Where a constant ends -/

theorem Passing.behind_space {c : Char} (h : isSpace c) (s : List Char) :
    Passing.blanks.behind (c :: s) = Passing.blanks.behind s := by
  rw [Passing.behind, if_pos h]
  · rintro t rfl
    exact absurd h (by decide)
  · rintro t rfl
    exact absurd h (by decide)

/-- What is taken up again is taken up behind blanks and comments. -/
theorem behind_of_resumed? {inComment lineEnded : Bool} {s rest : List Char}
    (h : resumed? inComment lineEnded s = some rest) :
    (if inComment then Passing.line else .blanks).behind s = '\'' :: rest := by
  fun_induction resumed? inComment lineEnded s with
  | case1 => cases h
  | case2 inComment lineEnded c s hline ih =>
    have hspace : isSpace c := by
      rcases (by simpa [isLineEnd] using hline : c = '\n' ∨ c = '\r') with rfl | rfl <;> decide
    cases inComment with
    | true =>
      rw [if_pos rfl, Passing.behind, if_pos hline]
      exact ih h
    | false =>
      rw [if_neg (by decide), Passing.behind_space hspace]
      exact ih h
  | case3 lineEnded c s hline ih =>
    rw [if_pos rfl, Passing.behind, if_neg hline]
    exact ih h
  | case4 inComment s hcomment =>
    obtain rfl := Option.some.inj h
    rw [if_neg hcomment]
    rfl
  | case5 => cases h
  | case6 inComment lineEnded c s _ hcomment _ hspace ih =>
    rw [if_neg hcomment, Passing.behind_space hspace]
    exact ih h
  | case7 inComment lineEnded c s _ hcomment _ _ hdash ih =>
    obtain ⟨rfl, hnext⟩ : c = '-' ∧ s.head? = some '-' := by simpa using hdash
    obtain ⟨t, rfl⟩ := List.head?_eq_some_iff.1 hnext
    have hline : Passing.line.behind ('-' :: t) = Passing.line.behind t := by
      rw [Passing.behind, if_neg (by decide)]
    rw [if_neg hcomment, Passing.behind, ← hline]
    exact ih h
  | case8 => cases h

/-- A constant is not taken up again in front of a text that does not begin with a quote behind blanks and
comments. -/
theorem resumed?_eq_none {s : List Char} (h : isQuoteNext s = false) : resumed? false false s = none := by
  cases hresumed : resumed? false false s with
  | none => rfl
  | some rest =>
    have hbehind : Passing.blanks.behind s = '\'' :: rest := behind_of_resumed? hresumed
    rw [isQuoteNext, hbehind] at h
    simp at h

theorem head?_ne_quote {s : List Char} (h : isQuoteNext s = false) : s.head? ≠ some '\'' := by
  intro hhead
  obtain ⟨t, rfl⟩ := List.head?_eq_some_iff.1 hhead
  have hquote : isQuoteNext ('\'' :: t) = true := rfl
  rw [hquote] at h
  cases h

theorem constantRest?_quote (escapes : Bool) {rest : List Char} (h : isQuoteNext rest = false) :
    constantRest? escapes ('\'' :: rest) = some ([], rest) := by
  have hhead := head?_ne_quote h
  rw [constantRest?.eq_def]
  simp only [if_pos]
  split
  next => exact absurd rfl hhead
  next =>
    split
    next hresumed => rw [resumed?_eq_none h] at hresumed; cases hresumed
    next => rfl

theorem constantRest?_doubled (escapes : Bool) (s : List Char) :
    constantRest? escapes ('\'' :: '\'' :: s) =
      (constantRest? escapes s).map fun (text, after) => ('\'' :: text, after) := by
  rw [constantRest?.eq_def]
  rfl

theorem constantRest?_escaped (s : List Char) :
    constantRest? true ('\\' :: '\\' :: s) =
      (constantRest? true s).map fun (text, after) => ('\\' :: text, after) := by
  rw [constantRest?.eq_def]
  show (constantRest? true s >>= _) = _
  cases constantRest? true s <;> rfl

theorem constantRest?_plain {escapes : Bool} {c : Char} (hquote : c ≠ '\'') (hslash : c = '\\' → escapes = false)
    (s : List Char) :
    constantRest? escapes (c :: s) = (constantRest? escapes s).map fun (text, after) => (c :: text, after) := by
  have hescape : ¬(escapes && c = '\\') = true := by
    intro h
    obtain ⟨hescapes, hc⟩ : escapes = true ∧ c = '\\' := by simpa using h
    rw [hslash hc] at hescapes
    cases hescapes
  rw [constantRest?.eq_def]
  simp only [if_neg hquote, if_neg hescape]

/-! ## What is written as a literal -/

/-- What stands in a literal for a character. -/
def writtenInLiteral (escapes : Bool) (c : Char) : List Char :=
  if c = '\'' then ['\'', '\''] else if escapes && c = '\\' then ['\\', '\\'] else [c]

/-- What was written for a character is read as that character, if a backslash that stands for itself does not
escape. -/
theorem constantRest?_written {escapes doubles : Bool} {c : Char} (h : c = '\\' → escapes = doubles)
    (s : List Char) :
    constantRest? escapes (writtenInLiteral doubles c ++ s) =
      (constantRest? escapes s).map fun (text, after) => (c :: text, after) := by
  unfold writtenInLiteral
  by_cases hquote : c = '\''
  · subst hquote
    exact constantRest?_doubled escapes s
  · rw [if_neg hquote]
    cases doubles with
    | true =>
      by_cases hslash : c = '\\'
      · subst hslash
        obtain rfl := h rfl
        exact constantRest?_escaped s
      · rw [if_neg (by simp [hslash])]
        exact constantRest?_plain hquote (fun hc => absurd hc hslash) s
    | false =>
      rw [if_neg (by simp)]
      exact constantRest?_plain hquote h s

/-- A text between quotes, as it is written, is read as it was. -/
theorem constantRest?_literal {escapes doubles : Bool} {s : List Char} (h : '\\' ∈ s → escapes = doubles)
    {rest : List Char} (hrest : isQuoteNext rest = false) :
    constantRest? escapes (s.flatMap (writtenInLiteral doubles) ++ '\'' :: rest) = some (s, rest) := by
  induction s with
  | nil => exact constantRest?_quote escapes hrest
  | cons c s ih =>
    rw [List.flatMap_cons, List.append_assoc,
      constantRest?_written fun hc => h (hc ▸ List.mem_cons_self),
      ih fun hmem => h (List.mem_cons_of_mem c hmem)]
    rfl

theorem replaced_quote_eq (s : List Char) :
    replaced '\'' ['\'', '\''] s = s.flatMap (writtenInLiteral false) := rfl

theorem replaced_both_eq (s : List Char) :
    replaced '\\' ['\\', '\\'] (replaced '\'' ['\'', '\''] s) = s.flatMap (writtenInLiteral true) := by
  unfold replaced
  rw [List.flatMap_assoc]
  congr 1
  funext c
  by_cases hquote : c = '\''
  · subst hquote
    rfl
  · simp [writtenInLiteral, hquote]

theorem backslash_mem_replaced {s : List Char} : '\\' ∈ replaced '\'' ['\'', '\''] s ↔ '\\' ∈ s := by
  unfold replaced
  rw [List.mem_flatMap]
  constructor
  · rintro ⟨c, hc, hmem⟩
    split at hmem
    next => simp at hmem
    next => exact List.mem_singleton.1 hmem ▸ hc
  · exact fun h => ⟨'\\', h, by decide⟩

/-- Only a null character keeps a text from being written as a literal. A backslash decides on the form. -/
theorem quoteLiteral_cases (text : String) :
    ('\x00' ∈ text.toList ∧ quoteLiteral text = .error (.definition .nulInLiteral)) ∨
      ('\x00' ∉ text.toList ∧ ∃ literal, quoteLiteral text = .ok literal ∧
        (('\\' ∈ text.toList ∧
            literal.toList = 'E' :: '\'' :: (text.toList.flatMap (writtenInLiteral true) ++ ['\''])) ∨
          ('\\' ∉ text.toList ∧
            literal.toList = '\'' :: (text.toList.flatMap (writtenInLiteral false) ++ ['\''])))) := by
  unfold quoteLiteral
  by_cases hnul : '\x00' ∈ text.toList
  · exact .inl ⟨hnul, if_pos hnul⟩
  · refine .inr ⟨hnul, ?_⟩
    simp only [if_neg hnul, backslash_mem_replaced]
    by_cases hslash : '\\' ∈ text.toList
    · refine ⟨_, if_pos hslash, .inl ⟨hslash, ?_⟩⟩
      simp only [replaced_both_eq, String.toList_append, String.toList_ofList]
      rfl
    · refine ⟨_, if_neg hslash, .inr ⟨hslash, ?_⟩⟩
      simp only [replaced_quote_eq, String.toList_append, String.toList_ofList]
      rfl

/-- A literal is one constant, as long as what stands behind it does not go on with it. -/
theorem constant?_quoteLiteral {text literal : String} (h : quoteLiteral text = .ok literal) {rest : List Char}
    (hrest : isQuoteNext rest = false) (conforming : Bool) :
    constant? conforming (literal.toList ++ rest) = some (text.toList, rest) := by
  rcases quoteLiteral_cases text with ⟨-, herror⟩ | ⟨-, written, hwritten, hform⟩
  · rw [h] at herror
    cases herror
  obtain rfl : written = literal := Except.ok.inj (hwritten.symm.trans h)
  rcases hform with ⟨-, hlist⟩ | ⟨hslash, hlist⟩
  · rw [hlist, List.cons_append, List.cons_append, List.append_assoc]
    exact constantRest?_literal (fun _ => rfl) hrest
  · rw [hlist, List.cons_append, List.append_assoc]
    exact constantRest?_literal (fun hmem => absurd hmem hslash) hrest

/-! ## Under the scanner of batches -/

/-- Behind a literal the scanner is where its last quote ends, and no semicolon in it has ended anything. -/
theorem through_quoteLiteral {text literal : String} (h : quoteLiteral text = .ok literal) :
    Mode.plain.through literal.toList = some (.quoteEnd '\'') := by
  have hquoted : ∀ s : List Char, Mode.plain.through ('\'' :: replaced '\'' ['\'', '\''] s ++ ['\'']) =
      some (.quoteEnd '\'') := by
    intro s
    show (Mode.quoted '\'').through (replaced '\'' ['\'', '\''] s ++ ['\'']) = _
    rw [Mode.through_append, through_doubled (by decide)]
    rfl
  rcases quoteLiteral_eq h with h | h
  · rw [h]
    exact hquoted _
  · rw [h, replaced_comm (by decide)]
    exact hquoted _

/-- A quote that is the last one leaves the scanner in the middle of nothing. -/
theorem segmentsFrom_quoteEnd {q : Char} {s : List Char} (h : s.head? ≠ some q) :
    segmentsFrom (.quoteEnd q) s = segmentsFrom .plain s := by
  cases s with
  | nil => rfl
  | cons c s =>
    have hstep : (Mode.quoteEnd q).step c = Mode.plain.step c :=
      if_neg fun hc => h (congrArg some hc)
    simp only [segmentsFrom, hstep, Mode.isTop]
    rfl

/-- A literal belongs to the segment that what follows it begins with. -/
theorem segments_quoteLiteral {text literal : String} (h : quoteLiteral text = .ok literal) {rest : List Char}
    (hrest : rest.head? ≠ some '\'') :
    segments (literal.toList ++ rest) = (segments rest).modifyHead (literal.toList ++ ·) := by
  unfold segments
  rw [segmentsFrom_append (through_quoteLiteral h), segmentsFrom_quoteEnd hrest]
  rfl

/-! ## Literals cannot be left -/

/-- For every text: it has no literal exactly if it has a null character. Otherwise, in front of everything that
does not begin with a single quote behind blanks and comments, its literal is one constant, which stands for the
text, whether strings conform to the standard or not; and the scanner of batches is out of the literal's quotes
behind it, with no semicolon in it ending a statement. -/
theorem quoteLiteral_read (text : String) :
    ((∃ e, quoteLiteral text = .error e) ↔ '\x00' ∈ text.toList) ∧
      ∀ literal, quoteLiteral text = .ok literal → ∀ rest, isQuoteNext rest = false →
        (∀ conforming, constant? conforming (literal.toList ++ rest) = some (text.toList, rest)) ∧
          Mode.plain.through literal.toList = some (.quoteEnd '\'') ∧
          segments (literal.toList ++ rest) = (segments rest).modifyHead (literal.toList ++ ·) := by
  refine ⟨?_, fun literal hliteral rest hrest => ⟨constant?_quoteLiteral hliteral hrest,
    through_quoteLiteral hliteral, segments_quoteLiteral hliteral (head?_ne_quote hrest)⟩⟩
  rcases quoteLiteral_cases text with ⟨hnul, herror⟩ | ⟨hnul, literal, hliteral, -⟩
  · exact iff_of_true ⟨_, herror⟩ hnul
  · refine iff_of_false ?_ hnul
    rintro ⟨e, herror⟩
    rw [hliteral] at herror
    cases herror

/-- A text with everything that could end a literal, in front of a comment with a quote in it. -/
theorem quoteLiteral_read_everything :
    quoteLiteral "\\'; DROP TABLE book; --" = .ok "E'\\\\''; DROP TABLE book; --'" ∧
      isQuoteNext " /* /* */ ' */ -- '\n; 'next'".toList = false ∧
      (∀ conforming, constant? conforming
          ("E'\\\\''; DROP TABLE book; --'".toList ++ " /* /* */ ' */ -- '\n; 'next'".toList) =
        some ("\\'; DROP TABLE book; --".toList, " /* /* */ ' */ -- '\n; 'next'".toList)) := by
  have hliteral : quoteLiteral "\\'; DROP TABLE book; --" = .ok "E'\\\\''; DROP TABLE book; --'" := rfl
  have hrest : isQuoteNext " /* /* */ ' */ -- '\n; 'next'".toList = false := by decide
  exact ⟨hliteral, hrest, ((quoteLiteral_read _).2 _ hliteral _ hrest).1⟩

end DeclaredTriggers.Sql
