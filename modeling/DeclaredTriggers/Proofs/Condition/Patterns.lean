import DeclaredTriggers.Proofs.Condition.Comparison
import DeclaredTriggers.Proofs.Sql.Constants
import Mathlib.Data.List.Infix

/-!
# Patterns that look for a text

A lookup finds a text by a pattern, and the pattern goes out in a literal. So a text is escaped twice: for the
pattern, where a backslash has the next character stand for itself (`Sql.like?`), and for the literal, by what
the pattern has become. `Lookup.pattern?_escaped` undoes the first, character by character: the parts of an
escaped text are its characters, and only the text fits them.

> `Lookup.finds_iff`: for every text that can be written, the condition of a lookup for it holds of exactly the
> subjects that contain it, begin with it or end with it; in any letter case, of those whose capitals contain
> its capitals.
-/

namespace DeclaredTriggers

open Sql.Expression
open Text (occurs replaced)

/-! ## Patterns -/

namespace Sql

/-- A part of a pattern. -/
inductive PatternPart where
  | character (c : Char)
  /-- Any one character. -/
  | one
  /-- Any characters, as many as there are. -/
  | run
  deriving DecidableEq

/-- The characters that a pattern gives a meaning to. -/
def wildcards : List Char := ['\\', '%', '_']

/-- The parts of a pattern. A backslash has the next character stand for itself, and there has to be one. -/
def pattern? : List Char → Option (List PatternPart)
  | [] => some []
  | ['\\'] => none
  | '\\' :: c :: s => (pattern? s).map (.character c :: ·)
  | '%' :: s => (pattern? s).map (.run :: ·)
  | '_' :: s => (pattern? s).map (.one :: ·)
  | c :: s => (pattern? s).map (.character c :: ·)

/-- Whether the whole of a subject is made up of a pattern's parts. -/
def fits : List PatternPart → List Char → Bool
  | [], s => s.isEmpty
  | .character c :: ps, d :: s => c = d && fits ps s
  | .one :: ps, _ :: s => fits ps s
  | .run :: ps, s => s.tails.any (fits ps)
  | _ :: _, [] => false

/-- Whether a subject is like a pattern, if that is one. -/
def like? (pattern subject : List Char) : Option Bool := (pattern? pattern).map fun ps => fits ps subject

theorem pattern?_plain {c : Char} (h : c ∉ wildcards) (s : List Char) :
    pattern? (c :: s) = (pattern? s).map (.character c :: ·) := by
  simp only [wildcards, List.mem_cons, List.not_mem_nil, or_false, not_or] at h
  rw [pattern?.eq_def]
  split <;> simp_all

/-! ## What fits -/

variable {ps : List PatternPart} {s t : List Char}

theorem fits_run : fits (.run :: ps) s ↔ ∃ rest, rest <:+ s ∧ fits ps rest := by
  rw [fits]
  simp [List.mem_tails]

/-- Everything fits a run. -/
theorem fits_run_end : fits [.run] s := fits_run.2 ⟨[], List.nil_suffix, rfl⟩

/-- Only the text itself fits its characters. -/
theorem fits_characters : fits (t.map .character ++ ps) s ↔ ∃ rest, s = t ++ rest ∧ fits ps rest := by
  induction t generalizing s with
  | nil => simp
  | cons c t ih =>
    cases s with
    | nil => simp [fits]
    | cons d s => simp [fits, ih, and_assoc, eq_comm (a := c)]

/-- What begins with a text. -/
theorem fits_beginning : fits (t.map .character ++ [.run]) s ↔ t <+: s := by
  rw [fits_characters]
  exact exists_congr fun rest => by rw [and_iff_left fits_run_end]; exact eq_comm

/-- What ends with a text. -/
theorem fits_ending : fits (.run :: t.map .character) s ↔ t <:+ s := by
  have hwhole : ∀ rest, fits (t.map .character) rest ↔ rest = t := fun rest => by
    have hall : fits (t.map .character ++ []) rest ↔ _ := fits_characters
    simpa [fits] using hall
  rw [fits_run]
  simp only [hwhole, exists_eq_right]

/-- What contains a text. -/
theorem fits_inside : fits (.run :: (t.map .character ++ [.run])) s ↔ t <:+: s := by
  rw [fits_run, List.infix_iff_prefix_suffix]
  exact exists_congr fun rest => by rw [fits_beginning, and_comm]

end Sql

/-! ## Escaping -/

namespace Lookup

/-- A character with the escape that it needs. -/
def escapedCharacter (c : Char) : List Char := if c ∈ Sql.wildcards then ['\\', c] else [c]

/-- The replacements one after another escape each character once. -/
theorem escapedPattern_eq (t : List Char) : escapedPattern t = t.flatMap escapedCharacter := by
  unfold escapedPattern replaced
  rw [List.flatMap_assoc, List.flatMap_assoc]
  congr 1
  funext c
  simp only [escapedCharacter, Sql.wildcards]
  by_cases hslash : c = '\\'
  · subst hslash
    rfl
  by_cases hpercent : c = '%'
  · subst hpercent
    rfl
  by_cases hunderscore : c = '_'
  · subst hunderscore
    rfl
  simp [hslash, hpercent, hunderscore]

/-- The parts of an escaped text are its characters. -/
theorem pattern?_escaped (t s : List Char) :
    Sql.pattern? (escapedPattern t ++ s) = (Sql.pattern? s).map (t.map .character ++ ·) := by
  rw [escapedPattern_eq]
  induction t with
  | nil => simp
  | cons c t ih =>
    -- an escape and what it escapes are one part, whatever comes behind them
    have hone : Sql.pattern? (escapedCharacter c ++ (t.flatMap escapedCharacter ++ s)) =
        (Sql.pattern? (t.flatMap escapedCharacter ++ s)).map (.character c :: ·) := by
      unfold escapedCharacter
      split
      next => rfl
      next hplain => exact Sql.pattern?_plain hplain _
    rw [List.flatMap_cons, List.append_assoc, hone, ih, Option.map_map]
    rfl

theorem mem_escapedPattern {c : Char} (h : c ∉ Sql.wildcards) {t : List Char} :
    c ∈ escapedPattern t ↔ c ∈ t := by
  have hone : ∀ d, c ∈ escapedCharacter d ↔ c = d := by
    intro d
    unfold escapedCharacter
    split
    next => simp [show c ≠ '\\' from fun hc => h (hc ▸ by decide)]
    next => simp
  rw [escapedPattern_eq, List.mem_flatMap]
  simp only [hone, exists_eq_right']

end Lookup

/-! ## What a lookup looks for -/

/-- Whether a match finds one text in another. -/
def TextMatch.Finds : TextMatch → List Char → List Char → Prop
  | .contains, t, s | .containsAnyCase, t, s => t <:+: s
  | .startsWith, t, s => t <+: s
  | .endsWith, t, s => t <:+ s

instance : (m : TextMatch) → (t s : List Char) → Decidable (m.Finds t s)
  | .contains, t, s | .containsAnyCase, t, s => inferInstanceAs (Decidable (t <:+: s))
  | .startsWith, t, s => inferInstanceAs (Decidable (t <+: s))
  | .endsWith, t, s => inferInstanceAs (Decidable (t <:+ s))

/-- What a match sees of a text: itself, or its capitals if letter case is no matter. -/
def TextMatch.seen (upper : Char → Char) : TextMatch → List Char → List Char
  | .containsAnyCase, s => s.map upper
  | .contains, s | .startsWith, s | .endsWith, s => s

/-- Capitals that leave the characters alone that a pattern gives a meaning to, and are none of these for any
other character. -/
structure KeepsWildcards (upper : Char → Char) : Prop where
  fixes : ∀ c ∈ Sql.wildcards, upper c = c
  only : ∀ c, c ∉ Sql.wildcards → upper c ∉ Sql.wildcards

/-- What a database does that compares texts with patterns, and for any letter case the capitals of both. -/
structure Data.ReadsPatterns {D : Type} (data : Data D) (upper : Char → Char) (textOf : D → List Char) : Prop where
  like : ∀ d pattern, data.like d pattern = true ↔ Sql.like? pattern.toList (textOf d) = some true
  likeAnyCase : ∀ d pattern, data.likeAnyCase d pattern = true ↔
    Sql.like? (pattern.toList.map upper) ((textOf d).map upper) = some true

namespace Lookup

variable {m : TextMatch} {upper : Char → Char}

/-- What is like the pattern for a text is what the text is found in. -/
theorem like?_pattern (m : TextMatch) (t : String) (s : List Char) :
    Sql.like? (TextMatch.pattern m t).toList s = some true ↔ m.Finds t.toList s := by
  have hend := pattern?_escaped t.toList []
  have hrun := pattern?_escaped t.toList ['%']
  rw [List.append_nil] at hend
  have hlike : ∀ {pattern ps}, Sql.pattern? pattern = some ps →
      (Sql.like? pattern s = some true ↔ Sql.fits ps s) := fun hparts => by simp [Sql.like?, hparts]
  cases m with
  | contains | containsAnyCase =>
    rw [TextMatch.Finds, ← Sql.fits_inside, TextMatch.pattern, String.toList_ofList]
    refine hlike ?_
    show (Sql.pattern? (escapedPattern t.toList ++ ['%'])).map (.run :: ·) = _
    rw [hrun]
    rfl
  | startsWith =>
    rw [TextMatch.Finds, ← Sql.fits_beginning, TextMatch.pattern, String.toList_ofList]
    exact hlike hrun
  | endsWith =>
    rw [TextMatch.Finds, ← Sql.fits_ending, TextMatch.pattern, String.toList_ofList]
    refine hlike ?_
    show (Sql.pattern? (escapedPattern t.toList)).map (.run :: ·) = _
    rw [hend]
    simp [Sql.pattern?]

/-- The capitals of a pattern are the pattern for the capitals. -/
theorem map_pattern (h : KeepsWildcards upper) (t : String) :
    (TextMatch.pattern .containsAnyCase t).toList.map upper =
      (TextMatch.pattern .containsAnyCase (String.ofList (t.toList.map upper))).toList := by
  -- both hypotheses are needed: a capital must not lose its escape, and not come to need one
  have hone : ∀ c, (escapedCharacter c).map upper = escapedCharacter (upper c) := by
    intro c
    unfold escapedCharacter
    split
    next hc =>
      rw [h.fixes c hc, if_pos hc]
      simp [h.fixes c hc, h.fixes '\\' (by decide)]
    next hc => rw [if_neg (h.only c hc)]; rfl
  have hescaped : (escapedPattern t.toList).map upper = escapedPattern (t.toList.map upper) := by
    rw [escapedPattern_eq, escapedPattern_eq, List.map_flatMap, List.flatMap_map]
    exact congrArg (t.toList.flatMap ·) (funext hone)
  have hpercent := h.fixes '%' (by decide)
  simp [TextMatch.pattern, hescaped, hpercent]

/-- A text is found in a subject, both as the match sees them, if the database says so of its pattern. -/
theorem patterns_agree {D : Type} {data : Data D} {textOf : D → List Char} (hupper : KeepsWildcards upper)
    (hdata : data.ReadsPatterns upper textOf) (m : TextMatch) (t : String) (d : D) :
    (if m = .containsAnyCase then data.likeAnyCase d (TextMatch.pattern m t)
      else data.like d (TextMatch.pattern m t)) = true ↔
        m.Finds (m.seen upper t.toList) (m.seen upper (textOf d)) := by
  cases m with
  | containsAnyCase =>
    rw [if_pos rfl, hdata.likeAnyCase, map_pattern hupper, like?_pattern, String.toList_ofList]
    rfl
  | contains | startsWith | endsWith =>
    rw [if_neg (by decide), hdata.like, like?_pattern]
    rfl

end Lookup

/-- What stands in front of the literal where a text is looked for. -/
def TextMatch.before (m : TextMatch) (left : String) : String :=
  if m = .containsAnyCase then "UPPER(" ++ left ++ "::text) LIKE UPPER(" else left ++ "::text LIKE "

/-- What stands behind it. -/
def TextMatch.behind (m : TextMatch) : String := if m = .containsAnyCase then ")" else ""

namespace Lookup

variable {e : Entity} {l : Lookup} {row : Row} {field t text : String}

theorem comparison_text {key left : String} :
    comparison e key left (.text m) (.value (.text t)) =
      (do pure (m.before left ++ (← Sql.quoteLiteral (TextMatch.pattern m t)) ++ m.behind)) := by
  show (Sql.quoteLiteral (TextMatch.pattern m t) >>= _) = _
  refine bind_congr fun literal => ?_
  cases m with
  | containsAnyCase => simp [TextMatch.before, TextMatch.behind, String.append_assoc]
  | contains | startsWith | endsWith => simp [TextMatch.before, TextMatch.behind, String.append_assoc]

/-- A lookup is written if its field has a column and the comparison with the operand is written. -/
theorem sql_eq_ok_iff {kind : LookupKind} (hkey : decode l.key = .ok (row, field, kind)) :
    l.sql e = .ok text ↔ occurs ['_', '_'] field.toList = false ∧ ∃ column, e.column? field = some column ∧
      comparison e l.key (row.sql ++ "." ++ Sql.quoteName column) kind l.operand = .ok text := by
  unfold sql Row.column Entity.column
  rw [hkey]
  simp only [bind, Except.bind]
  cases occurs ['_', '_'] field.toList with
  | true => simp [throw, throwThe, MonadExceptOf.throw]
  | false => cases e.column? field <;> simp [throw, throwThe, MonadExceptOf.throw, pure, Except.pure]

/-- Only a null character keeps a pattern from being written. -/
theorem exists_literal_iff :
    (∃ literal, Sql.quoteLiteral (TextMatch.pattern m t) = .ok literal) ↔ '\x00' ∉ t.toList := by
  have hmem : '\x00' ∈ (TextMatch.pattern m t).toList ↔ '\x00' ∈ t.toList := by
    have hescaped : '\x00' ∈ escapedPattern t.toList ↔ '\x00' ∈ t.toList := mem_escapedPattern (by decide)
    cases m <;> simp [TextMatch.pattern, hescaped]
  rw [← hmem]
  rcases Sql.quoteLiteral_cases (TextMatch.pattern m t) with ⟨hnul, h⟩ | ⟨hnul, literal, h, -⟩
  · simp [h, hnul]
  · simp [h, hnul]

/-- What a lookup for a text is written as, if it is. -/
theorem sql_text_iff (hkey : decode l.key = .ok (row, field, .text m)) (hoperand : l.operand = .value (.text t)) :
    l.sql e = .ok text ↔ occurs ['_', '_'] field.toList = false ∧ ∃ column, e.column? field = some column ∧
      ∃ literal, Sql.quoteLiteral (TextMatch.pattern m t) = .ok literal ∧
        text = m.before (row.sql ++ "." ++ Sql.quoteName column) ++ literal ++ m.behind := by
  rw [sql_eq_ok_iff hkey, hoperand]
  refine and_congr_right fun _ => exists_congr fun column => and_congr_right fun _ => ?_
  rw [comparison_text]
  constructor
  · intro h
    obtain ⟨literal, hliteral, htext⟩ := exists_ok_of_bind h
    exact ⟨literal, hliteral, (Except.ok.inj htext).symm⟩
  · rintro ⟨literal, hliteral, rfl⟩
    rw [hliteral]
    rfl

/-- What a lookup for a text asks for is a match with the pattern. -/
theorem value_text (hkey : decode l.key = .ok (row, field, .text m)) (hoperand : l.operand = .value (.text t))
    {column : String} (hcolumn : e.column? field = some column) {c : Comparison} (hc : l.comparison? e = some c)
    {D : Type} (data : Data D) {rows : Rows D} (columns : List String) {d : D} (hd : rows row column = some d) :
    c.value data rows columns =
      .ofBool (if m = .containsAnyCase then data.likeAnyCase d (TextMatch.pattern m t)
        else data.like d (TextMatch.pattern m t)) := by
  unfold comparison? at hc
  rw [hkey, hoperand] at hc
  simp only [hcolumn, Option.bind_some, LookupKind.comparison?, Option.some.injEq] at hc
  subst hc
  split <;> simp [Comparison.value, Side.datum?, hd]

/-- A lookup for a text has a condition if its field has a column and the text no null character. The condition
is then a comparison of the column with a pattern, which stands in a literal that is read as it under either
setting; and for every database that reads patterns, it holds of the subjects that the text is found in, and of
no others. -/
theorem finds_iff (hkey : decode l.key = .ok (row, field, .text m)) (hoperand : l.operand = .value (.text t)) :
    ((∃ text, l.sql e = .ok text) ↔
      occurs ['_', '_'] field.toList = false ∧ (∃ column, e.column? field = some column) ∧ '\x00' ∉ t.toList) ∧
    ∀ text, l.sql e = .ok text → ∃ column literal c, e.column? field = some column ∧
      text = m.before (row.sql ++ "." ++ Sql.quoteName column) ++ literal ++ m.behind ∧
      (∀ conforming, Sql.constant? conforming (literal ++ m.behind).toList =
        some ((TextMatch.pattern m t).toList, m.behind.toList)) ∧
      read? Comparison.ofTrees? text.toList = some (.atom c) ∧
      ∀ (D : Type) (data : Data D) (upper : Char → Char) (textOf : D → List Char), KeepsWildcards upper →
        data.ReadsPatterns upper textOf → ∀ (rows : Rows D) (columns : List String) (d : D),
          rows row column = some d →
            (c.value data rows columns = .yes ↔ m.Finds (m.seen upper t.toList) (m.seen upper (textOf d))) ∧
            (c.value data rows columns = .no ↔ ¬m.Finds (m.seen upper t.toList) (m.seen upper (textOf d))) := by
  constructor
  · rw [← exists_literal_iff (m := m)]
    simp only [sql_text_iff hkey hoperand]
    constructor
    · rintro ⟨_, hfield, column, hcolumn, literal, hliteral, -⟩
      exact ⟨hfield, ⟨column, hcolumn⟩, literal, hliteral⟩
    · rintro ⟨hfield, ⟨column, hcolumn⟩, literal, hliteral⟩
      exact ⟨_, hfield, column, hcolumn, literal, hliteral, rfl⟩
  · intro text h
    obtain ⟨-, column, hcolumn, literal, hliteral, htext⟩ := (sql_text_iff hkey hoperand).1 h
    obtain ⟨us, c, hc, hus⟩ := Lookup.reads h
    have hread : read? Comparison.ofTrees? text.toList = some (.atom c) :=
      read?_eq_some_iff.2 ⟨_, .atom hus.balanced hus.whole hus.comparison, rfl⟩
    -- a parenthesis or nothing stands behind the literal, so no quote takes it up again
    have hbehind : Sql.isQuoteNext m.behind.toList = false := by cases m <;> decide
    refine ⟨column, literal, c, hcolumn, htext, fun conforming => ?_, hread,
      fun D data upper textOf hupper hdata rows columns d hd => ?_⟩
    · rw [String.toList_append]
      exact Sql.constant?_quoteLiteral hliteral hbehind conforming
    rw [value_text hkey hoperand hcolumn hc data columns hd, ← patterns_agree hupper hdata]
    generalize (if m = .containsAnyCase then data.likeAnyCase d (TextMatch.pattern m t)
      else data.like d (TextMatch.pattern m t)) = found
    cases found <;> decide

end Lookup

/-! ## A database of strings -/

/-- Strings, compared as they are. -/
def Data.strings (upper : Char → Char) : Data String where
  bool := toString
  number := id
  text := id
  compare _ a b := a = b
  like d pattern := Sql.like? pattern.toList d.toList = some true
  likeAnyCase d pattern := Sql.like? (pattern.toList.map upper) (d.toList.map upper) = some true

theorem Data.strings_readsPatterns (upper : Char → Char) :
    (Data.strings upper).ReadsPatterns upper String.toList where
  like _ _ := decide_eq_true_iff
  likeAnyCase _ _ := decide_eq_true_iff

theorem KeepsWildcards.toUpper : KeepsWildcards Char.toUpper where
  fixes := by decide
  only c hc hmem := by
    have hall : ∀ n < 128, Char.ofNat n ∉ Sql.wildcards → (Char.ofNat n).toUpper ∉ Sql.wildcards := by
      decide +kernel
    by_cases hascii : c.toNat < 128
    · exact forall_ascii (P := fun c => c ∉ Sql.wildcards → c.toUpper ∉ Sql.wildcards) hall c hascii hc hmem
    · have hsame : c.toUpper = c := by
        unfold Char.toUpper
        refine dif_neg fun h => hascii ?_
        have hlast : c.toNat ≤ 'z'.toNat := UInt32.le_iff_toNat_le.1 h.2
        exact hlast.trans_lt (by decide)
      exact hc (hsame ▸ hmem)

/-- Invoices with a title. -/
def Entity.invoices : Entity := { label := "Invoice", table := "invoice", fields := [{ name := "title" }] }

/-- A percent sign, an underscore, a backslash and a quote are looked for as they are. -/
theorem Lookup.finds_iff_wildcards :
    let l : Lookup := ⟨"new__title__icontains", .value (.text "5%_\\'x")⟩
    ∃ text c, l.sql .invoices = .ok text ∧ read? Comparison.ofTrees? text.toList = some (.atom c) ∧
      c.value (.strings Char.toUpper) (fun _ _ => some "at 5%_\\'X off") [] = .yes ∧
      c.value (.strings Char.toUpper) (fun _ _ => some "at 50 _\\'x off") [] = .no := by
  intro l
  have hkey : decode l.key = .ok (.new, "title", .text .containsAnyCase) := by decide +kernel
  obtain ⟨hsome, hall⟩ := finds_iff (e := .invoices) hkey rfl
  obtain ⟨text, htext⟩ := hsome.2 ⟨by decide, ⟨"title", by decide +kernel⟩, by decide⟩
  obtain ⟨column, -, c, -, -, -, hread, hvalue⟩ := hall text htext
  have hstrings := hvalue String (.strings Char.toUpper) Char.toUpper String.toList .toUpper
    (Data.strings_readsPatterns _)
  exact ⟨text, c, htext, hread, (hstrings (fun _ _ => some _) [] _ rfl).1.2 (by decide +kernel),
    (hstrings (fun _ _ => some _) [] _ rfl).2.2 (by decide +kernel)⟩

end DeclaredTriggers
