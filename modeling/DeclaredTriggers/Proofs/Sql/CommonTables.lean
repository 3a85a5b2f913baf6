import DeclaredTriggers.Proofs.Sql.Spelling

/-!
# Statements behind common tables

A statement may begin with common tables, `WITH name (columns) AS (body), …`, and then does what the statement
behind them does. Its kind is told by the word that stands behind the last parenthesis to bring the depth to
zero. That is where the tables end, as long as the statement behind them has no parentheses of its own: the
scanner remembers the last group of the whole text (`afterLastGroup_text`), and goes on to theirs.

> `WithStatement.ofStatement_eq_iff`: a statement behind common tables is of its own kind, exactly if it has no
> parentheses outside its strings, or the word behind the last of them tells the same kind.
-/

namespace DeclaredTriggers.Sql

open Text (isBlank trimStart)

/-! ## Texts whose parentheses match -/

/-- A text whose parentheses match, outside of its strings. -/
inductive Matched where
  | nil
  | char (c : Char) (h : c ∉ ['(', ')', '\'']) (rest : Matched)
  | string (s : List Char) (h : '\'' ∉ s) (rest : Matched)
  | group (inside rest : Matched)

namespace Matched

def text : Matched → List Char
  | nil => []
  | char c _ rest => c :: rest.text
  | string s _ rest => '\'' :: (s ++ '\'' :: rest.text)
  | group inside rest => '(' :: (inside.text ++ ')' :: rest.text)

/-- What stands behind the last group, if there is one. -/
def behind? : Matched → Option Matched
  | nil => none
  | char _ _ rest | string _ _ rest => rest.behind?
  | group _ rest => some (rest.behind?.getD rest)

/-- A text without parentheses and quotes, and another one behind it. -/
def plain : (s : List Char) → (∀ c ∈ s, c ∉ ['(', ')', '\'']) → Matched → Matched
  | [], _, rest => rest
  | c :: s, h, rest => char c (h c List.mem_cons_self) (plain s (fun d hd => h d (List.mem_cons_of_mem c hd)) rest)

end Matched

namespace StatementKind

variable {depth : Int} {r : List Char}

theorem afterLastGroup_char {c : Char} (h : c ∉ ['(', ')', '\'']) (s : List Char) :
    afterLastGroup depth false r (c :: s) = afterLastGroup depth false r s := by
  simp only [List.mem_cons, List.not_mem_nil, or_false, not_or] at h
  simp [afterLastGroup, h]

theorem afterLastGroup_plain {t : List Char} (h : ∀ c ∈ t, c ∉ ['(', ')', '\'']) (s : List Char) :
    afterLastGroup depth false r (t ++ s) = afterLastGroup depth false r s := by
  induction t with
  | nil => rfl
  | cons c t ih =>
    exact (afterLastGroup_char (h c List.mem_cons_self) _).trans (ih fun d hd => h d (List.mem_cons_of_mem c hd))

theorem afterLastGroup_string {t : List Char} (h : '\'' ∉ t) (s : List Char) :
    afterLastGroup depth false r ('\'' :: (t ++ '\'' :: s)) = afterLastGroup depth false r s := by
  have hinside : afterLastGroup depth true r (t ++ '\'' :: s) = afterLastGroup depth false r s := by
    induction t with
    | nil => rfl
    | cons c t ih =>
      have hc : c ≠ '\'' := fun hc => h (hc ▸ List.mem_cons_self)
      rw [List.cons_append, afterLastGroup, if_neg hc, if_pos rfl]
      exact ih fun ht => h (List.mem_cons_of_mem c ht)
  exact hinside

/-- Inside a group, whatever matches is passed over. -/
theorem afterLastGroup_inside (m : Matched) (hdepth : 0 < depth) (s : List Char) :
    afterLastGroup depth false r (m.text ++ s) = afterLastGroup depth false r s := by
  induction m generalizing depth s with
  | nil => rfl
  | char c hc rest ih => exact (afterLastGroup_char hc _).trans (ih hdepth s)
  | string t ht rest ih =>
    rw [Matched.text, List.cons_append, List.append_assoc, List.cons_append, afterLastGroup_string ht]
    exact ih hdepth s
  | group inside rest ihinside ihrest =>
    rw [Matched.text, List.cons_append, List.append_assoc, List.cons_append]
    show afterLastGroup (depth + 1) false r _ = _
    rw [ihinside (by omega)]
    -- the parenthesis that closes the group leads back to a depth above zero, so nothing is remembered
    show afterLastGroup (depth + 1 - 1) false (if depth + 1 - 1 = 0 then _ else r) _ = _
    rw [if_neg (by omega), Int.add_sub_cancel]
    exact ihrest hdepth s

/-- A group that is not inside another one is the last so far. -/
theorem afterLastGroup_group (inside : Matched) (s : List Char) :
    afterLastGroup 0 false r ('(' :: (inside.text ++ ')' :: s)) = afterLastGroup 0 false s s := by
  show afterLastGroup 1 false r (inside.text ++ ')' :: s) = _
  rw [afterLastGroup_inside inside (by decide)]
  rfl

/-- Outside of all groups, what stands behind the last one is remembered. -/
theorem afterLastGroup_text (m : Matched) (s : List Char) :
    afterLastGroup 0 false r (m.text ++ s) =
      afterLastGroup 0 false ((m.behind?.map (·.text ++ s)).getD r) s := by
  induction m generalizing r with
  | nil => rfl
  | char c hc rest ih => exact (afterLastGroup_char hc _).trans ih
  | string t ht rest ih =>
    rw [Matched.text, List.cons_append, List.append_assoc, List.cons_append, afterLastGroup_string ht]
    exact ih
  | group inside rest _ ih =>
    rw [Matched.text, List.cons_append, List.append_assoc, List.cons_append, afterLastGroup_group, ih]
    cases h : rest.behind? with
    | none => simp [Matched.behind?, h]
    | some last => simp [Matched.behind?, h]

end StatementKind

/-! ## Statements with common tables -/

/-- A common table: its name, its columns if they are named, and its body. -/
structure CommonTable where
  /-- The name, with what is around it. -/
  name : Matched
  columns : Option Matched
  /-- The word `AS`, with what is around it. -/
  as : Matched
  body : Matched

namespace CommonTable

/-- The columns between parentheses. -/
def columnList (t : CommonTable) : List Char := t.columns.elim [] fun columns => '(' :: (columns.text ++ [')'])

def text (t : CommonTable) : List Char :=
  t.name.text ++ (t.columnList ++ (t.as.text ++ '(' :: (t.body.text ++ [')'])))

end CommonTable

namespace StatementKind

/-- The words a statement behind common tables may begin with. -/
def verbs : List (String × StatementKind) :=
  [("SELECT", .select), ("INSERT", .insert), ("UPDATE", .update), ("DELETE", .delete)]

/-- The kind that is told by a text behind groups. -/
def ofTail (s : List Char) : StatementKind :=
  match ofKeyword? (trimStart s) with
  | some .insert => .insert
  | some .update => .update
  | some .delete => .delete
  | _ => .select

/-- The scanner is behind a table's body when it is behind the table. -/
theorem afterLastGroup_table (t : CommonTable) (r s : List Char) :
    afterLastGroup 0 false r (t.text ++ s) = afterLastGroup 0 false s s := by
  have hcolumns : ∀ r s, ∃ r', afterLastGroup 0 false r (t.columnList ++ s) = afterLastGroup 0 false r' s := by
    intro r s
    unfold CommonTable.columnList
    cases t.columns with
    | none => exact ⟨r, rfl⟩
    | some columns => exact ⟨s, by simpa using afterLastGroup_group columns s⟩
  obtain ⟨r', hr'⟩ := hcolumns ((t.name.behind?.map (·.text ++ _)).getD r)
    (t.as.text ++ ('(' :: (t.body.text ++ ')' :: s)))
  simp only [CommonTable.text, List.append_assoc, List.cons_append, List.nil_append]
  rw [afterLastGroup_text, hr', afterLastGroup_text, afterLastGroup_group]

end StatementKind

/-- A statement with common tables in front of it. -/
structure WithStatement where
  /-- The word `WITH`, in any letter case. -/
  keyword : List Char
  isWith : lower keyword = lower "WITH".toList
  /-- What stands between it and the first table, with `RECURSIVE` in it or not. -/
  opening : Matched
  isOpened : opening.text.head?.any (!isWordCharacter ·)
  first : CommonTable
  /-- The other tables, each with the comma in front of it and what is around that. -/
  others : List (Matched × CommonTable)
  blanks : List Char
  areBlanks : ∀ c ∈ blanks, isBlank c
  main : Matched
  /-- The word that the statement itself begins with. -/
  verb : String × StatementKind
  isVerb : verb ∈ StatementKind.verbs
  begins : startsWith verb.1 main.text

namespace WithStatement

variable (w : WithStatement)

def tables : List Char := w.first.text ++ w.others.flatMap fun (comma, t) => comma.text ++ t.text

def text : List Char := w.keyword ++ (w.opening.text ++ (w.tables ++ (w.blanks ++ w.main.text)))

theorem startsWith_with : startsWith "WITH" w.text := by
  refine startsWith_iff.2 ⟨w.keyword, _, rfl, w.isWith, fun c hc => ?_⟩
  obtain ⟨d, hhead, hd⟩ := (Option.any_eq_true _ _).1 w.isOpened
  rw [List.head?_append, hhead] at hc
  obtain rfl : d = c := by simpa using hc
  simpa using hd

/-- The statement itself is of the kind that its word tells. -/
theorem ofStatement_main : StatementKind.ofStatement w.main.text = w.verb.2 := by
  have hverbs : ∀ verb ∈ StatementKind.verbs, verb ∈ StatementKind.keywords := by decide
  exact StatementKind.ofStatement_of_startsWith (hverbs _ w.isVerb) w.begins

theorem afterLastGroup_tables (r s : List Char) :
    StatementKind.afterLastGroup 0 false r (w.tables ++ s) = StatementKind.afterLastGroup 0 false s s := by
  -- each table ends with a group, so it does not matter what was remembered in front of it
  have hothers : ∀ (others : List (Matched × CommonTable)) (s : List Char),
      StatementKind.afterLastGroup 0 false ((others.flatMap fun (comma, t) => comma.text ++ t.text) ++ s)
        ((others.flatMap fun (comma, t) => comma.text ++ t.text) ++ s) =
          StatementKind.afterLastGroup 0 false s s := by
    intro others s
    induction others with
    | nil => rfl
    | cons other others ih =>
      obtain ⟨comma, t⟩ := other
      simp only [List.flatMap_cons, List.append_assoc]
      rw [StatementKind.afterLastGroup_text, StatementKind.afterLastGroup_table, ih]
  rw [tables, List.append_assoc, StatementKind.afterLastGroup_table, hothers]

/-- Behind the tables there is the statement itself, or what stands behind its own last group. -/
theorem afterLastGroup_statement (r : List Char) :
    StatementKind.afterLastGroup 0 false r w.text =
      (w.main.behind?.map (·.text)).getD (w.blanks ++ w.main.text) := by
  have hkeyword : ∀ c ∈ w.keyword, c ∉ ['(', ')', '\''] := by
    intro c hc hspecial
    have hword := isWordCharacter_of_lower (by decide) w.isWith c hc
    have hall : ∀ c ∈ ['(', ')', '\''], isWordCharacter c = false := by decide
    rw [hall c hspecial] at hword
    cases hword
  have hblanks : ∀ c ∈ w.blanks, c ∉ ['(', ')', '\''] := by
    intro c hc hspecial
    have hall : ∀ c ∈ ['(', ')', '\''], isBlank c = false := by decide
    have hblank := w.areBlanks c hc
    rw [hall c hspecial] at hblank
    cases hblank
  have hmain := StatementKind.afterLastGroup_text (r := w.blanks ++ w.main.text) w.main []
  simp only [List.append_nil] at hmain
  rw [text, StatementKind.afterLastGroup_plain hkeyword, StatementKind.afterLastGroup_text,
    w.afterLastGroup_tables, StatementKind.afterLastGroup_plain hblanks, hmain]
  rfl

/-- Blanks in front of the statement itself do not matter. -/
theorem ofTail_main : StatementKind.ofTail (w.blanks ++ w.main.text) = w.verb.2 := by
  have hverbs : ∀ verb ∈ StatementKind.verbs, verb ∈ StatementKind.keywords := by decide
  have hwords : ∀ verb ∈ StatementKind.verbs, isWord verb.1 ∧ verb.1 ≠ "" := by decide
  have htrim : trimStart (w.blanks ++ w.main.text) = w.main.text := by
    obtain ⟨hword, hne⟩ := hwords _ w.isVerb
    obtain ⟨c, s, hmain, hc⟩ := exists_cons_of_startsWith w.begins hword hne
    rw [hmain]
    exact trimStart_blanks w.areBlanks (word_character hc).1 s
  unfold StatementKind.ofTail
  rw [htrim, StatementKind.ofKeyword?_of_startsWith (hverbs _ w.isVerb) w.begins]
  have hall : ∀ verb ∈ StatementKind.verbs, (match some verb.2 with
    | some .insert => .insert
    | some .update => .update
    | some .delete => .delete
    | _ => .select : StatementKind) = verb.2 := by decide
  exact hall _ w.isVerb

/-- A statement with common tables in front of it is of its own kind, exactly if it has no parentheses outside
its strings, or if what stands behind the last of them tells the same kind. -/
theorem ofStatement_eq_iff :
    StatementKind.ofStatement w.text = StatementKind.ofStatement w.main.text ↔
      ∀ last, w.main.behind? = some last →
        StatementKind.ofTail last.text = StatementKind.ofStatement w.main.text := by
  have htext : StatementKind.ofStatement w.text =
      StatementKind.ofTail ((w.main.behind?.map (·.text)).getD (w.blanks ++ w.main.text)) := by
    rw [StatementKind.ofStatement_of_with w.startsWith_with, ← w.afterLastGroup_statement w.text]
    rfl
  rw [htext]
  cases w.main.behind? with
  | none => simp [w.ofTail_main, w.ofStatement_main]
  | some last => simp

/-- Two tables, one with a column, and parentheses of all sorts in them; the statement itself has none but in a
string. -/
def pruning : WithStatement where
  keyword := "with".toList
  isWith := by decide
  opening := .plain " RECURSIVE ".toList (by decide) .nil
  isOpened := by decide
  first :=
    { name := .plain "a ".toList (by decide) .nil
      columns := some (.plain "n".toList (by decide) .nil)
      as := .plain " AS ".toList (by decide) .nil
      body := .plain "SELECT f".toList (by decide) (.group (.plain "1".toList (by decide) .nil)
        (.plain " || ".toList (by decide) (.string ")".toList (by decide) .nil))) }
  others := [(.plain ", ".toList (by decide) .nil,
    { name := .plain "b ".toList (by decide) .nil
      columns := none
      as := .plain "AS ".toList (by decide) .nil
      body := .plain "VALUES ".toList (by decide) (.group (.plain "1".toList (by decide) .nil) .nil) })]
  blanks := "\n".toList
  areBlanks := by decide
  main := .plain "delete FROM book WHERE name = ".toList (by decide) (.string "(".toList (by decide) .nil)
  verb := ("DELETE", .delete)
  isVerb := by decide
  begins := by decide

theorem ofStatement_eq_pruning :
    pruning.text = ("with RECURSIVE a (n) AS (SELECT f(1) || ')'), b AS (VALUES (1))\n" ++
      "delete FROM book WHERE name = '('").toList ∧
      StatementKind.ofStatement pruning.text = .delete :=
  ⟨by decide, (pruning.ofStatement_eq_iff.2 nofun).trans (by decide)⟩

/-- Behind the statement's own parentheses no word tells that it deletes. -/
theorem ofStatement_ne_parentheses :
    StatementKind.ofStatement "WITH x AS (SELECT 1) DELETE FROM t WHERE id IN (1)".toList = .select ∧
      StatementKind.ofStatement "DELETE FROM t WHERE id IN (1)".toList = .delete := by
  decide

end WithStatement

end DeclaredTriggers.Sql
