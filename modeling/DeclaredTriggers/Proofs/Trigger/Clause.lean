import DeclaredTriggers.Proofs.Sql.Expression.Lexeme
import DeclaredTriggers.Proofs.Sql.Grammar
import DeclaredTriggers.Proofs.Sql.Tokens
import DeclaredTriggers.Proofs.Trigger.Building

/-!
# Clauses of events

What a trigger fires on is a clause of the statement that creates it: events with `OR` between them, each an
insert, a delete, a truncation, an update, or an update of listed columns. The clause has no parentheses, so the
text of a combination is a clause only if the text of each member is one, and it is read as the members' events
one after another:

> `EventClause.saysAll_append_iff`: lexemes with an `OR` among them are a clause exactly if they are one on both
> sides of it.
>
> `Operation.isClause_iff`: the text of an operation is a clause exactly if no list in the operation is empty and
> every column can be named; then it says the events of the whole tree in their order.

A builder looks at the outermost list only, so it lets through operations whose text is no clause
(`Operation.no_clause`). That the server refuses a clause that has one event twice is no matter of its form.
-/

namespace DeclaredTriggers

open Sql.Expression (Lexeme Spells isDelimiter)

/-! ## The grammar -/

/-- What a trigger can fire on, as the database has it. -/
inductive TriggerEvent where
  | insert
  | update
  | delete
  | truncate
  /-- An update of one of these columns. -/
  | updateOf (columns : List String)

/-- The word that an event is, if it is one. -/
def TriggerEvent.word? : TriggerEvent → Option String
  | .insert => some "INSERT"
  | .update => some "UPDATE"
  | .delete => some "DELETE"
  | .truncate => some "TRUNCATE"
  | .updateOf _ => none

namespace EventClause

/-- Lexemes that list columns: names between double quotes, with a comma between each two. -/
inductive Lists : List Lexeme → List String → Prop where
  | last {name : String} : (Sql.Part.quoted name).IsNamed → Lists [.name name.toList] [name]
  | more {name : String} {ts : List Lexeme} {names : List String} : (Sql.Part.quoted name).IsNamed →
      Lists ts names → Lists (.name name.toList :: .mark ',' :: ts) (name :: names)

/-- Lexemes that are one event. -/
inductive Says : List Lexeme → TriggerEvent → Prop where
  | word {t : Lexeme} {w : String} {ev : TriggerEvent} : ev.word? = some w → t.isKeyword w → Says [t] ev
  | updateOf {t o : Lexeme} {ts : List Lexeme} {names : List String} : t.isKeyword "UPDATE" →
      o.isKeyword "OF" → Lists ts names → Says (t :: o :: ts) (.updateOf names)

/-- Lexemes that are events with an `OR` between each two. -/
inductive SaysAll : List Lexeme → List TriggerEvent → Prop where
  | one {ts : List Lexeme} {ev : TriggerEvent} : Says ts ev → SaysAll ts [ev]
  | or {ts us : List Lexeme} {ev : TriggerEvent} {evs : List TriggerEvent} {o : Lexeme} : Says ts ev →
      o.isKeyword "OR" → SaysAll us evs → SaysAll (ts ++ o :: us) (ev :: evs)

end EventClause

/-- A text that is a clause of these events. -/
def IsEventClause (s : List Char) (evs : List TriggerEvent) : Prop :=
  ∃ ts, Spells s ts ∧ EventClause.SaysAll ts evs

/-! ## Clauses and their parts -/

theorem eq_of_isKeyword {t : Lexeme} {v w : String} (hv : t.isKeyword v) (hw : t.isKeyword w) : v = w := by
  cases t with
  | word text =>
    simp only [Lexeme.isKeyword, decide_eq_true_eq] at hv hw
    exact String.toList_injective (hv.symm.trans hw)
  | name _ | literal _ | number _ | operator _ | mark _ => cases hv

theorem isKeyword_eq_false {t : Lexeme} {v w : String} (hv : t.isKeyword v) (hne : v ≠ w) :
    t.isKeyword w = false := by
  rw [Bool.eq_false_iff]
  exact fun hw => hne (eq_of_isKeyword hv hw)

theorem TriggerEvent.eq_of_word? {ev ev' : TriggerEvent} {w : String} (h : ev.word? = some w)
    (h' : ev'.word? = some w) : ev = ev' := by
  cases ev <;> cases ev' <;> first | rfl | (cases h <;> simp [TriggerEvent.word?] at h')

namespace EventClause

variable {a b ts : List Lexeme} {o : Lexeme} {ev : TriggerEvent} {evs : List TriggerEvent}

theorem Lists.not_or {names : List String} (h : Lists ts names) : ∀ t ∈ ts, t.isKeyword "OR" = false := by
  induction h with
  | last _ =>
    intro t ht
    obtain rfl := List.mem_singleton.1 ht
    rfl
  | more _ _ ih =>
    intro t ht
    rcases List.mem_cons.1 ht with rfl | ht
    · rfl
    rcases List.mem_cons.1 ht with rfl | ht
    · rfl
    · exact ih t ht

/-- No event has an `OR` in it. -/
theorem Says.not_or (h : Says ts ev) : ∀ t ∈ ts, t.isKeyword "OR" = false := by
  cases h with
  | word hword ht =>
    intro t hmem
    obtain rfl := List.mem_singleton.1 hmem
    refine isKeyword_eq_false ht ?_
    rintro rfl
    cases ev <;> simp [TriggerEvent.word?] at hword
  | updateOf ht ho hlists =>
    intro t hmem
    rcases List.mem_cons.1 hmem with rfl | hmem
    · exact isKeyword_eq_false ht (by decide)
    rcases List.mem_cons.1 hmem with rfl | hmem
    · exact isKeyword_eq_false ho (by decide)
    · exact hlists.not_or t hmem

theorem SaysAll.ne_nil (h : SaysAll ts evs) : ts ≠ [] := by
  cases h with
  | one hone => cases hone <;> exact List.cons_ne_nil _ _
  | or _ _ _ => simp

/-- Without an `OR` there is one event. -/
theorem saysAll_iff_of_not_or (h : ∀ t ∈ ts, t.isKeyword "OR" = false) :
    SaysAll ts evs ↔ ∃ ev, evs = [ev] ∧ Says ts ev := by
  constructor
  · intro hall
    cases hall with
    | one hone => exact ⟨_, rfl, hone⟩
    | or _ ho _ => exact absurd ho (by rw [h _ (by simp)]; simp)
  · rintro ⟨ev, rfl, hone⟩
    exact .one hone

/-- Lexemes with an `OR` among them are a clause exactly if they are one on both sides of it. -/
theorem saysAll_append_iff (ho : o.isKeyword "OR") :
    SaysAll (a ++ o :: b) evs ↔ ∃ es fs, evs = es ++ fs ∧ SaysAll a es ∧ SaysAll b fs := by
  constructor
  · intro h
    generalize hts : a ++ o :: b = ts at h
    induction h generalizing a with
    | one hone => exact absurd ho (by rw [hone.not_or o (by simp [← hts])]; simp)
    | @or us vs ev evs p hone hp hrest ih =>
      rcases List.append_eq_append_iff.1 hts with ⟨between, rfl, hbetween⟩ | ⟨between, rfl, hbetween⟩
      · -- the first `OR` is not in front of the one that is looked at
        cases between with
        | nil =>
          obtain ⟨rfl, rfl⟩ := List.cons.inj hbetween
          exact ⟨[ev], evs, rfl, .one (by simpa using hone), hrest⟩
        | cons q between =>
          obtain ⟨rfl, -⟩ := List.cons.inj hbetween
          exact absurd ho (by rw [hone.not_or o (by simp)]; simp)
      · cases between with
        | nil =>
          obtain ⟨rfl, rfl⟩ := List.cons.inj hbetween
          exact ⟨[ev], evs, rfl, .one (by simpa using hone), hrest⟩
        | cons q between =>
          obtain ⟨rfl, hvs⟩ := List.cons.inj hbetween
          obtain ⟨es, fs, rfl, hes, hfs⟩ := ih hvs.symm
          exact ⟨ev :: es, fs, rfl, .or hone hp hes, hfs⟩
  · rintro ⟨es, fs, rfl, hes, hfs⟩
    induction hes with
    | one hone => exact .or hone ho hfs
    | or hone hp _ ih =>
      rw [List.append_assoc, List.cons_append]
      exact .or hone hp ih

/-- A word that is an event says that event and nothing else. -/
theorem saysAll_word_iff {w : String} (hev : ev.word? = some w) (hw : (Lexeme.word w.toList).isKeyword w) :
    SaysAll [.word w.toList] evs ↔ evs = [ev] := by
  have hsays : Says [.word w.toList] ev := .word hev hw
  rw [saysAll_iff_of_not_or hsays.not_or]
  constructor
  · rintro ⟨ev', rfl, hone⟩
    cases hone with
    | word hev' ht => rw [TriggerEvent.eq_of_word? hev (eq_of_isKeyword hw ht ▸ hev')]
  · rintro rfl
    exact ⟨ev, rfl, hsays⟩

/-- Names with commas between them list columns if there is a name and each of them can be one. -/
theorem lists_iff {names names' : List String} :
    Lists ([Lexeme.mark ','].intercalate (names.map fun name => [.name name.toList])) names' ↔
      names ≠ [] ∧ (∀ name ∈ names, (Sql.Part.quoted name).IsNamed) ∧ names' = names := by
  induction names generalizing names' with
  | nil => exact ⟨fun h => (nomatch h), fun h => absurd rfl h.1⟩
  | cons name names ih =>
    cases names with
    | nil =>
      constructor
      · intro h
        generalize hts : [Lexeme.mark ','].intercalate ([name].map fun name => [.name name.toList]) = ts at h
        cases h with
        | last hname =>
          obtain rfl := String.toList_injective (Lexeme.name.inj (List.cons.inj hts).1)
          exact ⟨List.cons_ne_nil _ _, by simpa using hname, rfl⟩
        | more _ _ => cases (List.cons.inj hts).2
      · rintro ⟨-, hnames, rfl⟩
        exact .last (hnames name List.mem_cons_self)
    | cons next names =>
      have hcons : [Lexeme.mark ','].intercalate ((name :: next :: names).map fun name => [.name name.toList]) =
          .name name.toList :: .mark ',' ::
            [Lexeme.mark ','].intercalate ((next :: names).map fun name => [.name name.toList]) := rfl
      rw [hcons]
      constructor
      · intro h
        generalize hts : Lexeme.name name.toList :: Lexeme.mark ',' :: _ = ts at h
        cases h with
        | last _ => cases (List.cons.inj hts).2
        | more hname hrest =>
          obtain ⟨hhead, htail⟩ := List.cons.inj hts
          obtain rfl := String.toList_injective (Lexeme.name.inj hhead)
          obtain ⟨-, hnames, rfl⟩ := ih.1 ((List.cons.inj htail).2 ▸ hrest)
          exact ⟨List.cons_ne_nil _ _, List.forall_mem_cons.2 ⟨hname, hnames⟩, rfl⟩
      · rintro ⟨-, hnames, rfl⟩
        obtain ⟨hname, hrest⟩ := List.forall_mem_cons.1 hnames
        exact .more hname (ih.2 ⟨List.cons_ne_nil _ _, hrest, rfl⟩)

theorem not_or_names (names : List String) :
    ∀ t ∈ [Lexeme.mark ','].intercalate (names.map fun name => [Lexeme.name name.toList]),
      t.isKeyword "OR" = false := by
  induction names with
  | nil => simp
  | cons name names ih =>
    cases names with
    | nil => simp [Lexeme.isKeyword]
    | cons next names =>
      rw [List.map_cons, List.map_cons, List.intercalate_cons_cons]
      exact List.forall_mem_cons.2 ⟨rfl, List.forall_mem_cons.2 ⟨rfl, ih⟩⟩

/-- `UPDATE OF` in front of names with commas between them says an update of these columns. -/
theorem saysAll_updateOf_iff {names : List String} :
    SaysAll (.word "UPDATE".toList :: .word "OF".toList ::
        [Lexeme.mark ','].intercalate (names.map fun name => [.name name.toList])) evs ↔
      names ≠ [] ∧ (∀ name ∈ names, (Sql.Part.quoted name).IsNamed) ∧ evs = [.updateOf names] := by
  have hnames := not_or_names names
  rw [saysAll_iff_of_not_or (List.forall_mem_cons.2 ⟨rfl, List.forall_mem_cons.2 ⟨rfl, hnames⟩⟩)]
  constructor
  · rintro ⟨ev, rfl, hone⟩
    cases hone with
    | updateOf _ _ hlists =>
      obtain ⟨hne, hnamed, rfl⟩ := lists_iff.1 hlists
      exact ⟨hne, hnamed, rfl⟩
  · rintro ⟨hne, hnamed, rfl⟩
    exact ⟨_, rfl, .updateOf rfl rfl (lists_iff.2 ⟨hne, hnamed, rfl⟩)⟩

end EventClause

/-! ## Operations -/

/-- The column that a name in an operation stands for. -/
def Entity.columnOrName (e : Entity) (name : String) : String := (e.column? name).getD name

/-- A name stands for a column of the entity, or for itself. -/
theorem Entity.not_mem_columnOrName {e : Entity} {d : Char} (hkey : d ∉ e.primaryKey.toList)
    (hfields : ∀ f ∈ e.fields, d ∉ f.column.toList) {name : String} (hname : d ∉ name.toList) :
    d ∉ (e.columnOrName name).toList := by
  unfold columnOrName column?
  split
  next => exact hkey
  next =>
    cases hfield : e.field? name with
    | none => exact hname
    | some f => exact hfields f (name_or_column_of_field? hfield).1

namespace Operation

mutual

/-- Whether no list in the operation is empty. -/
def Full : Operation → Prop
  | .insert | .update | .delete | .truncate => True
  | .updateOf cs => cs ≠ []
  | .anyOf ops => ops ≠ [] ∧ FullEach ops

/-- Whether no list in several operations is empty. -/
def FullEach : List Operation → Prop
  | [] => True
  | op :: ops => Full op ∧ FullEach ops

end

mutual

/-- The events of an operation from left to right, each name `c` standing for `column c`. -/
def events (column : String → String) : Operation → List TriggerEvent
  | .insert => [.insert]
  | .update => [.update]
  | .delete => [.delete]
  | .truncate => [.truncate]
  | .updateOf cs => [.updateOf (cs.map column)]
  | .anyOf ops => eventsEach column ops

/-- The events of several operations. -/
def eventsEach (column : String → String) : List Operation → List TriggerEvent
  | [] => []
  | op :: ops => events column op ++ eventsEach column ops

end

mutual

/-- The lexemes of an operation's text. -/
def lexemes (column : String → String) : Operation → List Lexeme
  | .insert => [.word "INSERT".toList]
  | .update => [.word "UPDATE".toList]
  | .delete => [.word "DELETE".toList]
  | .truncate => [.word "TRUNCATE".toList]
  | .updateOf cs => .word "UPDATE".toList :: .word "OF".toList ::
      [Lexeme.mark ','].intercalate ((cs.map column).map fun name => [.name name.toList])
  | .anyOf ops => [Lexeme.word "OR".toList].intercalate (lexemesEach column ops)

/-- The lexemes of each of several operations. -/
def lexemesEach (column : String → String) : List Operation → List (List Lexeme)
  | [] => []
  | op :: ops => lexemes column op :: lexemesEach column ops

end

/-! ### Which operations are clauses -/

mutual

/-- An operation's lexemes are a clause exactly if none of its lists is empty and its columns can be named, and
then they say its events. -/
theorem saysAll_lexemes_iff (column : String → String) : ∀ (op : Operation) {evs : List TriggerEvent},
    EventClause.SaysAll (op.lexemes column) evs ↔
      op.Full ∧ (∀ c ∈ op.columns, (Sql.Part.quoted (column c)).IsNamed) ∧ evs = op.events column
  | .insert, _ => by
    rw [lexemes, EventClause.saysAll_word_iff (show TriggerEvent.insert.word? = some "INSERT" from rfl) rfl]
    simp [Full, columns, events]
  | .update, _ => by
    rw [lexemes, EventClause.saysAll_word_iff (show TriggerEvent.update.word? = some "UPDATE" from rfl) rfl]
    simp [Full, columns, events]
  | .delete, _ => by
    rw [lexemes, EventClause.saysAll_word_iff (show TriggerEvent.delete.word? = some "DELETE" from rfl) rfl]
    simp [Full, columns, events]
  | .truncate, _ => by
    rw [lexemes, EventClause.saysAll_word_iff (show TriggerEvent.truncate.word? = some "TRUNCATE" from rfl) rfl]
    simp [Full, columns, events]
  | .updateOf cs, evs => by
    rw [lexemes, EventClause.saysAll_updateOf_iff]
    simp [Full, columns, events]
  | .anyOf ops, _ => by
    rw [lexemes, saysAll_lexemesEach_iff column ops, Full, columns, events, and_assoc]

theorem saysAll_lexemesEach_iff (column : String → String) : ∀ (ops : List Operation) {evs : List TriggerEvent},
    EventClause.SaysAll ([Lexeme.word "OR".toList].intercalate (lexemesEach column ops)) evs ↔
      ops ≠ [] ∧ FullEach ops ∧ (∀ c ∈ columnsEach ops, (Sql.Part.quoted (column c)).IsNamed) ∧
        evs = eventsEach column ops
  | [], _ => ⟨fun h => absurd rfl h.ne_nil, fun h => absurd rfl h.1⟩
  | [op], _ => by
    have hone : [Lexeme.word "OR".toList].intercalate (lexemesEach column [op]) = op.lexemes column := by
      simp [lexemesEach, List.intercalate]
    rw [hone, saysAll_lexemes_iff column op]
    simp [FullEach, columnsEach, eventsEach]
  | op :: next :: ops, evs => by
    have hcons : [Lexeme.word "OR".toList].intercalate (lexemesEach column (op :: next :: ops)) =
        op.lexemes column ++ .word "OR".toList ::
          [Lexeme.word "OR".toList].intercalate (lexemesEach column (next :: ops)) := by
      simp [lexemesEach, List.intercalate]
    rw [hcons, EventClause.saysAll_append_iff rfl, FullEach, columnsEach, eventsEach, List.forall_mem_append]
    simp only [saysAll_lexemes_iff column op, saysAll_lexemesEach_iff column (next :: ops)]
    constructor
    · rintro ⟨_, _, rfl, ⟨hfull, hnamed, rfl⟩, -, hfulls, hnameds, rfl⟩
      exact ⟨List.cons_ne_nil _ _, ⟨hfull, hfulls⟩, ⟨hnamed, hnameds⟩, rfl⟩
    · rintro ⟨-, ⟨hfull, hfulls⟩, ⟨hnamed, hnameds⟩, rfl⟩
      exact ⟨_, _, rfl, ⟨hfull, hnamed, rfl⟩, List.cons_ne_nil _ _, hfulls, hnameds, rfl⟩

end

/-! ### Reading an operation's text -/

section

variable {a b : List Char} {ts us : List Lexeme}

theorem spells_comma (ha : Spells a ts) (hb : Spells b us) :
    Spells (a ++ (", ".toList ++ b)) (ts ++ .mark ',' :: us) :=
  ha.delimited (c := ',') (by decide) (.behind (p := ", ".toList) (q := [.mark ',']) rfl hb)

theorem spells_or (ha : Spells a ts) (hb : Spells b us) :
    Spells (a ++ (" OR ".toList ++ b)) (ts ++ .word "OR".toList :: us) :=
  ha.delimited (c := ' ') (by decide) (.behind (p := " OR ".toList) (q := [.word "OR".toList]) rfl hb)

end

theorem spells_columns {names : List String} (h : ∀ name ∈ names, '"' ∉ name.toList) :
    Spells (", ".intercalate (names.map Sql.quote)).toList
      ([Lexeme.mark ','].intercalate (names.map fun name => [.name name.toList])) := by
  induction names with
  | nil => exact .nil
  | cons name names ih =>
    obtain ⟨hname, hnames⟩ := List.forall_mem_cons.1 h
    have hone : Spells (Sql.quote name).toList [.name name.toList] := by
      rw [Sql.quote_of_plain hname]
      exact Sql.Expression.spells_quoteName name
    cases names with
    | nil => simpa [List.intercalate] using hone
    | cons next names =>
      rw [List.map_cons, List.map_cons, String.intercalate_cons_cons, String.toList_append, String.toList_append,
        List.append_assoc]
      exact spells_comma hone (ih hnames)

mutual

/-- An operation on columns without quotes is read as its lexemes. -/
theorem spells_text (column : String → String) : ∀ op : Operation,
    (∀ c ∈ op.columns, '"' ∉ (column c).toList) → Spells (op.text column).toList (op.lexemes column)
  | .insert, _ => by rw [text, lexemes]; exact ⟨by decide, by decide⟩
  | .update, _ => by rw [text, lexemes]; exact ⟨by decide, by decide⟩
  | .delete, _ => by rw [text, lexemes]; exact ⟨by decide, by decide⟩
  | .truncate, _ => by rw [text, lexemes]; exact ⟨by decide, by decide⟩
  | .updateOf cs, h => by
    have hnames := @spells_columns (cs.map column) (by simpa [columns] using h)
    rw [List.map_map] at hnames
    rw [text, lexemes, String.toList_append]
    exact .behind (p := "UPDATE OF ".toList) (q := [.word "UPDATE".toList, .word "OF".toList]) rfl hnames
  | .anyOf ops, h => by
    rw [text, lexemes]
    exact spells_texts column ops (by rwa [columns] at h)

theorem spells_texts (column : String → String) : ∀ ops : List Operation,
    (∀ c ∈ columnsEach ops, '"' ∉ (column c).toList) →
      Spells (" OR ".intercalate (texts column ops)).toList
        ([Lexeme.word "OR".toList].intercalate (lexemesEach column ops))
  | [], _ => by rw [texts, lexemesEach]; exact .nil
  | [op], h => by
    have hone := spells_text column op fun c hc => h c (by simp [columnsEach, hc])
    simpa [texts, lexemesEach, List.intercalate] using hone
  | op :: next :: ops, h => by
    rw [columnsEach, List.forall_mem_append] at h
    have hall := spells_or (spells_text column op h.1) (spells_texts column (next :: ops) h.2)
    simpa [texts, lexemesEach, List.intercalate] using hall

end

/-- The text of an operation on columns without quotes is a clause exactly if none of its lists is empty and its
columns can be named, and then it says its events. -/
theorem isEventClause_iff {column : String → String} {op : Operation}
    (h : ∀ c ∈ op.columns, '"' ∉ (column c).toList) {evs : List TriggerEvent} :
    IsEventClause (op.text column).toList evs ↔
      op.Full ∧ (∀ c ∈ op.columns, (Sql.Part.quoted (column c)).IsNamed) ∧ evs = op.events column := by
  have hspells := spells_text column op h
  rw [← saysAll_lexemes_iff]
  constructor
  · rintro ⟨ts, hts, hsays⟩
    rwa [← hspells.lexemes, hts.lexemes]
  · exact fun hsays => ⟨_, hspells, hsays⟩

/-! ### Operations that were accepted -/

/-- Whether some builder gives a trigger for the operation. -/
def Accepted (op : Operation) : Prop := ∃ (b : Builder) (t : Trigger), b.build = .ok t ∧ t.operation = op

theorem Accepted.members_ne_nil {op : Operation} (h : op.Accepted) : op.members ≠ [] := by
  obtain ⟨_, t, -, rfl⟩ := h
  have hne := t.wellFormed.operation
  cases hop : t.operation with
  | anyOf ops =>
    rintro rfl
    exact hne hop
  | insert | update | delete | truncate | updateOf _ => exact List.cons_ne_nil _ _

theorem texts_append (column : String → String) (as bs : List Operation) :
    texts column (as ++ bs) = texts column as ++ texts column bs := by
  induction as with
  | nil => rfl
  | cons a as ih => rw [List.cons_append, texts, texts, ih, List.cons_append]

theorem eventsEach_append (column : String → String) (as bs : List Operation) :
    eventsEach column (as ++ bs) = eventsEach column as ++ eventsEach column bs := by
  induction as with
  | nil => rfl
  | cons a as ih => rw [List.cons_append, eventsEach, eventsEach, ih, List.append_assoc]

/-- An operation's text is that of its members. -/
theorem text_members (column : String → String) (op : Operation) :
    op.text column = " OR ".intercalate (texts column op.members) := by
  cases op with
  | anyOf ops => rw [text]; rfl
  | insert | update | delete | truncate | updateOf _ => simp [members, texts]

theorem events_members (column : String → String) (op : Operation) :
    op.events column = eventsEach column op.members := by
  cases op with
  | anyOf ops => rw [events]; rfl
  | insert | update | delete | truncate | updateOf _ => simp [members, eventsEach]

theorem texts_ne_nil (column : String → String) {ops : List Operation} (h : ops ≠ []) :
    texts column ops ≠ [] := by
  obtain ⟨op, ops, rfl⟩ := List.exists_cons_of_ne_nil h
  rw [texts]
  exact List.cons_ne_nil _ _

theorem exists_protect (op : Operation) (h : op ≠ .anyOf []) :
    ∃ t, (Builder.protect "book_frozen" op).build = .ok t ∧ t.operation = op := by
  have hnamed : Definition.nameFault? "book_frozen" = none := by decide
  have hwhole : (Definition.mk "book_frozen" .row .before op none none [] none .protect).WellFormed :=
    Definition.wellFormed_iff.2 ⟨hnamed, by simp [Definition.fault?, h, Kind.fault?]⟩
  obtain ⟨t, ht⟩ := Builder.exists_build_iff.2 ⟨_, hwhole, rfl⟩
  have hoperation := congrArg Builder.operation (Builder.build_eq_ok_iff.1 ht)
  exact ⟨t, ht, (Option.some.inj hoperation).symm⟩

/-- A builder asks of an operation only that it is not the empty combination. -/
theorem accepted_iff {op : Operation} : op.Accepted ↔ op ≠ .anyOf [] := by
  constructor
  · rintro h rfl
    exact h.members_ne_nil rfl
  · intro h
    obtain ⟨t, ht, hop⟩ := exists_protect op h
    exact ⟨_, t, ht, hop⟩

/-- For an entity whose columns hold no double quote: the text of an operation that was accepted, on names without
double quotes, is a clause exactly if no list in the operation is empty and each name stands for a column that can
be named, and then it says just the events of the operation in their order. The text of two operations that were
accepted, put together, is the text of both with an `OR` between them, and has the events of both. -/
theorem clause_exact {e : Entity} (hkey : '"' ∉ e.primaryKey.toList)
    (hfields : ∀ f ∈ e.fields, '"' ∉ f.column.toList) :
    (∀ (b : Builder) (t : Trigger), b.build = .ok t → (∀ c ∈ t.operation.columns, '"' ∉ c.toList) →
      ((∃ evs, IsEventClause (t.operation.sql e).toList evs) ↔
        t.operation.Full ∧ ∀ c ∈ t.operation.columns, (Sql.Part.quoted (e.columnOrName c)).IsNamed) ∧
      ∀ evs, IsEventClause (t.operation.sql e).toList evs → evs = t.operation.events e.columnOrName) ∧
    ∀ a b : Operation, a.Accepted → b.Accepted →
      (a.or b).sql e = a.sql e ++ " OR " ++ b.sql e ∧
      (a.or b).events e.columnOrName = a.events e.columnOrName ++ b.events e.columnOrName := by
  have hsql : ∀ op : Operation, op.sql e = op.text e.columnOrName := fun _ => rfl
  simp only [hsql]
  constructor
  · intro b t _ hnames
    have hplain : ∀ c ∈ t.operation.columns, '"' ∉ (e.columnOrName c).toList := fun c hc =>
      e.not_mem_columnOrName hkey hfields (hnames c hc)
    refine ⟨⟨?_, ?_⟩, ?_⟩
    · rintro ⟨evs, hclause⟩
      obtain ⟨hfull, hnamed, -⟩ := (isEventClause_iff hplain).1 hclause
      exact ⟨hfull, hnamed⟩
    · rintro ⟨hfull, hnamed⟩
      exact ⟨_, (isEventClause_iff hplain).2 ⟨hfull, hnamed, rfl⟩⟩
    · exact fun evs hclause => ((isEventClause_iff hplain).1 hclause).2.2
  · intro a b ha hb
    have htexts := String.intercalate_append_of_ne_nil (s := " OR ")
      (texts_ne_nil e.columnOrName ha.members_ne_nil)
      (texts_ne_nil e.columnOrName hb.members_ne_nil)
    rw [← texts_append, ← text_members, ← text_members] at htexts
    refine ⟨?_, ?_⟩
    · rw [or, text, htexts]
    · rw [or, events, eventsEach_append, ← events_members, ← events_members]

end Operation

/-- Books with a column of another name than its field's. -/
def Entity.retitled : Entity :=
  { label := "library.Book", table := "book", fields := [{ name := "title", column := "book_title" }] }

namespace Operation

/-- Combinations inside one another, with an update of a field and of the key in the middle. -/
theorem clause_exact_nested :
    ('"' ∉ Entity.retitled.primaryKey.toList ∧ ∀ f ∈ Entity.retitled.fields, '"' ∉ f.column.toList) ∧
      IsEventClause "INSERT OR UPDATE OF \"book_title\", \"id\" OR TRUNCATE OR DELETE".toList
        [.insert, .updateOf ["book_title", "id"], .truncate, .delete] := by
  have hkey : '"' ∉ Entity.retitled.primaryKey.toList := by decide
  have hfields : ∀ f ∈ Entity.retitled.fields, '"' ∉ f.column.toList := by decide
  obtain ⟨t, ht, hop⟩ := exists_protect
    (.or (.anyOf [.insert, .anyOf [.updateOf ["title", "pk"], .truncate]]) .delete) (by decide)
  obtain ⟨hiff, hevents⟩ := (clause_exact hkey hfields).1 _ t ht (by rw [hop]; decide)
  have hfull : t.operation.Full := by simp [hop, Operation.or, members, Full, FullEach]
  have hnamed : ∀ c ∈ t.operation.columns, (Sql.Part.quoted (Entity.retitled.columnOrName c)).IsNamed := by
    rw [hop]
    show ∀ c ∈ ["title", "pk"], _
    rw [List.forall_mem_cons, List.forall_mem_singleton]
    exact ⟨⟨by decide, by decide⟩, ⟨by decide, by decide⟩⟩
  obtain ⟨evs, hclause⟩ := hiff.2 ⟨hfull, hnamed⟩
  obtain rfl := hevents evs hclause
  rw [hop] at hclause
  exact ⟨⟨hkey, hfields⟩, hclause⟩

/-- An update of no column, and a combination that has an empty one in it, are accepted; their texts are no
clauses. -/
theorem no_clause :
    ∃ s t : Trigger, (Builder.protect "book_frozen" (.updateOf [])).build = .ok s ∧
      (Builder.protect "book_frozen" (.anyOf [.anyOf []])).build = .ok t ∧
      (∀ evs, ¬IsEventClause (s.operation.sql .retitled).toList evs) ∧
      ∀ evs, ¬IsEventClause (t.operation.sql .retitled).toList evs := by
  obtain ⟨s, hs, hsop⟩ := exists_protect (.updateOf []) (by decide)
  obtain ⟨t, ht, htop⟩ := exists_protect (.anyOf [.anyOf []]) (by decide)
  refine ⟨s, t, hs, ht, fun evs hclause => ?_, fun evs hclause => ?_⟩
  · rw [hsop] at hclause
    change IsEventClause (text Entity.retitled.columnOrName (.updateOf [])).toList evs at hclause
    obtain ⟨hfull, -⟩ := (isEventClause_iff (by decide)).1 hclause
    exact hfull rfl
  · rw [htop] at hclause
    change IsEventClause (text Entity.retitled.columnOrName (.anyOf [.anyOf []])).toList evs at hclause
    obtain ⟨hfull, -⟩ := (isEventClause_iff (by decide)).1 hclause
    exact hfull.2.1.1 rfl

end Operation

end DeclaredTriggers
