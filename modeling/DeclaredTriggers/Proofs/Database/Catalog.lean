import DeclaredTriggers.Proofs.Database.Basic
import DeclaredTriggers.Proofs.Install.Script
import DeclaredTriggers.Proofs.Sql.Tokens
import DeclaredTriggers.Reconcile.Catalog
import Mathlib.Data.List.AList

/-!
# The catalog of a database

What a database knows about triggers: for each relation and trigger, the comment on it and whether it is
enabled. It follows from the statements whose work is in force, read as they are written
(`TriggerChange.of?`), and it is what the questions about triggers are answered from (`Dialect.answer`). A
relation is printed without quotes where the database needs none, which is left open but for names that hold
a quote, and rows come in any order.

> `Entry.Contained.lookup_after`: behind the script of a contained entry, its trigger is there, enabled and
> with the script's hash for a comment, and every other trigger is as it was.
-/

namespace DeclaredTriggers

open Sql (Token tokens Spells)

/-- What is known of a trigger that is there. -/
structure TriggerRow where
  comment : Option String
  enabled : Bool
  deriving DecidableEq

/-- The names of a relation and of a trigger on it. -/
abbrev TriggerKey := String × String

/-- The triggers that are there. -/
abbrev Catalog := AList fun _ : TriggerKey => TriggerRow

/-- What a statement does to one trigger. -/
inductive Deed where
  | drop
  | create
  | comment (text : String)
  | enable (enabled : Bool)
  deriving DecidableEq

namespace Deed

/-- What becomes of the trigger. -/
def apply : Deed → Option TriggerRow → Option TriggerRow
  | .drop, _ => none
  | .create, _ => some ⟨none, true⟩
  | .comment text, row => row.map ({ · with comment := some text })
  | .enable enabled, row => row.map ({ · with enabled })

end Deed

/-- What a statement does to the catalog. -/
structure TriggerChange where
  key : TriggerKey
  deed : Deed
  deriving DecidableEq

namespace Catalog

/-- The catalog with one trigger changed. -/
def changed (m : Catalog) (e : TriggerChange) : Catalog :=
  match e.deed.apply (m.lookup e.key) with
  | some row => m.insert e.key row
  | none => m.erase e.key

theorem lookup_changed (m : Catalog) (e : TriggerChange) (k : TriggerKey) :
    (m.changed e).lookup k = if k = e.key then e.deed.apply (m.lookup k) else m.lookup k := by
  unfold changed
  by_cases hk : k = e.key
  · subst hk
    rw [if_pos rfl]
    cases e.deed.apply (m.lookup e.key) with
    | none => exact AList.lookup_erase _ _
    | some row => exact AList.lookup_insert _
  · rw [if_neg hk]
    cases e.deed.apply (m.lookup e.key) with
    | none => exact AList.lookup_erase_ne hk
    | some row => exact AList.lookup_insert_ne hk

end Catalog

namespace TriggerChange

/-! ## Reading a statement -/

/-- What follows some keywords. -/
def expect : List String → List Token → Option (List Token)
  | [], ts => some ts
  | _ :: _, [] => none
  | k :: ks, t :: ts => if t.isKeyword k then expect ks ts else none

/-- A name, and what follows it. -/
def named : List Token → Option (String × List Token)
  | [] => none
  | t :: ts => t.name?.map (·, ts)

/-- What follows the first `ON`. -/
def afterOn : List Token → Option (List Token)
  | [] => none
  | t :: ts => if t.isKeyword "ON" then some ts else afterOn ts

/-- A statement that drops a trigger. -/
def drop? (ts : List Token) : Option TriggerChange := do
  let ts ← expect ["DROP", "TRIGGER", "IF", "EXISTS"] ts
  let (trigger, ts) ← named ts
  let ts ← expect ["ON"] ts
  let (relation, ts) ← named ts
  if ts.isEmpty then some ⟨(relation, trigger), .drop⟩ else none

/-- A statement that creates a trigger. What it fires on stands between its name and the relation's. -/
def create? (ts : List Token) : Option TriggerChange := do
  let ts ← expect ["CREATE"] ts
  let ts := (expect ["CONSTRAINT"] ts).getD ts
  let ts ← expect ["TRIGGER"] ts
  let (trigger, ts) ← named ts
  let ts ← afterOn ts
  let (relation, _) ← named ts
  some ⟨(relation, trigger), .create⟩

/-- A statement that comments on a trigger. -/
def comment? (ts : List Token) : Option TriggerChange := do
  let ts ← expect ["COMMENT", "ON", "TRIGGER"] ts
  let (trigger, ts) ← named ts
  let ts ← expect ["ON"] ts
  let (relation, ts) ← named ts
  match ← expect ["IS"] ts with
  | [.literal text] => some ⟨(relation, trigger), .comment (String.ofList text)⟩
  | _ => none

/-- What enables or disables a trigger. -/
def verb : Bool → String
  | true => "ENABLE"
  | false => "DISABLE"

/-- Whether a trigger is enabled or disabled, and what follows that. -/
def mode? (ts : List Token) : Option (Bool × List Token) :=
  (expect [verb true, "TRIGGER"] ts).map (true, ·) <|> (expect [verb false, "TRIGGER"] ts).map (false, ·)

/-- A statement that enables or disables a trigger. -/
def enable? (ts : List Token) : Option TriggerChange := do
  let ts ← expect ["ALTER", "TABLE"] ts
  let (relation, ts) ← named ts
  let (enabled, ts) ← mode? ts
  let (trigger, ts) ← named ts
  if ts.isEmpty then some ⟨(relation, trigger), .enable enabled⟩ else none

/-- What a statement of some tokens does to the catalog, if it is about a trigger. -/
def ofTokens? (ts : List Token) : Option TriggerChange :=
  drop? ts <|> create? ts <|> comment? ts <|> enable? ts

/-- What a statement does to the catalog, if it is about a trigger. -/
def of? (s : List Char) : Option TriggerChange := ofTokens? (tokens s)

end TriggerChange

namespace Catalog

/-- The catalog after one more statement. -/
def next (m : Catalog) (s : List Char) : Catalog := (TriggerChange.of? s).elim m m.changed

/-- The catalog after some work. -/
def after (m : Catalog) (work : Work) : Catalog := work.foldl next m

theorem after_cons (m : Catalog) (s : List Char) (work : Work) :
    m.after (s :: work) = (m.next s).after work := rfl

theorem after_nil (m : Catalog) : m.after [] = m := rfl

theorem after_append (m : Catalog) (work more : Work) :
    m.after (work ++ more) = (m.after work).after more := List.foldl_append

end Catalog

/-! ## Statements as they are written -/

/-- Whether a word is a keyword as they are written: capital letters, and at least one. -/
def isCapital (w : String) : Bool := w.toList.all (·.isUpper) && !w.toList.isEmpty

/-- The tokens of some keywords. -/
def phrase (ks : List String) : List Token := ks.map (Token.word ·.toList)

theorem spells_phrase {ks : List String} (h : ks.all isCapital) :
    Spells (" ".intercalate ks).toList (phrase ks) := by
  refine Sql.spells_phrase fun w hw => ?_
  have hone := List.all_eq_true.1 h w hw
  simp only [isCapital, Bool.and_eq_true, List.all_eq_true, Bool.not_eq_true', List.isEmpty_eq_false_iff]
    at hone
  refine ⟨fun c hc => ?_, hone.2⟩
  unfold Sql.isWordCharacter Char.isAlphanum Char.isAlpha
  rw [hone.1 c hc]
  rfl

/-- Keywords and a blank in front of a text. -/
theorem spells_lead {lead : String} {ks : List String} {b : List Char} {us : List Token}
    (hks : ks.all isCapital) (hlead : lead.toList = (" ".intercalate ks).toList ++ [' '])
    (hb : Spells b us) : Spells (lead.toList ++ b) (phrase ks ++ us) := by
  rw [hlead, List.append_assoc]
  exact (spells_phrase hks).blank (by decide) hb

/-- Keywords between two texts, with a blank on either side. -/
theorem spells_between {middle : String} {ks : List String} {a b : List Char} {ts us : List Token}
    (hks : ks.all isCapital) (hmiddle : middle.toList = ' ' :: (" ".intercalate ks).toList ++ [' '])
    (ha : Spells a ts) (hb : Spells b us) :
    Spells (a ++ (middle.toList ++ b)) (ts ++ (phrase ks ++ us)) := by
  rw [hmiddle, List.append_assoc]
  exact ha.blank (by decide) ((spells_phrase hks).blank (by decide) hb)

theorem isKeyword_of_isCapital {k : String} (h : isCapital k) : (Token.word k.toList).isKeyword k := by
  simp only [isCapital, Bool.and_eq_true, List.all_eq_true] at h
  have hupper : ∀ c ∈ k.toList, c.toUpper = c := by
    intro c hc
    have hall : ∀ n < 128, (Char.ofNat n).isUpper → (Char.ofNat n).toUpper = Char.ofNat n := by decide
    refine forall_ascii (P := fun c => c.isUpper → c.toUpper = c) hall c ?_ (h.1 c hc)
    refine Definition.toNat_lt_of_isNameCharacter ?_
    unfold Definition.isNameCharacter Char.isAlphanum Char.isAlpha
    rw [h.1 c hc]
    rfl
  show decide (k.toList.map Char.toUpper = k.toList) = true
  rw [List.map_congr_left hupper, List.map_id', decide_eq_true rfl]

namespace TriggerChange

theorem expect_phrase {ks : List String} (h : ks.all isCapital) (ts : List Token) :
    expect ks (phrase ks ++ ts) = some ts := by
  induction ks with
  | nil => rfl
  | cons k ks ih =>
    rw [List.all_cons, Bool.and_eq_true] at h
    show (if (Token.word k.toList).isKeyword k then expect ks (phrase ks ++ ts) else none) = _
    rw [if_pos (isKeyword_of_isCapital h.1), ih h.2]

/-- Another word than the first keyword. -/
theorem expect_other {k : String} {t : Token} (h : t.isKeyword k = false) (ks : List String)
    (ts : List Token) : expect (k :: ks) (t :: ts) = none := if_neg (by rw [h]; exact Bool.false_ne_true)

theorem named_cons {t : Token} {name : String} (h : t.name? = some name) (ts : List Token) :
    named (t :: ts) = some (name, ts) := by
  show t.name?.map (·, ts) = _
  rw [h]
  rfl

theorem named_name (name : String) (ts : List Token) :
    named (.name name.toList :: ts) = some (name, ts) := by
  refine named_cons ?_ ts
  show some (String.ofList name.toList) = _
  rw [String.ofList_toList]

theorem drop?_other {t : Token} (h : t.isKeyword "DROP" = false) (ts : List Token) :
    drop? (t :: ts) = none := by
  unfold drop?
  rw [expect_other h]
  rfl

theorem create?_other {t : Token} (h : t.isKeyword "CREATE" = false) (ts : List Token) :
    create? (t :: ts) = none := by
  unfold create?
  rw [expect_other h]
  rfl

theorem comment?_other {t : Token} (h : t.isKeyword "COMMENT" = false) (ts : List Token) :
    comment? (t :: ts) = none := by
  unfold comment?
  rw [expect_other h]
  rfl

theorem enable?_other {t : Token} (h : t.isKeyword "ALTER" = false) (ts : List Token) :
    enable? (t :: ts) = none := by
  unfold enable?
  rw [expect_other h]
  rfl

/-- A text that begins with another keyword than these statements changes nothing. -/
theorem of?_other {s : List Char} {t : Token} {ts : List Token} (h : tokens s = t :: ts)
    (hdrop : t.isKeyword "DROP" = false) (hcreate : t.isKeyword "CREATE" = false)
    (hcomment : t.isKeyword "COMMENT" = false) (halter : t.isKeyword "ALTER" = false) : of? s = none := by
  unfold of? ofTokens?
  rw [h, drop?_other hdrop, create?_other hcreate, comment?_other hcomment, enable?_other halter]
  rfl

/-- Creating a function changes nothing. -/
theorem of?_function (r : List Char) : of? ("CREATE OR REPLACE FUNCTION".toList ++ r) = none := by
  have hlead : Spells "CREATE OR".toList (phrase ["CREATE", "OR"]) :=
    spells_phrase (show ["CREATE", "OR"].all isCapital by decide)
  have htokens : tokens ("CREATE OR REPLACE FUNCTION".toList ++ r) =
      phrase ["CREATE", "OR"] ++ tokens ("REPLACE FUNCTION".toList ++ r) :=
    hlead.tokens_blank (c := ' ') (by decide) ("REPLACE FUNCTION".toList ++ r)
  have hcreate : create? (tokens ("CREATE OR REPLACE FUNCTION".toList ++ r)) = none := by
    have hks : ["CREATE"].all isCapital := by decide
    have hconstraint : (Token.word "OR".toList).isKeyword "CONSTRAINT" = false := by decide
    have htrigger : (Token.word "OR".toList).isKeyword "TRIGGER" = false := by decide
    rw [htokens]
    show create? (phrase ["CREATE"] ++ (.word "OR".toList :: tokens ("REPLACE FUNCTION".toList ++ r))) = none
    simp only [create?, expect_phrase hks, expect_other hconstraint, expect_other htrigger,
      Option.bind_eq_bind, Option.bind_some, Option.getD_none, Option.bind_none]
  unfold of? ofTokens?
  rw [hcreate, htokens]
  show (drop? (.word "CREATE".toList :: _) <|> none <|> comment? (.word "CREATE".toList :: _) <|>
    enable? (.word "CREATE".toList :: _)) = none
  rw [drop?_other (by decide), comment?_other (by decide), enable?_other (by decide)]
  rfl

/-- The statement that drops a trigger drops it. -/
theorem of?_dropping {pgid : String} (h : pgid ≠ "") (table : String) :
    of? (dropping pgid table) = some ⟨(table, pgid), .drop⟩ := by
  obtain ⟨t, ht, hname⟩ := Sql.spells_triggerName h
  have hks : ["DROP", "TRIGGER", "IF", "EXISTS"].all isCapital := by decide
  have hon : ["ON"].all isCapital := by decide
  have hspells : Spells (dropping pgid table) _ :=
    spells_lead hks (by decide) (spells_between hon (by decide) ht (Sql.spells_quoteName table))
  have hdrop : drop? (tokens (dropping pgid table)) = some ⟨(table, pgid), .drop⟩ := by
    rw [hspells.tokens]
    simp only [drop?, expect_phrase hks, List.singleton_append, named_cons hname, expect_phrase hon,
      named_name, Option.bind_eq_bind, Option.bind_some, List.isEmpty_nil, if_true]
  unfold of? ofTokens?
  rw [hdrop]
  rfl

/-- The statement that comments on a trigger comments on it. -/
theorem of?_commenting {p : InstallParams} (h : p.pgid ≠ "") {hash : String} (hhash : '\'' ∉ hash.toList) :
    of? (p.commenting hash) = some ⟨(p.table, p.pgid), .comment hash⟩ := by
  obtain ⟨t, ht, hname⟩ := Sql.spells_triggerName h
  have hks : ["COMMENT", "ON", "TRIGGER"].all isCapital := by decide
  have hon : ["ON"].all isCapital := by decide
  have his : ["IS"].all isCapital := by decide
  have hspells : Spells (p.commenting hash) _ :=
    spells_lead hks (by decide) (spells_between hon (by decide) ht
      (spells_between his (by decide) (Sql.spells_quoteName p.table) (Sql.spells_literal hhash)))
  have hcomment : comment? (tokens (p.commenting hash)) = some ⟨(p.table, p.pgid), .comment hash⟩ := by
    rw [hspells.tokens]
    simp only [comment?, expect_phrase hks, List.singleton_append, named_cons hname, expect_phrase hon,
      named_name, expect_phrase his, Option.bind_eq_bind, Option.bind_some, String.ofList_toList]
  have hdrop : drop? (tokens (p.commenting hash)) = none := by
    rw [hspells.tokens]
    exact drop?_other (by decide) _
  have hcreate : create? (tokens (p.commenting hash)) = none := by
    rw [hspells.tokens]
    exact create?_other (by decide) _
  unfold of? ofTokens?
  rw [hdrop, hcreate, hcomment]
  rfl

theorem afterOn_append {ts : List Token} (h : ∀ t ∈ ts, t.isKeyword "ON" = false) (us : List Token) :
    afterOn (ts ++ (phrase ["ON"] ++ us)) = some us := by
  induction ts with
  | nil => exact if_pos (isKeyword_of_isCapital (by decide))
  | cons t ts ih =>
    show (if t.isKeyword "ON" then _ else _) = _
    rw [h t List.mem_cons_self]
    exact ih fun u hu => h u (List.mem_cons_of_mem _ hu)

/-- The moment says nothing else in a statement than what it is. -/
theorem inert_moment (m : Moment) : Sql.Inert m.sql.toList := by
  cases m with
  | before => exact .word (by decide) (by decide) (by decide)
  | after => exact .word (by decide) (by decide) (by decide)
  | insteadOf =>
    exact .blank (a := "INSTEAD".toList) (b := "OF".toList) (.word (by decide) (by decide) (by decide))
      (.word (by decide) (by decide) (by decide))

/-- What may stand between `CREATE` and `TRIGGER`. -/
theorem expect_constraint {constraint : String} (h : constraint = "" ∨ constraint = "CONSTRAINT") :
    ∃ ts, Spells constraint.toList ts ∧ ∀ us,
      (expect ["CONSTRAINT"] (ts ++ (phrase ["TRIGGER"] ++ us))).getD (ts ++ (phrase ["TRIGGER"] ++ us)) =
        phrase ["TRIGGER"] ++ us := by
  rcases h with rfl | rfl
  · refine ⟨[], .nil, fun us => ?_⟩
    have hother : (Token.word "TRIGGER".toList).isKeyword "CONSTRAINT" = false := by decide
    show (expect ["CONSTRAINT"] (.word "TRIGGER".toList :: us)).getD _ = _
    rw [expect_other hother]
    rfl
  · have hks : ["CONSTRAINT"].all isCapital := by decide
    refine ⟨phrase ["CONSTRAINT"], spells_phrase hks, fun us => ?_⟩
    rw [expect_phrase hks]
    rfl

/-- The statement that creates a trigger creates it, whatever follows its table. -/
theorem of?_creating {p : InstallParams} (h : p.pgid ≠ "")
    (hconstraint : p.constraint.getD "" = "" ∨ p.constraint.getD "" = "CONSTRAINT")
    (hmoment : Sql.Inert p.moment.toList) (hoperation : Sql.Inert p.operation.toList) {r : List Char}
    (hr : ∀ c ∈ r.head?, Text.isBlank c) :
    of? (p.creating ++ r) = some ⟨(p.table, p.pgid), .create⟩ := by
  obtain ⟨t, ht, hname⟩ := Sql.spells_triggerName h
  obtain ⟨cs, hcs, hexpect⟩ := expect_constraint hconstraint
  obtain ⟨us, hus, hon'⟩ := (hmoment.blank hoperation).spells
  have hcreate' : ["CREATE"].all isCapital := by decide
  have htrigger : ["TRIGGER"].all isCapital := by decide
  have hon : ["ON"].all isCapital := by decide
  have hafter : Spells (p.moment.toList ++ (" ".toList ++ (p.operation.toList ++ (" ON ".toList ++
      (Sql.quoteName p.table).toList)))) (us ++ (phrase ["ON"] ++ [.name p.table.toList])) := by
    have hall := spells_between hon
      (show " ON ".toList = ' ' :: (" ".intercalate ["ON"]).toList ++ [' '] by decide) hus
      (Sql.spells_quoteName p.table)
    rwa [List.append_assoc] at hall
  have hspells : Spells p.creating _ :=
    spells_lead hcreate' (by decide) (spells_between htrigger (by decide) hcs
      (ht.blanks (s := "\n                ".toList) (by decide) (by decide) hafter))
  obtain ⟨more, hmore⟩ := hspells.tokens_front hr
  simp only [List.append_assoc, List.cons_append, List.nil_append] at hmore
  have hcreate : create? (tokens (p.creating ++ r)) = some ⟨(p.table, p.pgid), .create⟩ := by
    rw [hmore]
    simp only [create?, expect_phrase hcreate', hexpect, expect_phrase htrigger, named_cons hname,
      afterOn_append hon', named_name, Option.bind_eq_bind, Option.bind_some]
  have hdrop : drop? (tokens (p.creating ++ r)) = none := by
    rw [hmore]
    exact drop?_other (by decide) _
  unfold of? ofTokens?
  rw [hdrop, hcreate]
  rfl

end TriggerChange

/-! ## Enabling and disabling -/

/-- The statement that enables or disables a trigger. -/
def enabling (enabled : Bool) (pgid table : String) : List Char :=
  "ALTER TABLE ".toList ++ ((Sql.quoteName table).toList ++
    ((if enabled then " ENABLE TRIGGER " else " DISABLE TRIGGER ").toList ++ (Sql.triggerName pgid).toList))

namespace TriggerChange

theorem isCapital_verb (enabled : Bool) : [verb enabled, "TRIGGER"].all isCapital := by
  cases enabled <;> decide

theorem mode?_phrase (enabled : Bool) (ts : List Token) :
    mode? (phrase [verb enabled, "TRIGGER"] ++ ts) = some (enabled, ts) := by
  have hfound := expect_phrase (isCapital_verb enabled) ts
  unfold mode?
  cases enabled with
  | true =>
    rw [hfound]
    rfl
  | false =>
    have hother : (Token.word (verb false).toList).isKeyword (verb true) = false := by decide
    have hmissed : expect [verb true, "TRIGGER"] (phrase [verb false, "TRIGGER"] ++ ts) = none :=
      expect_other hother _ _
    rw [hfound, hmissed]
    rfl

/-- The statement that enables or disables a trigger does so. -/
theorem of?_enabling (enabled : Bool) {pgid : String} (h : pgid ≠ "") (table : String) :
    of? (enabling enabled pgid table) = some ⟨(table, pgid), .enable enabled⟩ := by
  obtain ⟨t, ht, hname⟩ := Sql.spells_triggerName h
  have hks : ["ALTER", "TABLE"].all isCapital := by decide
  have hspells : Spells (enabling enabled pgid table) _ :=
    spells_lead hks (by decide) (spells_between (isCapital_verb enabled) (by cases enabled <;> decide)
      (Sql.spells_quoteName table) ht)
  have henable : enable? (tokens (enabling enabled pgid table)) =
      some ⟨(table, pgid), .enable enabled⟩ := by
    rw [hspells.tokens]
    simp only [enable?, expect_phrase hks, List.singleton_append, named_name, mode?_phrase,
      named_cons hname, Option.bind_eq_bind, Option.bind_some, List.isEmpty_nil, if_true]
  have hdrop : drop? (tokens (enabling enabled pgid table)) = none := by
    rw [hspells.tokens]
    exact drop?_other (by decide) _
  have hcreate : create? (tokens (enabling enabled pgid table)) = none := by
    rw [hspells.tokens]
    exact create?_other (by decide) _
  have hcomment : comment? (tokens (enabling enabled pgid table)) = none := by
    rw [hspells.tokens]
    exact comment?_other (by decide) _
  unfold of? ofTokens?
  rw [hdrop, hcreate, hcomment, henable]
  rfl

end TriggerChange

/-- A trigger's identifier ends with no blank. -/
theorem exists_concat_triggerName {pgid : String} (h : pgid ≠ "") :
    ∃ a d, (Sql.triggerName pgid).toList = a ++ [d] ∧ Text.isBlank d = false := by
  unfold Sql.triggerName
  split
  next hplain =>
    obtain ⟨a, d, hd⟩ := List.eq_nil_or_concat pgid.toList |>.resolve_left (by simpa using h)
    rw [List.concat_eq_append] at hd
    have hmem : d ∈ pgid.toList := by
      rw [hd]
      simp
    have hword := (Sql.plain_character (List.all_eq_true.1 hplain d hmem)).1
    exact ⟨a, d, hd, (Sql.word_character hword).1⟩
  next => exact ⟨_, '"', Sql.quoteName_eq pgid, by decide⟩

/-- The text that enables or disables a trigger. -/
def enablingSql (enabled : Bool) (pgid table : String) : String :=
  if enabled then enableTriggerSql pgid table else disableTriggerSql pgid table

theorem statements_enablingSql (enabled : Bool) {pgid table : String} (hpgid : pgid ≠ "")
    (htable : '"' ∉ table.toList) :
    Sql.statements (enablingSql enabled pgid table).toList = [enabling enabled pgid table] := by
  have hlist : (enablingSql enabled pgid table).toList = enabling enabled pgid table ++ [';'] := by
    unfold enablingSql enableTriggerSql disableTriggerSql enabling
    rw [Sql.quote_of_plain htable]
    cases enabled <;>
      simp only [if_true, Bool.false_eq_true, if_false, String.toList_append, List.append_assoc] <;> rfl
  have hclosed : Sql.isClosed (enabling enabled pgid table) := by
    refine Sql.isClosed_append (by decide) (Sql.isClosed_fragment (Sql.isClosed_quoteName table) ?_
      (Sql.isClosed_append ?_ (Sql.isClosed_triggerName pgid)))
    · cases enabled <;> rfl
    · cases enabled <;> decide
  obtain ⟨a, d, ha, hd⟩ := exists_concat_triggerName hpgid
  have hends : enabling enabled pgid table = 'A' :: ("LTER TABLE ".toList ++ ((Sql.quoteName table).toList ++
      ((if enabled then " ENABLE TRIGGER " else " DISABLE TRIGGER ").toList ++ a))) ++ [d] := by
    have hlead : "ALTER TABLE ".toList = 'A' :: "LTER TABLE ".toList := by decide
    unfold enabling
    rw [ha, hlead]
    simp only [List.append_assoc, List.cons_append]
  have hone : Sql.statementOf (enabling enabled pgid table) = [enabling enabled pgid table] := by
    rw [hends]
    exact Sql.statementOf_blanks (b := []) (by simp) (by decide) hd
  rw [hlist, (Sql.Announces.statement hclosed).statements_eq, hone]

namespace Catalog

variable (m : Catalog) (k : TriggerKey)

/-! ## What texts do to the catalog -/

theorem lookup_next {s : List Char} {e : TriggerChange} (h : TriggerChange.of? s = some e) :
    (m.next s).lookup k = if k = e.key then e.deed.apply (m.lookup k) else m.lookup k := by
  unfold next
  rw [h]
  exact m.lookup_changed e k

theorem next_of_none {s : List Char} (h : TriggerChange.of? s = none) : m.next s = m := by
  unfold next
  rw [h]
  rfl

theorem lookup_after_dropping {pgid table : String} (hpgid : pgid ≠ "") (htable : '"' ∉ table.toList) :
    (m.after (Sql.statements (dropTriggerSql pgid table).toList)).lookup k =
      if k = (table, pgid) then none else m.lookup k := by
  rw [statements_dropTriggerSql pgid htable, after_cons, after_nil,
    m.lookup_next k (TriggerChange.of?_dropping hpgid table)]
  rfl

theorem lookup_after_enabling (enabled : Bool) {pgid table : String} (hpgid : pgid ≠ "")
    (htable : '"' ∉ table.toList) :
    (m.after (Sql.statements (enablingSql enabled pgid table).toList)).lookup k =
      if k = (table, pgid) then (m.lookup k).map ({ · with enabled }) else m.lookup k := by
  rw [statements_enablingSql enabled hpgid htable, after_cons, after_nil,
    m.lookup_next k (TriggerChange.of?_enabling enabled hpgid table)]
  rfl

/-- Behind the script of contained fragments, the trigger is there, enabled and with the script's hash for a
comment, and every other trigger is as it was. -/
theorem lookup_after_installing {p : InstallParams} (h : p.Contained) (hpgid : p.pgid ≠ "")
    (hconstraint : p.constraint.getD "" = "" ∨ p.constraint.getD "" = "CONSTRAINT")
    (hmoment : Sql.Inert p.moment.toList) (hoperation : Sql.Inert p.operation.toList) {hash : String}
    (hhash : '\'' ∉ hash.toList) :
    (m.after (Sql.statements (p.renderV1 hash).toList)).lookup k =
      if k = (p.table, p.pgid) then some ⟨some hash, true⟩ else m.lookup k := by
  obtain ⟨r₁, r₂, r₃, hr₃, hstatements⟩ := InstallParams.statements_renderV1 h hhash
  rw [hstatements]
  simp only [after_cons, after_nil]
  rw [m.next_of_none (TriggerChange.of?_function r₁), m.next_of_none (TriggerChange.of?_function r₂),
    lookup_next _ k (TriggerChange.of?_commenting hpgid hhash),
    lookup_next _ k (TriggerChange.of?_creating hpgid hconstraint hmoment hoperation hr₃),
    lookup_next _ k (TriggerChange.of?_dropping hpgid p.table)]
  by_cases hk : k = (p.table, p.pgid)
  · simp only [hk, if_true]
    rfl
  · simp only [hk, if_false]

end Catalog

namespace Entry

variable {x : Entry} {s : Settings}

/-- Where an entry's trigger stands in the catalog. -/
def key (x : Entry) : TriggerKey := (x.table, x.pgid)

theorem pgid_ne_empty (x : Entry) : x.pgid ≠ "" := by
  intro h
  obtain ⟨rest, hrest⟩ := x.pgid_eq_append
  rw [h] at hrest
  cases hrest

/-- Behind the script of a contained entry, its trigger is there with its hash, and every other trigger is as
it was. -/
theorem Contained.lookup_after (h : x.Contained s) {text : String}
    (htext : x.trigger.installSql x.entity s = .ok text) :
    ∃ hash, x.trigger.hash x.entity s = .ok hash ∧ ∀ (m : Catalog) (k : TriggerKey),
      (m.after (Sql.statements text.toList)).lookup k =
        if k = x.key then some ⟨some hash, true⟩ else m.lookup k := by
  obtain ⟨p, hparams, rfl⟩ := Trigger.exists_installParams htext
  have hfills := Trigger.fills_of_installParams hparams
  have hpgid : p.pgid = x.pgid := Except.ok.inj (hfills.pgid.symm.trans x.pgid_eq)
  have hkey : x.key = (p.table, p.pgid) := by
    rw [hpgid, hfills.table]
    rfl
  have hoperation : Sql.Inert p.operation.toList := by
    rw [hfills.operation]
    exact x.trigger.operation.inert_text _ h.columns
  have hmoment : Sql.Inert p.moment.toList := by
    rw [hfills.moment]
    exact TriggerChange.inert_moment _
  refine ⟨p.ownHash, (Trigger.compiled_of_installParams hparams).2, fun m k => ?_⟩
  rw [hkey]
  exact m.lookup_after_installing k (h.params p hparams) (by rw [hpgid]; exact x.pgid_ne_empty)
    hfills.constraint hmoment hoperation p.not_mem_ownHash

end Entry

/-! ## Answers from the catalog -/

/-- What is left open about the answers of a database. -/
structure Dialect where
  /-- Whether a relation's name is printed without quotes. -/
  isBare : String → Bool
  bare_plain : ∀ name, isBare name → '"' ∉ name.toList
  /-- The order of some rows. -/
  arranged : List (TriggerKey × TriggerRow) → List (TriggerKey × TriggerRow)
  arranged_perm : ∀ rows, (arranged rows).Perm rows

/-- Whether a trigger is a managed one by its name: the underscore of the pattern is any character. -/
def isManaged (trigger : String) : Bool :=
  match Text.strip? "pgtrigger".toList trigger.toList with
  | some rest => !rest.isEmpty
  | none => false

namespace TriggerRow

/-- How a row shows whether its trigger is enabled. -/
def mode (row : TriggerRow) : String := if row.enabled then "O" else "D"

theorem isEnabledMode_mode (row : TriggerRow) : isEnabledMode row.mode = row.enabled := by
  unfold mode
  cases row.enabled <;> decide

end TriggerRow

namespace Dialect

variable (d : Dialect)

/-- How a relation's name is printed. -/
def printed (relation : String) : String := if d.isBare relation then relation else Sql.quoteName relation

/-- The comment and the mode of one trigger. -/
def statusAnswer (m : Catalog) : List String → List ResultRow
  | [trigger, relation] =>
    match TriggerChange.named (tokens relation.toList) with
    | some (name, []) =>
      match m.lookup (name, trigger) with
      | some row => [[row.comment, some row.mode]]
      | none => []
    | _ => []
  | _ => []

/-- The managed triggers of a catalog, in some order. -/
def managed (m : Catalog) : List (TriggerKey × TriggerRow) :=
  d.arranged ((m.entries.map fun e => (e.1, e.2)).filter (isManaged ·.1.2))

/-- A managed trigger as a row of an answer. -/
def managedRow (e : TriggerKey × TriggerRow) : ResultRow :=
  [some (d.printed e.1.1), some e.1.2, some e.2.mode]

/-- What questions about triggers are answered. -/
def answer (m : Catalog) (sql : List Char) (params : List String) : List ResultRow :=
  if sql = statusSql.toList then statusAnswer m params
  else if sql = prunableSql.toList then (d.managed m).map d.managedRow
  else []

/-- The rules of a database that does everything and answers from its catalog. -/
def rules (m : Catalog) : Rules where
  rows work := d.answer (m.after work)

theorem quote_printed (relation : String) : Sql.quote (d.printed relation) = Sql.quoteName relation := by
  unfold printed
  split
  next h => exact Sql.quote_of_plain (d.bare_plain relation h)
  next =>
    unfold Sql.quote
    have hbegins : Text.begins ['"'] (Sql.quoteName relation).toList = true := by
      rw [Sql.quoteName_eq]
      rfl
    rw [hbegins]
    rfl

theorem mem_managed {m : Catalog} {k : TriggerKey} {row : TriggerRow} :
    (k, row) ∈ d.managed m ↔ m.lookup k = some row ∧ isManaged k.2 := by
  unfold managed
  rw [(d.arranged_perm _).mem_iff, List.mem_filter, List.mem_map]
  constructor
  · rintro ⟨⟨⟨k', row'⟩, hmem, he⟩, hmanaged⟩
    obtain ⟨rfl, rfl⟩ := Prod.mk.inj he
    exact ⟨AList.mem_lookup_iff.2 hmem, hmanaged⟩
  · rintro ⟨hlookup, hmanaged⟩
    exact ⟨⟨⟨k, row⟩, AList.mem_lookup_iff.1 hlookup, rfl⟩, hmanaged⟩

end Dialect

end DeclaredTriggers
