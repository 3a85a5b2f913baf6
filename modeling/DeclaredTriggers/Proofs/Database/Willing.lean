import DeclaredTriggers.Proofs.Database.Catalog
import DeclaredTriggers.Proofs.Database.Isolated

/-!
# Databases that refuse nothing

What is sent to a database that refuses nothing is done. `Changes` says so of any part of a program, and is
put together along the program: which texts were sent that may change something, that the catalog is what
these texts make of it, and that the connection is otherwise the same. Questions are no such texts, and
neither are the statements that control the transaction.

> `changes_isolated`: a text that is sent so that its failure changes nothing is done.
>
> `changes_status`, `changes_managed`: the two questions about triggers, and their answers.
-/

namespace DeclaredTriggers

open Act (result)
open Channel
open Sql (Control)

/-- The text of a request that does more than ask or control the transaction. -/
def Request.change? : Request → Option String
  | .batch text =>
    if ∀ s ∈ Sql.statements text.toList, Control.ofStatement? s ≠ none then none else some text
  | .prepared _ _ => none

/-- What is done where some texts are done, one after the other. -/
def workOf (texts : List String) : Work := texts.flatMap fun text => Sql.statements text.toList

/-- A connection to a database that does everything and answers from its catalog. -/
structure Dialect.Serves (d : Dialect) (m : Catalog) (c : Direct Database) : Prop where
  fit : c.Fit
  rules : c.database.rules = d.rules m

namespace Direct

/-- What is in the catalog at the other end, if there was `m` at first. -/
def catalog (c : Direct Database) (m : Catalog) : Catalog := m.after c.database.work

/-- The texts that were sent between two states of a connection and may have changed something. -/
def changes (c c' : Direct Database) : List String :=
  (c'.journal.sent.drop c.journal.sent.length).filterMap (·.2.change?)

/-- The connection `c'` is `c` after some texts were done, and perhaps other requests. -/
structure Changes (c : Direct Database) (m : Catalog) (texts : List String) (c' : Direct Database) :
    Prop where
  isOpen : c'.wire.isOpen = c.wire.isOpen
  held : c'.held = c.held
  rules : c'.database.rules = c.database.rules
  phase : c'.database.phase = c.database.phase
  catalog : c'.catalog m = (c.catalog m).after (workOf texts)
  sent : ∃ more, c'.journal.sent = c.journal.sent ++ more ∧ more.filterMap (·.2.change?) = texts

namespace Changes

variable {c c' c'' : Direct Database} {m : Catalog} {texts texts' : List String} {d : Dialect}

theorem refl (c : Direct Database) (m : Catalog) : c.Changes m [] c :=
  ⟨rfl, rfl, rfl, rfl, rfl, [], (List.append_nil _).symm, rfl⟩

theorem trans (h : c.Changes m texts c') (h' : c'.Changes m texts' c'') :
    c.Changes m (texts ++ texts') c'' where
  isOpen := h'.isOpen.trans h.isOpen
  held := h'.held.trans h.held
  rules := h'.rules.trans h.rules
  phase := h'.phase.trans h.phase
  catalog := by
    unfold workOf
    rw [h'.catalog, h.catalog, List.flatMap_append, Catalog.after_append]
    rfl
  sent := by
    obtain ⟨more, hmore, rfl⟩ := h.sent
    obtain ⟨more', hmore', rfl⟩ := h'.sent
    exact ⟨more ++ more', by rw [hmore', hmore, List.append_assoc], List.filterMap_append⟩

/-- What comes after questions. -/
theorem nothing_trans (h : c.Changes m [] c') (h' : c'.Changes m texts' c'') : c.Changes m texts' c'' :=
  h.trans h'

theorem changes_eq (h : c.Changes m texts c') : c.changes c' = texts := by
  obtain ⟨more, hmore, rfl⟩ := h.sent
  unfold changes
  rw [hmore, List.drop_left]

theorem serves (h : c.Changes m texts c') (hserves : d.Serves m c) : d.Serves m c' where
  fit := ⟨h.isOpen.trans hserves.fit.isOpen, by rw [h.phase, h.held, hserves.fit.phase]⟩
  rules := h.rules.trans hserves.rules

/-- Nothing was changed by questions. -/
theorem catalog_eq (h : c.Changes m [] c') : c'.catalog m = c.catalog m := h.catalog

/-- A notice changes nothing. -/
theorem noted (c : Direct Database) (m : Catalog) (n : Notice) :
    ∃ c', result (notify n) c = (.ok (), c') ∧ c.Changes m [] c' :=
  ⟨_, rfl, rfl, rfl, rfl, rfl, rfl, [], (List.append_nil _).symm, rfl⟩

end Changes

end Direct

namespace Dialect.Serves

variable {d : Dialect} {m : Catalog} {c c' : Direct Database}

theorem refusal? (h : d.Serves m c) (n : Nat) (work : Work) (s : List Char) :
    c.database.rules.refusal? n work s = none := by
  rw [h.rules]
  rfl

theorem not_meddling (h : d.Serves m c) : ¬ c.database.rules.Meddling :=
  fun ⟨n, work, s, _, hrefused⟩ => hrefused (h.refusal? n work s)

theorem phase_ne_failed (h : d.Serves m c) : c.database.phase ≠ .failed := by
  rw [h.fit.phase]
  cases c.held <;> nofun

theorem rows (h : d.Serves m c) : c.database.rules.rows c.database.work = d.answer (c.catalog m) := by
  rw [h.rules]
  rfl

/-- A text that controls nothing is done. -/
theorem heard (h : d.Serves m c) {text : String} (htext : Ordinary text) :
    ∃ d', c.database.heard text = (none, d') ∧ d'.rules = c.database.rules ∧
      d'.phase = c.database.phase ∧ d'.work = c.database.work ++ Sql.statements text.toList := by
  have hsame : c.database.begun.phase = c.database.phase ∧ c.database.begun.rules = c.database.rules ∧
      c.database.begun.work = c.database.work := by
    unfold Database.begun
    split <;> exact ⟨rfl, rfl, rfl⟩
  obtain ⟨hphase, hrules, hwork⟩ := hsame
  unfold Database.heard
  rcases Database.run_of_ordinary (d := c.database.begun) htext (hphase ▸ h.phase_ne_failed) with
    ⟨-, n, hrun⟩ | ⟨refusal, hrefused, -⟩
  · exact ⟨_, hrun, hrules, hphase, by rw [hwork]⟩
  · rw [hrules, Rules.verdict_of_spared fun s _ n work => h.refusal? n work s] at hrefused
    cases hrefused

end Dialect.Serves

/-! ## Texts that change something -/

/-- A text that may change something and controls nothing. -/
structure Changing (text : String) : Prop where
  ordinary : Ordinary text
  nonempty : Sql.statements text.toList ≠ []

theorem Changing.change? {text : String} (h : Changing text) :
    (Request.batch text).change? = some text := by
  obtain ⟨s, rest, hs⟩ := List.exists_cons_of_ne_nil h.nonempty
  refine if_neg fun hall => ?_
  have hmem : s ∈ Sql.statements text.toList := hs ▸ List.mem_cons_self
  exact hall s hmem (h.ordinary s hmem)

theorem AboutSavepoint.change? {lead : String} {n : Nat} {c : Control} (h : AboutSavepoint lead n c) :
    (Request.batch (lead ++ savepointName n)).change? = none := by
  refine if_pos ?_
  rw [h.statements]
  intro s hs
  rw [List.mem_singleton.1 hs, h.control]
  nofun

theorem Direct.Sends.changes {c c' : Direct Database} {m : Catalog} {texts : List String} {text : String}
    {d : Database} (h : c.Sends texts d c') (hopen : c.wire.isOpen = true)
    (hrules : d.rules = c.database.rules) (hphase : d.phase = c.database.phase)
    (hwork : d.work = c.database.work ++ Sql.statements text.toList)
    (htexts : (texts.map Request.batch).filterMap Request.change? = [text]) :
    c.Changes m [text] c' := by
  obtain rfl := h.database
  refine ⟨h.isOpen.trans hopen.symm, h.held, hrules, hphase, ?_, _, h.sent, ?_⟩
  · unfold Direct.catalog workOf
    rw [hwork, Catalog.after_append, List.flatMap_singleton]
  · rw [List.filterMap_map] at htexts ⊢
    exact htexts

/-- A text that is sent so that its failure changes nothing. -/
theorem changes_isolated {d : Dialect} {m : Catalog} {c : Direct Database} (h : d.Serves m c)
    {text : String} (htext : Changing text) :
    ∃ c', result (runIsolated text) c = (.ok (), c') ∧ c.Changes m [text] c' := by
  unfold runIsolated
  rw [Act.result_bind_ok (Act.result_get c)]
  show ∃ c', result (if c.held then withSavepoint text else batch text) c = _ ∧ _
  cases hheld : c.held with
  | false =>
    obtain ⟨d', hheard, hrules, hphase, hwork⟩ := h.heard htext.ordinary
    obtain ⟨c', hresult, hsends⟩ := Direct.sends_batch_of_done h.fit.isOpen hheard
    refine ⟨c', hresult, hsends.changes h.fit.isOpen hrules hphase hwork ?_⟩
    exact List.filterMap_cons_some htext.change?
  | true =>
    have hphase : c.database.phase = .inTransaction := h.fit.phase.trans (if_pos hheld)
    obtain ⟨r, c', hresult, hisolation⟩ := withSavepoint_cases h.fit.isOpen hphase htext.ordinary
    rw [if_pos rfl, hresult]
    cases hisolation with
    | kept n clock clock' hsends =>
      refine ⟨c', rfl, hsends.changes h.fit.isOpen rfl rfl rfl ?_⟩
      simp only [List.map_cons, List.map_nil]
      rw [List.filterMap_cons_none (aboutSavepoint_savepoint n).change?,
        List.filterMap_cons_some htext.change?,
        List.filterMap_cons_none (aboutSavepoint_release n).change?, List.filterMap_nil]
    | undone clock clock' refusal _ hrefused =>
      rw [Rules.verdict_of_spared fun s _ n work => h.refusal? n work s] at hrefused
      cases hrefused
    | spoiled e _ hmeddling => exact absurd hmeddling h.not_meddling

/-! ## Questions -/

/-- A text that is one statement and only asks. Its seventh character tells two such texts apart. -/
def asks (c : Char) (s : List Char) : Bool :=
  Sql.statements s = [s] && (Control.ofStatement? s).isNone && (TriggerChange.of? s).isNone && s[7]? = some c

/-- What is known of a text that only asks. -/
structure Asks (c : Char) (s : List Char) : Prop where
  statements : Sql.statements s = [s]
  control : Control.ofStatement? s = none
  unchanging : TriggerChange.of? s = none
  seventh : s[7]? = some c

theorem asks_iff {c : Char} {s : List Char} : asks c s ↔ Asks c s := by
  simp only [asks, Bool.and_eq_true, decide_eq_true_eq, Option.isNone_iff_eq_none]
  exact ⟨fun ⟨⟨⟨h₁, h₂⟩, h₃⟩, h₄⟩ => ⟨h₁, h₂, h₃, h₄⟩, fun h => ⟨⟨⟨h.1, h.2⟩, h.3⟩, h.4⟩⟩

set_option maxRecDepth 8000 in
theorem asks_statusSql : Asks 'o' statusSql.toList := by
  have hparts : ∃ a b c, statusSql = String.ofList a ++ String.ofList b ++ String.ofList c ∧
      asks 'o' (a ++ b ++ c) :=
    Exists.intro _ (Exists.intro _ (Exists.intro _ (And.intro rfl (by decide +kernel))))
  obtain ⟨a, b, c, hsql, hasks⟩ := hparts
  rw [hsql, String.toList_append, String.toList_append, String.toList_ofList (l := a),
    String.toList_ofList (l := b), String.toList_ofList (l := c)]
  exact asks_iff.1 hasks

set_option maxRecDepth 8000 in
theorem asks_prunableSql : Asks 't' prunableSql.toList := by
  have hparts : ∃ a b c d e f, prunableSql = String.ofList a ++ String.ofList b ++ String.ofList c ++
      String.ofList d ++ String.ofList e ++ String.ofList f ∧ asks 't' (a ++ b ++ c ++ d ++ e ++ f) :=
    Exists.intro _ (Exists.intro _ (Exists.intro _ (Exists.intro _ (Exists.intro _ (Exists.intro _
      (And.intro rfl (by decide +kernel)))))))
  obtain ⟨a, b, c, d, e, f, hsql, hasks⟩ := hparts
  rw [hsql]
  simp only [String.toList_append, String.toList_ofList (l := a), String.toList_ofList (l := b),
    String.toList_ofList (l := c), String.toList_ofList (l := d), String.toList_ofList (l := e),
    String.toList_ofList (l := f)]
  exact asks_iff.1 hasks

/-- A request that is done, over a connection that was not hung up. -/
theorem Line.send_of_done {σ : Type} [Server σ] {l : Line σ} {q : Request} {rows : List ResultRow}
    {affected : Nat} {server : σ} (hopen : l.wire.isOpen = true)
    (h : Server.receive q l.wire.server = (.done rows affected, server)) :
    result (Line.send q) l = (.ok ⟨rows, affected⟩,
      ⟨{ l.wire with server },
        { l.journal with sent := l.journal.sent ++ [(l.wire.number, q)] }⟩) := by
  simp only [Line.send, result, ExceptT.run_mk, StateT.run, hopen, if_true, h]

theorem Direct.send_of_done {σ : Type} [Server σ] {c : Direct σ} {q : Request} {rows : List ResultRow}
    {affected : Nat} {server : σ} (hopen : c.wire.isOpen = true)
    (h : Server.receive q c.wire.server = (.done rows affected, server)) :
    result (Direct.send q) c = (.ok ⟨rows, affected⟩, { c with
      wire := { c.wire with server }
      journal := { c.journal with sent := c.journal.sent ++ [(c.wire.number, q)] } }) := by
  unfold Direct.send
  rw [Act.result_focus, Line.send_of_done hopen h]

/-- A question that is one statement is answered. -/
theorem changes_query {d : Dialect} {m : Catalog} {c : Direct Database} (h : d.Serves m c) {sql : String}
    {seventh : Char} (hasks : Asks seventh sql.toList) (params : List String) :
    ∃ c', result (query sql params) c = (.ok (d.answer (c.catalog m) sql.toList params), c') ∧
      c.Changes m [] c' := by
  have hone := hasks.statements
  have htext : Ordinary sql := by
    unfold Ordinary
    rw [hone]
    intro s hs
    obtain rfl := List.mem_singleton.1 hs
    exact hasks.control
  obtain ⟨d', hheard, hrules, hphase, hwork⟩ := h.heard htext
  have hreceive : Server.receive (.prepared sql params) c.wire.server =
      (.done (d.answer (c.catalog m) sql.toList params) 0, d') := by
    show Database.receive _ c.database = _
    unfold Database.receive
    simp only [hone, List.length_singleton, Nat.lt_irrefl, if_false, hheard, h.rows]
  have hsend := Direct.send_of_done h.fit.isOpen hreceive
  refine ⟨_, Act.result_bind_ok hsend _, rfl, rfl, hrules, hphase, ?_, _, rfl, rfl⟩
  show m.after d'.work = (c.catalog m).after []
  rw [hwork, hone, Catalog.after_append, Catalog.after_cons, Catalog.next_of_none _ hasks.unchanging]
  rfl

/-- The question about one trigger is answered with its row. -/
theorem changes_status {d : Dialect} {m : Catalog} {c : Direct Database} (h : d.Serves m c)
    (pgid : String) {table : String} (htable : '"' ∉ table.toList) :
    ∃ c', result (query statusSql [pgid, Sql.quote table]) c =
        (.ok (((c.catalog m).lookup (table, pgid)).toList.map fun row =>
          [row.comment, some row.mode]), c') ∧ c.Changes m [] c' := by
  obtain ⟨c', hresult, hchanges⟩ := changes_query h asks_statusSql [pgid, Sql.quote table]
  refine ⟨c', hresult.trans ?_, hchanges⟩
  have hnamed : TriggerChange.named (Sql.tokens (Sql.quote table).toList) = some (table, []) := by
    rw [Sql.quote_of_plain htable, (Sql.spells_quoteName table).tokens]
    exact TriggerChange.named_name table []
  unfold Dialect.answer Dialect.statusAnswer
  rw [if_pos rfl]
  simp only [hnamed]
  cases (c.catalog m).lookup (table, pgid) <;> rfl

/-- The question about managed triggers is answered with their rows. -/
theorem changes_managed {d : Dialect} {m : Catalog} {c : Direct Database} (h : d.Serves m c) :
    ∃ c', result (query prunableSql []) c = (.ok ((d.managed (c.catalog m)).map d.managedRow), c') ∧
      c.Changes m [] c' := by
  obtain ⟨c', hresult, hchanges⟩ := changes_query h asks_prunableSql []
  refine ⟨c', hresult.trans ?_, hchanges⟩
  have hother : prunableSql.toList ≠ statusSql.toList := by
    intro h
    have hseventh := asks_prunableSql.seventh
    rw [h, asks_statusSql.seventh] at hseventh
    exact absurd hseventh (by decide)
  unfold Dialect.answer
  rw [if_neg hother, if_pos rfl]

end DeclaredTriggers
