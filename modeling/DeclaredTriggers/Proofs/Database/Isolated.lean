import DeclaredTriggers.Proofs.Database.Basic
import DeclaredTriggers.Proofs.Sql.Words

/-!
# Isolated texts

What a text leaves in a database that is sent under a savepoint of its own over a plain connection. The
text is one that controls no transaction (`Ordinary`); the statements around it are known to do what they
say, so only what is refused is left open:

> `withSavepoint_cases`: the text's work is in force, or the text was refused and everything is as it was,
> or a statement around it was refused and the transaction has failed.
-/

namespace DeclaredTriggers

open Act (result)
open Sql (Control Mode)

/-- A text that controls no transaction. -/
def Ordinary (sql : String) : Prop :=
  ∀ s ∈ Sql.statements sql.toList, Control.ofStatement? s = none

instance (sql : String) : Decidable (Ordinary sql) :=
  inferInstanceAs (Decidable (∀ s ∈ Sql.statements sql.toList, _))

/-! ## Savepoints by their names -/

theorem isWordCharacter_of_mem_savepointName {n : Nat} {c : Char}
    (h : c ∈ (savepointName n).toList) : Sql.isWordCharacter c := by
  rw [show savepointName n = "pgtrigger_sp_" ++ n.repr from rfl, String.toList_append,
    Nat.toList_repr, List.mem_append] at h
  rcases h with h | h
  · have hlead : "pgtrigger_sp_".toList.all Sql.isWordCharacter := by decide
    exact List.all_eq_true.1 hlead c h
  · have hdigit := Nat.isDigit_of_mem_toDigits (by decide) (by decide) h
    unfold Sql.isWordCharacter Char.isAlphanum
    rw [hdigit]
    simp

theorem savepointName_ne_nil (n : Nat) : (savepointName n).toList ≠ [] := by
  rw [show savepointName n = "pgtrigger_sp_" ++ n.repr from rfl, String.toList_append]
  exact List.append_ne_nil_of_left_ne_nil (by decide) _

/-- The last word of a text that ends in a blank and a word. -/
theorem Database.lastWord_append {lead w : List Char} (hw : ∀ c ∈ w, Sql.isWordCharacter c) :
    lastWord (lead ++ ' ' :: w) = w := by
  have hblank : ∀ c ∈ w.reverse, (!Text.isBlank c) = true := by
    intro c hc
    rw [(Sql.word_character (hw c (List.mem_reverse.1 hc))).1]
    rfl
  unfold lastWord
  rw [List.reverse_append, List.reverse_cons, List.append_assoc, List.takeWhile_append_of_pos hblank,
    List.singleton_append, List.takeWhile_cons_of_neg (by decide), List.append_nil,
    List.reverse_reverse]

/-- What the database makes of a statement about a savepoint. -/
structure AboutSavepoint (lead : String) (n : Nat) (c : Control) : Prop where
  statements : Sql.statements (lead ++ savepointName n).toList = [(lead ++ savepointName n).toList]
  control : Control.ofStatement? (lead ++ savepointName n).toList = some c
  name : Database.lastWord (lead ++ savepointName n).toList = (savepointName n).toList

theorem AboutSavepoint.of_lead {lead : String} {c : Control} (first : Char) (middle : List Char)
    (n : Nat) (hlead : lead.toList = first :: middle ++ [' ']) (hfirst : Text.isBlank first = false)
    (hthrough : Mode.plain.through lead.toList = some .plain)
    (hcontrol : Control.ofStatement? (lead.toList ++ (savepointName n).toList) = some c) :
    AboutSavepoint lead n c := by
  have hword : ∀ d ∈ (savepointName n).toList, Sql.isWordCharacter d :=
    fun d hd => isWordCharacter_of_mem_savepointName hd
  refine ⟨?_, by rwa [String.toList_append], ?_⟩
  · rw [hlead] at hthrough
    have hone := Sql.statements_word hfirst hthrough hword (savepointName_ne_nil n)
    rwa [String.toList_append, hlead]
  · rw [String.toList_append, hlead, List.append_assoc, List.singleton_append]
    exact Database.lastWord_append hword

theorem aboutSavepoint_savepoint (n : Nat) : AboutSavepoint "SAVEPOINT " n .savepoint :=
  .of_lead 'S' "AVEPOINT".toList n (by decide) (by decide) (by decide) rfl

theorem aboutSavepoint_release (n : Nat) : AboutSavepoint "RELEASE SAVEPOINT " n .release :=
  .of_lead 'R' "ELEASE SAVEPOINT".toList n (by decide) (by decide) (by decide) rfl

theorem aboutSavepoint_rollbackTo (n : Nat) : AboutSavepoint "ROLLBACK TO SAVEPOINT " n .rollbackTo :=
  .of_lead 'R' "OLLBACK TO SAVEPOINT".toList n (by decide) (by decide) (by decide) rfl

/-- Some statement that controls the transaction is refused. -/
def Rules.Meddling (rules : Rules) : Prop :=
  ∃ n work s, Control.ofStatement? s ≠ none ∧ rules.refusal? n work s ≠ none

namespace Database

/-- A statement that controls the transaction was refused, and the transaction has failed. -/
structure Spoils (d : Database) (came : Option Refusal × Database) : Prop where
  meddling : d.rules.Meddling
  refused : came.1 ≠ none
  phase : came.2.phase = .failed
  outside : came.2.outside = d.outside
  rules : came.2.rules = d.rules

/-- A statement about a savepoint that the rules of transactions allow is done, unless it spoils the
transaction. -/
theorem heard_of_aboutSavepoint {d after : Database} {lead : String} {n : Nat} {c : Control}
    (h : AboutSavepoint lead n c) (hc : c ≠ .commit ∧ c ≠ .rollback) (hphase : d.phase ≠ .idle)
    (hallowed : d.controlled? c (savepointName n).toList = some after) :
    d.heard (lead ++ savepointName n) = (none, after.ticked) ∨
      d.Spoils (d.heard (lead ++ savepointName n)) := by
  have hheard : d.heard (lead ++ savepointName n) =
      d.settled (lead ++ savepointName n).toList (some after) := by
    unfold heard
    rw [begun_of_open hphase, h.statements, run_of_control h.control, h.name, hallowed]
  have hfailed : d.failedAt (lead ++ savepointName n).toList =
      { d with phase := .failed, work := d.sheltered } := by
    unfold failedAt aborted
    rw [h.control, if_neg (by simpa using hc), if_neg hphase]
  rcases d.settled_some after (lead ++ savepointName n).toList with
    ⟨-, hdone⟩ | ⟨refusal, hrefused, hrefusal⟩
  · exact .inl (hheard.trans hdone)
  · have hmeddling : d.rules.Meddling := by
      refine ⟨d.clock, d.work, (lead ++ savepointName n).toList, ?_, ?_⟩
      · rw [h.control]
        nofun
      · rw [hrefused]
        nofun
    rw [hheard, hrefusal, hfailed]
    exact .inr ⟨hmeddling, nofun, rfl, rfl, rfl⟩

/-- The database with a savepoint. -/
def saved (d : Database) (n : Nat) : Database :=
  { d with savepoints := ((savepointName n).toList, d.work) :: d.savepoints, clock := d.clock + 1 }

theorem allowed_savepoint {d : Database} (hphase : d.phase = .inTransaction) (n : Nat) :
    d.controlled? .savepoint (savepointName n).toList =
      some { d with savepoints := ((savepointName n).toList, d.work) :: d.savepoints } := by
  unfold controlled?
  rw [hphase]

theorem allowed_release {d : Database} (hphase : d.phase = .inTransaction) {n : Nat} {work : Work}
    {older : List (List Char × Work)}
    (hsaved : d.savepoints = ((savepointName n).toList, work) :: older) :
    d.controlled? .release (savepointName n).toList = some { d with savepoints := older } := by
  unfold controlled? released? savepointsFrom
  rw [hphase, hsaved, List.dropWhile_cons_of_neg (by simp)]

theorem allowed_rollbackTo {d : Database} (hphase : d.phase ≠ .idle) {n : Nat} {work : Work}
    {older : List (List Char × Work)}
    (hsaved : d.savepoints = ((savepointName n).toList, work) :: older) :
    d.controlled? .rollbackTo (savepointName n).toList =
      some { d with phase := .inTransaction, work } := by
  have hback : d.rolledBackTo? (savepointName n).toList =
      some { d with phase := .inTransaction, work } := by
    unfold rolledBackTo? savepointsFrom
    rw [hsaved, List.dropWhile_cons_of_neg (by simp)]
  unfold controlled?
  rw [hback]
  rcases hp : d.phase with _ | _ | _
  · exact absurd hp hphase
  · rfl
  · rfl

theorem heard_savepoint {d : Database} (hphase : d.phase = .inTransaction) (n : Nat) :
    d.heard ("SAVEPOINT " ++ savepointName n) = (none, d.saved n) ∨
      d.Spoils (d.heard ("SAVEPOINT " ++ savepointName n)) :=
  heard_of_aboutSavepoint (aboutSavepoint_savepoint n) ⟨nofun, nofun⟩ (by rw [hphase]; nofun)
    (allowed_savepoint hphase n)

theorem heard_release {d : Database} (hphase : d.phase = .inTransaction) {n : Nat} {work : Work}
    {older : List (List Char × Work)}
    (hsaved : d.savepoints = ((savepointName n).toList, work) :: older) :
    d.heard ("RELEASE SAVEPOINT " ++ savepointName n) =
        (none, ticked { d with savepoints := older }) ∨
      d.Spoils (d.heard ("RELEASE SAVEPOINT " ++ savepointName n)) :=
  heard_of_aboutSavepoint (aboutSavepoint_release n) ⟨nofun, nofun⟩ (by rw [hphase]; nofun)
    (allowed_release hphase hsaved)

theorem heard_rollbackTo {d : Database} (hphase : d.phase ≠ .idle) {n : Nat} {work : Work}
    {older : List (List Char × Work)}
    (hsaved : d.savepoints = ((savepointName n).toList, work) :: older) :
    d.heard ("ROLLBACK TO SAVEPOINT " ++ savepointName n) =
        (none, ticked { d with phase := .inTransaction, work }) ∨
      d.Spoils (d.heard ("ROLLBACK TO SAVEPOINT " ++ savepointName n)) :=
  heard_of_aboutSavepoint (aboutSavepoint_rollbackTo n) ⟨nofun, nofun⟩ hphase
    (allowed_rollbackTo hphase hsaved)

/-- A text that controls nothing, in a transaction that has not failed. -/
theorem heard_of_ordinary {d : Database} {sql : String} (h : Ordinary sql)
    (hphase : d.phase = .inTransaction) :
    (d.rules.verdict d.clock d.work (Sql.statements sql.toList) = none ∧ ∃ n, d.heard sql =
        (none, { d with work := d.work ++ Sql.statements sql.toList, clock := n })) ∨
      ∃ refusal, d.rules.verdict d.clock d.work (Sql.statements sql.toList) = some refusal ∧
        ∃ n, d.heard sql = (some refusal, { d.aborted with clock := n }) := by
  unfold heard
  rw [begun_of_open (by rw [hphase]; nofun)]
  exact run_of_ordinary h (by rw [hphase]; nofun)

end Database

/-! ## Plain connections to a database -/

/-- What comes of a batch that may have been refused. -/
def outcomeOf : Option Refusal → Except Error Unit
  | none => .ok ()
  | some refusal => .error (.query (.refused refusal))

/-- A batch over an open line comes to what the database makes of it. -/
theorem Line.result_batch {l : Line Database} (h : l.wire.isOpen = true) (sql : String) :
    result (Line.send (.batch sql)) l =
      ((outcomeOf (l.wire.server.heard sql).1).map fun _ => ⟨[], 0⟩,
        ⟨{ l.wire with server := (l.wire.server.heard sql).2 },
          { l.journal with sent := l.journal.sent ++ [(l.wire.number, .batch sql)] }⟩) := by
  show (if l.wire.isOpen then _ else _ : Except Error Answer × Line Database) = _
  rw [if_pos h]
  show (match Database.receive (.batch sql) l.wire.server with
    | (reply, server) => _ : Except Error Answer × Line Database) = _
  unfold Database.receive
  rcases l.wire.server.heard sql with ⟨_ | refusal, d⟩ <;> rfl

namespace Direct

/-- The database at the other end. -/
def database (c : Direct Database) : Database := c.wire.server

/-- A connection to a database, handed over with its transaction open and usable or with none open. -/
structure Fit (c : Direct Database) : Prop where
  isOpen : c.wire.isOpen = true
  phase : c.database.phase = if c.held then .inTransaction else .idle

/-- The connection `c'` is `c` after some batches that left the database `d`. It was not hung up. -/
structure Sends (c : Direct Database) (texts : List String) (d : Database) (c' : Direct Database) :
    Prop where
  isOpen : c'.wire.isOpen = true
  held : c'.held = c.held
  number : c'.wire.number = c.wire.number
  database : c'.database = d
  sent : c'.journal.sent = c.journal.sent ++ texts.map fun sql => (c.wire.number, Request.batch sql)

theorem Sends.trans {c c' c'' : Direct Database} {texts texts' : List String} {d d' : Database}
    (h : c.Sends texts d c') (h' : c'.Sends texts' d' c'') : c.Sends (texts ++ texts') d' c'' where
  isOpen := h'.isOpen
  held := h'.held.trans h.held
  number := h'.number.trans h.number
  database := h'.database
  sent := by rw [h'.sent, h.sent, h.number, List.append_assoc, List.map_append]

/-- A notice sends nothing. -/
theorem sends_noted {c : Direct Database} (h : c.wire.isOpen = true) (n : Notice) :
    ∃ c', result (Channel.notify n) c = (.ok (), c') ∧ c.Sends [] c.database c' :=
  ⟨_, rfl, h, rfl, rfl, rfl, (List.append_nil _).symm⟩

/-- A batch comes to what the database makes of it. -/
theorem result_batch {c : Direct Database} (h : c.wire.isOpen = true) (sql : String) :
    result (Channel.batch sql) c = (outcomeOf (c.database.heard sql).1,
      { c with
        wire := { c.wire with server := (c.database.heard sql).2 }
        journal := { c.journal with sent := c.journal.sent ++ [(c.wire.number, .batch sql)] } }) := by
  have hsend : result (Direct.send (.batch sql)) c =
      ((result (Line.send (.batch sql)) c.toLine).1,
        { c with toLine := (result (Line.send (.batch sql)) c.toLine).2 }) := Act.result_focus _ _ _ _
  rw [Line.result_batch h] at hsend
  show result (do let _ ← Direct.send (.batch sql)) c = _
  rw [Act.result_bind, hsend]
  unfold database
  rcases c.wire.server.heard sql with ⟨_ | refusal, d⟩ <;> rfl

theorem sends_batch {c : Direct Database} (h : c.wire.isOpen = true) (sql : String) :
    ∃ c', result (Channel.batch sql) c = (outcomeOf (c.database.heard sql).1, c') ∧
      c.Sends [sql] (c.database.heard sql).2 c' :=
  ⟨_, result_batch h sql, h, rfl, rfl, rfl, rfl⟩

/-- A batch that is done. -/
theorem sends_batch_of_done {c : Direct Database} (h : c.wire.isOpen = true) {sql : String}
    {d : Database} (hdone : c.database.heard sql = (none, d)) :
    ∃ c', result (Channel.batch sql) c = (.ok (), c') ∧ c.Sends [sql] d c' := by
  have hbatch := sends_batch h sql
  rwa [hdone] at hbatch

/-- A batch that is refused. -/
theorem sends_batch_of_refused {c : Direct Database} (h : c.wire.isOpen = true) {sql : String}
    {d : Database} {refusal : Refusal} (hrefused : c.database.heard sql = (some refusal, d)) :
    ∃ c', result (Channel.batch sql) c = (outcomeOf (some refusal), c') ∧ c.Sends [sql] d c' := by
  have hbatch := sends_batch h sql
  rwa [hrefused] at hbatch

end Direct

/-! ## A text under a savepoint -/

/-- What comes of a text under a savepoint of its own, and what is left of the connection. -/
inductive Isolation (c : Direct Database) (text : String) :
    Except Error Unit → Direct Database → Prop where
  /-- The text was done, and its work is in force. -/
  | kept {c' : Direct Database} (n clock clock' : Nat) :
      c.Sends ["SAVEPOINT " ++ savepointName n, text, "RELEASE SAVEPOINT " ++ savepointName n]
        { c.database with
          work := c.database.work ++ Sql.statements text.toList
          clock := clock' } c' →
      c.database.rules.verdict clock c.database.work (Sql.statements text.toList) = none →
      Isolation c text (.ok ()) c'
  /-- The text was refused, and all is as it was. -/
  | undone {c' : Direct Database} {texts : List String} (clock clock' : Nat)
      {savepoints : List (List Char × Work)} (refusal : Refusal) :
      c.Sends texts { c.database with phase := .inTransaction, savepoints, clock := clock' } c' →
      c.database.rules.verdict clock c.database.work (Sql.statements text.toList) = some refusal →
      Isolation c text (outcomeOf (some refusal)) c'
  /-- A statement around the text was refused. -/
  | spoiled {c' : Direct Database} {texts : List String} {d : Database} (e : Error) :
      c.Sends texts d c' → c.database.rules.Meddling → d.phase = .failed →
      d.outside = c.database.outside → d.rules = c.database.rules → Isolation c text (.error e) c'

/-- A batch that spoils the transaction. -/
theorem Direct.sends_batch_of_spoils {c : Direct Database} (h : c.wire.isOpen = true) {sql : String}
    (hspoils : c.database.Spoils (c.database.heard sql)) :
    ∃ e d c', result (Channel.batch sql) c = (.error e, c') ∧ c.Sends [sql] d c' ∧
      d.phase = .failed ∧ d.outside = c.database.outside ∧ d.rules = c.database.rules := by
  obtain ⟨c', hresult, hsends⟩ := sends_batch h sql
  obtain ⟨-, hrefused, hphase, houtside, hrules⟩ := hspoils
  generalize c.database.heard sql = came at hresult hsends hrefused hphase houtside hrules
  obtain ⟨_ | refusal, d⟩ := came
  · exact absurd rfl hrefused
  · exact ⟨_, d, c', hresult, hsends, hphase, houtside, hrules⟩

/-- A savepoint's number is taken without asking the database. -/
theorem sends_freshSavepoint {c : Direct Database} (h : c.wire.isOpen = true) :
    ∃ n c', result Channel.freshSavepoint c = (.ok n, c') ∧ c.Sends [] c.database c' :=
  ⟨_, _, rfl, h, rfl, rfl, rfl, (List.append_nil _).symm⟩

/-- In a transaction, a text under a savepoint goes one of the ways of `Isolation`. -/
theorem withSavepoint_cases {c : Direct Database} (hopen : c.wire.isOpen = true)
    (hphase : c.database.phase = .inTransaction) {text : String} (htext : Ordinary text) :
    ∃ r c', result (withSavepoint text) c = (r, c') ∧ Isolation c text r c' := by
  obtain ⟨n, c₀, hfresh, hsends₀⟩ := sends_freshSavepoint hopen
  have hdatabase₀ := hsends₀.database
  unfold withSavepoint
  rw [Act.result_bind_ok hfresh]
  rcases Database.heard_savepoint (hdatabase₀ ▸ hphase) n with hsave | hspoils
  case inr =>
    obtain ⟨e, d, c', hresult, hsends, hfailed, houtside, hrules⟩ :=
      Direct.sends_batch_of_spoils hsends₀.isOpen hspoils
    exact ⟨_, c', Act.result_bind_error hresult _, .spoiled e (hsends₀.trans hsends)
      (hdatabase₀ ▸ hspoils.meddling) hfailed (hdatabase₀ ▸ houtside) (hdatabase₀ ▸ hrules)⟩
  obtain ⟨c₁, hresult₁, hsends₁⟩ := Direct.sends_batch_of_done hsends₀.isOpen hsave
  rw [Act.result_bind_ok hresult₁]
  replace hsends₁ := hsends₀.trans hsends₁
  rw [hdatabase₀] at hsends₁
  have hdatabase₁ := hsends₁.database
  -- the text, with the savepoint in place
  rcases Database.heard_of_ordinary (d := c₁.database) htext (by rw [hdatabase₁]; exact hphase)
    with ⟨hverdict, clock, hdone⟩ | ⟨refusal, hverdict, clock, hrefused⟩
  · obtain ⟨c₂, hresult₂, hsends₂⟩ := Direct.sends_batch_of_done hsends₁.isOpen hdone
    rw [Act.result_bind_ok (Act.result_attempt hresult₂)]
    rw [hdatabase₁] at hsends₂ hverdict
    have hdatabase₂ := hsends₂.database
    rcases Database.heard_release (d := c₂.database) (by rw [hdatabase₂]; exact hphase)
      (by rw [hdatabase₂]; rfl) with hrelease | hspoils
    · obtain ⟨c₃, hresult₃, hsends₃⟩ := Direct.sends_batch_of_done hsends₂.isOpen hrelease
      rw [hdatabase₂] at hsends₃
      exact ⟨_, c₃, hresult₃, .kept n _ _ (hsends₁.trans (hsends₂.trans hsends₃)) hverdict⟩
    · obtain ⟨e, d, c', hresult, hsends, hfailed, houtside, hrules⟩ :=
        Direct.sends_batch_of_spoils hsends₂.isOpen hspoils
      have hmeddling := hspoils.meddling
      rw [hdatabase₂] at hmeddling houtside hrules
      exact ⟨_, c', hresult, .spoiled e (hsends₁.trans (hsends₂.trans hsends)) hmeddling hfailed
        houtside hrules⟩
  · obtain ⟨c₂, hresult₂, hsends₂⟩ := Direct.sends_batch_of_refused hsends₁.isOpen hrefused
    rw [Act.result_bind_ok (Act.result_attempt hresult₂)]
    rw [hdatabase₁, Database.aborted_of_open (show (c.database.saved n).phase ≠ .idle by
      rw [show (c.database.saved n).phase = _ from hphase]; nofun)] at hsends₂
    rw [hdatabase₁] at hverdict
    have hdatabase₂ := hsends₂.database
    rcases Database.heard_rollbackTo (d := c₂.database) (by rw [hdatabase₂]; nofun)
      (by rw [hdatabase₂]; rfl) with hback | hspoils
    · obtain ⟨c₃, hresult₃, hsends₃⟩ := Direct.sends_batch_of_done hsends₂.isOpen hback
      rw [hdatabase₂] at hsends₃
      exact ⟨_, c₃, Act.result_bind_ok (Act.result_attempt hresult₃) _,
        .undone _ _ refusal (hsends₁.trans (hsends₂.trans hsends₃)) hverdict⟩
    · obtain ⟨again, d, c₃, hresult₃, hsends₃, hfailed, houtside, hrules⟩ :=
        Direct.sends_batch_of_spoils hsends₂.isOpen hspoils
      obtain ⟨c', hnote, hsends'⟩ :=
        Direct.sends_noted hsends₃.isOpen (.savepointRollbackFailed again)
      have hmeddling := hspoils.meddling
      rw [hdatabase₂] at hmeddling houtside hrules
      rw [hsends₃.database] at hsends'
      exact ⟨_, c', (Act.result_bind_ok (Act.result_attempt hresult₃) _).trans
        (Act.result_bind_ok hnote _), .spoiled _ (hsends₁.trans (hsends₂.trans (hsends₃.trans hsends')))
        hmeddling hfailed houtside hrules⟩

/-- In a transaction that has failed, no savepoint can be set, and the text is not sent. -/
theorem withSavepoint_of_failed {c : Direct Database} (hopen : c.wire.isOpen = true)
    (hphase : c.database.phase = .failed) (text : String) :
    ∃ e texts d c', result (withSavepoint text) c = (.error e, c') ∧ c.Sends texts d c' ∧
      d.phase = .failed ∧ d.outside = c.database.outside ∧ d.rules = c.database.rules := by
  obtain ⟨n, c₀, hfresh, hsends₀⟩ := sends_freshSavepoint hopen
  have hheard : ∃ refusal, c.database.heard ("SAVEPOINT " ++ savepointName n) =
      (some refusal, Database.ticked { c.database with phase := .failed, work := c.database.sheltered }) := by
    have habout := aboutSavepoint_savepoint n
    have hallowed : c.database.controlled? .savepoint (savepointName n).toList = none := by
      unfold Database.controlled?
      rw [hphase]
    unfold Database.heard
    rw [Database.begun_of_open (by rw [hphase]; nofun), habout.statements,
      Database.run_of_control habout.control, habout.name, hallowed]
    unfold Database.settled Database.failedAt
    rw [habout.control, if_neg (by nofun), Database.aborted_of_open (by rw [hphase]; nofun)]
    cases c.database.rules.refusal? _ _ _ with
    | none => exact ⟨_, rfl⟩
    | some refusal => exact ⟨refusal, rfl⟩
  obtain ⟨refusal, hheard⟩ := hheard
  rw [← hsends₀.database] at hheard
  obtain ⟨c', hresult, hsends⟩ := Direct.sends_batch_of_refused hsends₀.isOpen hheard
  have hfails : result (withSavepoint text) c =
      (.error (.query (.refused refusal)), c') := by
    unfold withSavepoint
    rw [Act.result_bind_ok hfresh]
    exact Act.result_bind_error hresult _
  have houtside : c₀.database.outside = c.database.outside := by rw [hsends₀.database]
  have hrules : c₀.database.rules = c.database.rules := by rw [hsends₀.database]
  exact ⟨_, _, _, c', hfails, hsends₀.trans hsends, rfl, houtside, hrules⟩

end DeclaredTriggers
