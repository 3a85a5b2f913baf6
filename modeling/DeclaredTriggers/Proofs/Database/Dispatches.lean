import DeclaredTriggers.Proofs.Database.Isolated

/-!
# Dispatches

What goes out over a line for one text, and what it leaves. A text may go out under a savepoint of its own
(`Dispatch.number`), and it may be withheld, since hooks can refuse it. `Line.After` puts dispatches together:
the work that they left in force, the batches that they sent, and the numbers of their savepoints, which are
consecutive. So each of these is closed once, as long as no text closes one by itself
(`countP_closes_flatMap`).

A connection takes a text if it either leaves the text's work in force or leaves everything as it was
(`Line.Takes`).

> `Direct.takes_isolated`: a plain connection outside a transaction takes every text that controls nothing.
-/

namespace DeclaredTriggers

open Act (result)
open Sql (Control)

/-- What goes out for one text. -/
structure Dispatch where
  /-- The number of the savepoint around the text, if there is one. -/
  number : Option Nat
  /-- What is sent of the text, unless it is withheld. -/
  text : Option String

namespace Dispatch

/-- The batches of a dispatch whose savepoint is closed by some words. -/
def batches (d : Dispatch) (closing : String) : List String :=
  (d.number.map fun n => "SAVEPOINT " ++ savepointName n).toList ++ d.text.toList ++
    (d.number.map fun n => closing ++ savepointName n).toList

/-- What goes out where the text is done. -/
def kept (d : Dispatch) : List String := d.batches "RELEASE SAVEPOINT "

/-- What goes out where it is not. -/
def undone (d : Dispatch) : List String := d.batches "ROLLBACK TO SAVEPOINT "

/-- What the text does. -/
def work (d : Dispatch) : Work := d.text.elim [] fun sql => Sql.statements sql.toList

end Dispatch

/-! ## Savepoints that are closed -/

theorem savepointName_inj {n m : Nat} (h : savepointName n = savepointName m) : n = m := by
  have hnames := congrArg String.toList h
  rw [show savepointName n = "pgtrigger_sp_" ++ n.repr from rfl,
    show savepointName m = "pgtrigger_sp_" ++ m.repr from rfl, String.toList_append,
    String.toList_append, Nat.toList_repr, Nat.toList_repr] at hnames
  -- numbers are read back from their digits
  have hdigits := congrArg (Nat.ofDigitChars 10 · 0) (List.append_cancel_left hnames)
  have hread : ∀ k, Nat.ofDigitChars 10 (Nat.toDigits 10 k) 0 = k :=
    fun k => Nat.ofDigitChars_toDigits (by decide) (by decide)
  rwa [hread, hread] at hdigits

/-- A statement about a savepoint says what it does, and to which. -/
theorem AboutSavepoint.inj {lead lead' : String} {n m : Nat} {c c' : Control}
    (h : AboutSavepoint lead n c) (h' : AboutSavepoint lead' m c')
    (hsame : lead ++ savepointName n = lead' ++ savepointName m) : n = m ∧ c = c' := by
  have hname := h.name
  have hcontrol := h.control
  rw [hsame, h'.name] at hname
  rw [hsame, h'.control] at hcontrol
  exact ⟨(savepointName_inj (String.toList_inj.1 hname)).symm, (Option.some.inj hcontrol).symm⟩

/-- Whether a batch releases a savepoint or goes back to it. -/
def closes (n : Nat) (sql : String) : Bool :=
  sql = "RELEASE SAVEPOINT " ++ savepointName n || sql = "ROLLBACK TO SAVEPOINT " ++ savepointName n

theorem closes_savepoint (n m : Nat) : closes n ("SAVEPOINT " ++ savepointName m) = false := by
  have hrelease : "SAVEPOINT " ++ savepointName m ≠ "RELEASE SAVEPOINT " ++ savepointName n :=
    fun h => nomatch ((aboutSavepoint_savepoint m).inj (aboutSavepoint_release n) h).2
  have hback : "SAVEPOINT " ++ savepointName m ≠ "ROLLBACK TO SAVEPOINT " ++ savepointName n :=
    fun h => nomatch ((aboutSavepoint_savepoint m).inj (aboutSavepoint_rollbackTo n) h).2
  unfold closes
  rw [decide_eq_false hrelease, decide_eq_false hback]
  rfl

theorem closes_release (n m : Nat) :
    closes n ("RELEASE SAVEPOINT " ++ savepointName m) = decide (m = n) := by
  have hback : "RELEASE SAVEPOINT " ++ savepointName m ≠ "ROLLBACK TO SAVEPOINT " ++ savepointName n :=
    fun h => nomatch ((aboutSavepoint_release m).inj (aboutSavepoint_rollbackTo n) h).2
  unfold closes
  rw [decide_eq_false hback, Bool.or_false]
  exact decide_eq_decide.2
    ⟨fun h => ((aboutSavepoint_release m).inj (aboutSavepoint_release n) h).1, fun h => by rw [h]⟩

theorem closes_rollbackTo (n m : Nat) :
    closes n ("ROLLBACK TO SAVEPOINT " ++ savepointName m) = decide (m = n) := by
  have hrelease : "ROLLBACK TO SAVEPOINT " ++ savepointName m ≠ "RELEASE SAVEPOINT " ++ savepointName n :=
    fun h => nomatch ((aboutSavepoint_rollbackTo m).inj (aboutSavepoint_release n) h).2
  unfold closes
  rw [decide_eq_false hrelease, Bool.false_or]
  exact decide_eq_decide.2
    ⟨fun h => ((aboutSavepoint_rollbackTo m).inj (aboutSavepoint_rollbackTo n) h).1, fun h => by rw [h]⟩

/-- A text that controls nothing closes no savepoint. -/
theorem closes_of_ordinary {sql : String} (h : Ordinary sql) (n : Nat) : closes n sql = false := by
  have hnot : ∀ {lead : String} {c : Control}, AboutSavepoint lead n c → sql ≠ lead ++ savepointName n := by
    rintro lead c habout rfl
    have hnone := h _ (by rw [habout.statements]; exact List.mem_singleton_self _)
    rw [habout.control] at hnone
    cases hnone
  have hrelease := hnot (aboutSavepoint_release n)
  have hback := hnot (aboutSavepoint_rollbackTo n)
  simp [closes, hrelease, hback]

namespace Dispatch

/-- The text controls nothing. -/
def Ordinary (d : Dispatch) : Prop := ∀ sql, d.text = some sql → DeclaredTriggers.Ordinary sql

variable {d : Dispatch}

theorem countP_closes (hd : d.Ordinary) {n : Nat} {closing : String}
    (hclosing : ∀ m, closes n (closing ++ savepointName m) = decide (m = n)) :
    (d.batches closing).countP (closes n) = d.number.toList.count n := by
  have htext : d.text.toList.countP (closes n) = 0 := by
    refine List.countP_eq_zero.2 fun sql hsql => ?_
    rw [closes_of_ordinary (hd sql (Option.mem_toList.1 hsql))]
    nofun
  unfold batches
  rw [List.countP_append, List.countP_append, htext]
  cases d.number with
  | none => rfl
  | some m =>
    simp only [Option.map_some, Option.toList_some, List.countP_singleton, List.count_singleton,
      closes_savepoint, hclosing]
    simp

end Dispatch

/-- Savepoints are closed as often as they were set. -/
theorem countP_closes_flatMap {ds : List Dispatch} (hds : ∀ d ∈ ds, d.Ordinary) {n : Nat} {closing : String}
    (hclosing : ∀ m, closes n (closing ++ savepointName m) = decide (m = n)) :
    (ds.flatMap (·.batches closing)).countP (closes n) = (ds.flatMap (·.number.toList)).count n := by
  induction ds with
  | nil => rfl
  | cons d ds ih =>
    rw [List.flatMap_cons, List.flatMap_cons, List.countP_append, List.count_append,
      Dispatch.countP_closes (hds d List.mem_cons_self) hclosing, ih fun d hd => hds d (List.mem_cons_of_mem _ hd)]

/-- No statement about a savepoint is refused. -/
def Rules.SparesSavepoints (rules : Rules) : Prop :=
  ∀ clock work s c, Control.ofStatement? s = some c → c = .savepoint ∨ c = .release ∨ c = .rollbackTo →
    rules.refusal? clock work s = none

/-- A statement about a savepoint that has its place is done. -/
theorem Database.heard_of_spared {d after : Database} (hspares : d.rules.SparesSavepoints) {lead : String}
    {n : Nat} {c : Control} (h : AboutSavepoint lead n c) (hc : c = .savepoint ∨ c = .release ∨ c = .rollbackTo)
    (hphase : d.phase ≠ .idle) (hallowed : d.controlled? c (savepointName n).toList = some after) :
    d.heard (lead ++ savepointName n) = (none, after.ticked) := by
  unfold heard
  rw [begun_of_open hphase, h.statements, run_of_control h.control, h.name, hallowed]
  unfold settled
  rw [hspares _ _ _ _ h.control hc]

/-! ## Lines after dispatches -/

/-- The line `l'` is `l` after some batches. They left some work in force and set savepoints of some numbers,
and the transaction is where it was. -/
structure Line.After (l : Line Database) (work : Work) (batches : List String) (numbers : List Nat)
    (l' : Line Database) : Prop where
  number : l'.wire.number = l.wire.number
  rules : l'.wire.server.rules = l.wire.server.rules
  phase : l'.wire.server.phase = l.wire.server.phase
  outside : l.wire.server.phase ≠ .idle → l'.wire.server.outside = l.wire.server.outside
  work : l'.wire.server.work = l.wire.server.work ++ work
  sent : l'.journal.sent = l.journal.sent ++ batches.map fun sql => (l.wire.number, .batch sql)
  consecutive : numbers = List.range' l.journal.savepoints numbers.length
  savepoints : l'.journal.savepoints = l.journal.savepoints + numbers.length

namespace Line.After

variable {l l' l'' : Line Database} {work work' : Work} {batches batches' : List String}
  {numbers numbers' : List Nat}

/-- A line on which nothing changed but events. -/
theorem noted (hwire : l'.wire = l.wire) (hsent : l'.journal.sent = l.journal.sent)
    (hsavepoints : l'.journal.savepoints = l.journal.savepoints) : l.After [] [] [] l' where
  number := by rw [hwire]
  rules := by rw [hwire]
  phase := by rw [hwire]
  outside _ := by rw [hwire]
  work := by rw [hwire, List.append_nil]
  sent := by rw [hsent]; exact (List.append_nil _).symm
  consecutive := rfl
  savepoints := hsavepoints

theorem refl (l : Line Database) : l.After [] [] [] l := noted rfl rfl rfl

theorem trans (h : l.After work batches numbers l') (h' : l'.After work' batches' numbers' l'') :
    l.After (work ++ work') (batches ++ batches') (numbers ++ numbers') l'' where
  number := h'.number.trans h.number
  rules := h'.rules.trans h.rules
  phase := h'.phase.trans h.phase
  outside hopen := (h'.outside (h.phase ▸ hopen)).trans (h.outside hopen)
  work := by rw [h'.work, h.work, List.append_assoc]
  sent := by rw [h'.sent, h.sent, h.number, List.append_assoc, List.map_append]
  consecutive := by
    rw [List.length_append, ← List.range'_append_1, ← h.consecutive, ← h.savepoints, ← h'.consecutive]
  savepoints := by rw [h'.savepoints, h.savepoints, List.length_append, Nat.add_assoc]

theorem nodup (h : l.After work batches numbers l') : numbers.Nodup := by
  rw [h.consecutive]
  exact List.nodup_range'

end Line.After

/-! ## Texts that are taken -/

/-- What becomes of texts on their way to the server. -/
structure Passing where
  /-- What may be sent for a text. -/
  sends : String → String → Prop
  /-- With what error a text may be withheld. -/
  withholds : String → Error → Prop
  /-- Whether a savepoint goes around each text. -/
  guarded : Bool

namespace Passing

/-- Outside a transaction, a plain connection sends a text as it is. -/
def plain : Passing where
  sends text sql := sql = text
  withholds _ _ := False
  guarded := false

/-- A text goes out and is done. -/
def Keeps (P : Passing) (rules : Rules) (work : Work) (text : String) (d : Dispatch) : Prop :=
  ∃ sql clock, P.sends text sql ∧ d.text = some sql ∧
    rules.verdict clock work (Sql.statements sql.toList) = none

/-- Why a text fails, and what goes out for it. -/
inductive Fails (P : Passing) (rules : Rules) (work : Work) (text : String) : Dispatch → Error → Prop where
  | refused {number : Option Nat} {sql : String} {refusal : Refusal} (clock : Nat) :
      P.sends text sql → rules.verdict clock work (Sql.statements sql.toList) = some refusal →
        Fails P rules work text ⟨number, some sql⟩ (.query (.refused refusal))
  | withheld {number : Option Nat} {e : Error} :
      P.withholds text e → Fails P rules work text ⟨number, none⟩ e

end Passing

/-- A text was sent, and its work is in force, or it failed, and all is as it was. -/
inductive Line.Takes (P : Passing) (l : Line Database) (text : String) :
    Except Error Unit → Line Database → Prop where
  | kept {l' : Line Database} (d : Dispatch) : P.Keeps l.wire.server.rules l.wire.server.work text d →
      d.number.isSome = P.guarded → l.After d.work d.kept d.number.toList l' → Takes P l text (.ok ()) l'
  | undone {l' : Line Database} (d : Dispatch) (e : Error) :
      P.Fails l.wire.server.rules l.wire.server.work text d e → d.number.isSome = P.guarded →
        l.After [] d.undone d.number.toList l' → Takes P l text (.error e) l'

/-- Outside a transaction the server does a batch or undoes it by itself. -/
theorem Direct.takes_isolated {c : Direct Database} (h : c.Fit) (hheld : c.held = false) {text : String}
    (htext : Ordinary text) : ∃ r c', result (runIsolated text) c = (r, c') ∧
      c'.Fit ∧ c'.held = false ∧ c.toLine.Takes .plain text r c'.toLine := by
  have hphase : c.database.phase = .idle := by
    rw [h.phase, hheld]
    rfl
  have hbegun : c.database.begun = { c.database with outside := c.database.work } := if_pos hphase
  have hisolated : result (runIsolated text) c = result (Channel.batch text) c := by
    unfold runIsolated
    rw [Act.result_bind_ok (Act.result_get c)]
    show result (if c.held then withSavepoint text else Channel.batch text) c = _
    rw [hheld]
    rfl
  rw [hisolated, Direct.result_batch h.isOpen]
  unfold Database.heard
  rw [hbegun]
  rcases Database.run_of_ordinary (d := { c.database with outside := c.database.work }) htext
    (by rw [hphase]; nofun) with ⟨hverdict, clock, hdone⟩ | ⟨refusal, hverdict, clock, hrefused⟩
  · rw [hdone]
    refine ⟨_, _, rfl, ⟨h.isOpen, h.phase⟩, hheld, ?_⟩
    refine .kept ⟨none, some text⟩ ⟨text, _, rfl, rfl, hverdict⟩ rfl ?_
    exact ⟨rfl, rfl, rfl, fun hopen => absurd hphase hopen, rfl, rfl, rfl, rfl⟩
  · -- what was done of the batch is undone with it
    have haborted : ({ c.database with outside := c.database.work } : Database).aborted =
        { c.database with outside := c.database.work, phase := .idle, savepoints := [] } := if_pos hphase
    rw [hrefused, haborted]
    refine ⟨_, _, rfl, ⟨h.isOpen, ?_⟩, hheld, ?_⟩
    · show Phase.idle = if c.held then _ else _
      rw [hheld]
      rfl
    · refine .undone ⟨none, some text⟩ _ (.refused _ rfl hverdict) rfl ?_
      exact ⟨rfl, rfl, hphase.symm, fun hopen => absurd hphase hopen, (List.append_nil _).symm, rfl, rfl, rfl⟩

end DeclaredTriggers
