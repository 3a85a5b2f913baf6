import DeclaredTriggers.Connection.Isolation
import DeclaredTriggers.Proofs.Act
import DeclaredTriggers.Proofs.Backend.Phase

/-!
# A database whose work can be undone

The server behind a connection, as far as it is about what statements leave behind: a database is the
statements whose work is in force, in the order in which they were done. What tables and triggers there
are is a function of that, whichever one likes, so work that is undone leaves everything as it was. The
rules are those of transactions:

- A savepoint remembers the work in force, and the way back to it brings that back; releasing it leaves
  the work in the transaction.
- The end of a transaction keeps its work or undoes it, and a failure to commit undoes it.
- A statement that fails leaves nothing behind, nor does the rest of its batch; inside a transaction, that
  waits for its end or for the way back to a savepoint.

Which statements are refused and what is answered to queries is left open (`Rules`).

> `run_of_ordinary`: statements that control nothing are all in force afterwards, or one was refused.
-/

namespace DeclaredTriggers

open Sql (Control)

/-- Statements whose work is in force, the oldest first. -/
abbrev Work := List (List Char)

/-- What is left open about a database. -/
structure Rules where
  /-- Why the `n`-th statement is refused where some work is in force, if it is. -/
  refusal? : Nat → Work → List Char → Option Refusal := fun _ _ _ => none
  /-- What a statement with parameters is answered where some work is in force. -/
  rows : Work → List Char → List String → List ResultRow := fun _ _ _ => []

/-- Ways back are never refused: neither a rollback nor one to a savepoint. -/
def Rules.LeadsBack (rules : Rules) : Prop :=
  ∀ n work s, Control.ofStatement? s = some .rollback ∨ Control.ofStatement? s = some .rollbackTo →
    rules.refusal? n work s = none

/-- Why one of some statements is refused, if all before it are done. -/
def Rules.verdict (rules : Rules) (n : Nat) (work : Work) : List (List Char) → Option Refusal
  | [] => none
  | s :: rest => rules.refusal? n work s <|> rules.verdict (n + 1) (work ++ [s]) rest

/-- Statements that are refused nowhere. -/
theorem Rules.verdict_of_spared {rules : Rules} {ss : List (List Char)}
    (h : ∀ s ∈ ss, ∀ n work, rules.refusal? n work s = none) (n : Nat) (work : Work) :
    rules.verdict n work ss = none := by
  induction ss generalizing n work with
  | nil => rfl
  | cons s rest ih =>
    unfold Rules.verdict
    rw [h s List.mem_cons_self, ih fun t ht => h t (List.mem_cons_of_mem _ ht)]
    rfl

theorem Rules.verdict_singleton (rules : Rules) (n : Nat) (work : Work) (s : List Char) :
    rules.verdict n work [s] = rules.refusal? n work s := by
  unfold Rules.verdict
  cases rules.refusal? n work s <;> rfl

/-- A database behind a connection. -/
structure Database where
  rules : Rules := {}
  phase : Phase := .idle
  work : Work := []
  /-- The work that was in force when the transaction began. -/
  outside : Work := []
  /-- The savepoints of the transaction, the newest first, and the work that was in force at each. -/
  savepoints : List (List Char × Work) := []
  /-- How many statements were received. -/
  clock : Nat := 0

namespace Database

/-- The name that stands at the end of a statement. -/
def lastWord (s : List Char) : List Char := (s.reverse.takeWhile (!Text.isBlank ·)).reverse

/-- The transaction ended and kept its work. -/
def committed (d : Database) : Database :=
  { d with phase := .idle, outside := d.work, savepoints := [] }

/-- The transaction ended and its work is undone. -/
def rolledBack (d : Database) : Database :=
  { d with phase := .idle, work := d.outside, savepoints := [] }

/-- The savepoints up from the newest of a name. -/
def savepointsFrom (d : Database) (name : List Char) : List (List Char × Work) :=
  d.savepoints.dropWhile (·.1 ≠ name)

/-- The transaction as it was at a savepoint, which stays. -/
def rolledBackTo? (d : Database) (name : List Char) : Option Database :=
  match d.savepointsFrom name with
  | [] => none
  | p :: older => some { d with phase := .inTransaction, work := p.2, savepoints := p :: older }

/-- The transaction without a savepoint and those after it. -/
def released? (d : Database) (name : List Char) : Option Database :=
  match d.savepointsFrom name with
  | [] => none
  | _ :: older => some { d with savepoints := older }

/-- The database after a statement that controls the transaction, where the rules allow it. -/
def controlled? (d : Database) (c : Control) (name : List Char) : Option Database :=
  match c, d.phase with
  | .opens, .failed => none
  | .opens, _ => some { d with phase := .inTransaction }
  | .commit, .failed => some d.rolledBack
  | .commit, _ => some d.committed
  | .rollback, _ => some d.rolledBack
  | .savepoint, .inTransaction => some { d with savepoints := (name, d.work) :: d.savepoints }
  | .savepoint, _ => none
  | .rollbackTo, .idle => none
  | .rollbackTo, _ => d.rolledBackTo? name
  | .release, .inTransaction => d.released? name
  | .release, _ => none

/-- The database after a statement, where the rules allow it. -/
def accepted? (d : Database) (s : List Char) : Option Database :=
  match Control.ofStatement? s with
  | some c => d.controlled? c (lastWord s)
  | none => if d.phase = .failed then none else some { d with work := d.work ++ [s] }

/-- The work that is left when the newest part of it is undone. -/
def sheltered (d : Database) : Work :=
  match d.savepoints with
  | [] => d.outside
  | p :: _ => p.2

/-- The database after something went wrong. -/
def aborted (d : Database) : Database :=
  if d.phase = .idle then d.rolledBack else { d with phase := .failed, work := d.sheltered }

/-- The database after a statement that failed. The end of a transaction ends it even so. -/
def failedAt (d : Database) (s : List Char) : Database :=
  if Control.ofStatement? s = some .commit ∨ Control.ofStatement? s = some .rollback then d.rolledBack
  else d.aborted

/-- The database that has received one more statement. -/
def ticked (d : Database) : Database := { d with clock := d.clock + 1 }

/-- Why a statement is refused where the rules do not allow it. -/
def misplaced : Refusal := ⟨"25000", "the statement has no place here", none⟩

/-- A statement that would leave a database, where the rules allow it: why it is refused, if it is, and
the database afterwards. -/
def settled (d : Database) (s : List Char) (after? : Option Database) : Option Refusal × Database :=
  match d.rules.refusal? d.clock d.work s, after? with
  | some refusal, _ => (some refusal, (d.failedAt s).ticked)
  | none, none => (some misplaced, (d.failedAt s).ticked)
  | none, some after => (none, after.ticked)

/-- One statement: why it is refused, if it is, and the database afterwards. -/
def step (d : Database) (s : List Char) : Option Refusal × Database := d.settled s (d.accepted? s)

/-- Statements one after another, up to the first that is refused. -/
def run (d : Database) : List (List Char) → Option Refusal × Database
  | [] => (none, d)
  | s :: rest =>
    match d.step s with
    | (none, after) => after.run rest
    | (some refusal, after) => (some refusal, after)

/-- Without an open transaction, a batch is one of its own. -/
def begun (d : Database) : Database := if d.phase = .idle then { d with outside := d.work } else d

/-- The statements of a text, and what they come to. -/
def heard (d : Database) (sql : String) : Option Refusal × Database :=
  d.begun.run (Sql.statements sql.toList)

/-- A request. A statement with parameters has to come alone. -/
def receive : Request → Database → Reply × Database
  | .batch sql, d =>
    match d.heard sql with
    | (none, after) => (.done [] 0, after)
    | (some refusal, after) => (.refused refusal, after)
  | .prepared sql params, d =>
    if 1 < (Sql.statements sql.toList).length then (.refused misplaced, d.begun.aborted)
    else
      match d.heard sql with
      | (none, after) => (.done (d.rules.rows d.work sql.toList params) 0, after)
      | (some refusal, after) => (.refused refusal, after)

instance : Server Database := ⟨receive⟩

/-! ## Ordinary statements -/

theorem accepted?_of_ordinary {d : Database} {s : List Char} (h : Control.ofStatement? s = none)
    (hphase : d.phase ≠ .failed) : d.accepted? s = some { d with work := d.work ++ [s] } := by
  unfold accepted?
  rw [h]
  exact if_neg hphase

theorem failedAt_of_ordinary {d : Database} {s : List Char} (h : Control.ofStatement? s = none) :
    d.failedAt s = d.aborted := by
  unfold failedAt
  rw [h]
  exact if_neg (by nofun)

theorem aborted_of_open {d : Database} (h : d.phase ≠ .idle) :
    d.aborted = { d with phase := .failed, work := d.sheltered } := if_neg h

/-- What goes wrong undoes the work, however much of it was done. -/
theorem aborted_of_work (d : Database) (work : Work) (n : Nat) :
    { d with work, clock := n }.aborted = { d.aborted with clock := n } := by
  unfold aborted
  split <;> rfl

/-- Statements that control nothing are all in force afterwards, or one of them was refused. -/
theorem run_of_ordinary {d : Database} {ss : List (List Char)}
    (hss : ∀ s ∈ ss, Control.ofStatement? s = none) (hphase : d.phase ≠ .failed) :
    (d.rules.verdict d.clock d.work ss = none ∧
        ∃ n, d.run ss = (none, { d with work := d.work ++ ss, clock := n })) ∨
      ∃ refusal, d.rules.verdict d.clock d.work ss = some refusal ∧
        ∃ n, d.run ss = (some refusal, { d.aborted with clock := n }) := by
  induction ss generalizing d with
  | nil =>
    refine .inl ⟨rfl, d.clock, ?_⟩
    rw [List.append_nil]
    rfl
  | cons s rest ih =>
    have hs := hss s List.mem_cons_self
    have hstep : d.step s = match d.rules.refusal? d.clock d.work s with
        | some refusal => (some refusal, { d.aborted with clock := d.clock + 1 })
        | none => (none, { d with work := d.work ++ [s], clock := d.clock + 1 }) := by
      unfold step settled
      rw [accepted?_of_ordinary hs hphase, failedAt_of_ordinary hs]
      cases d.rules.refusal? d.clock d.work s with
      | none => rfl
      | some refusal =>
        have hclock : d.aborted.clock = d.clock := by
          unfold aborted
          split <;> rfl
        simp only [ticked, hclock]
    unfold run Rules.verdict
    rw [hstep]
    cases hrefusal : d.rules.refusal? d.clock d.work s with
    | some refusal => exact .inr ⟨refusal, rfl, d.clock + 1, rfl⟩
    | none =>
      rcases ih (d := { d with work := d.work ++ [s], clock := d.clock + 1 })
        (fun t ht => hss t (List.mem_cons_of_mem _ ht)) hphase with
        ⟨hverdict, n, hrun⟩ | ⟨refusal, hverdict, n, hrun⟩
      · refine .inl ⟨hverdict, n, hrun.trans ?_⟩
        rw [List.append_assoc]
        rfl
      · refine .inr ⟨refusal, hverdict, n, hrun.trans ?_⟩
        rw [aborted_of_work]

/-! ## Control statements -/

/-- A statement that controls the transaction, and comes alone. -/
theorem run_of_control {d : Database} {s : List Char} {c : Control}
    (h : Control.ofStatement? s = some c) :
    d.run [s] = d.settled s (d.controlled? c (lastWord s)) := by
  have haccepted : d.accepted? s = d.controlled? c (lastWord s) := by
    unfold accepted?
    rw [h]
  unfold run step
  rw [haccepted]
  rcases d.settled s (d.controlled? c (lastWord s)) with ⟨_ | refusal, after⟩ <;> rfl

/-- A statement that is allowed and not refused, or one that is refused. -/
theorem settled_some (d after : Database) (s : List Char) :
    (d.rules.refusal? d.clock d.work s = none ∧ d.settled s (some after) = (none, after.ticked)) ∨
      ∃ refusal, d.rules.refusal? d.clock d.work s = some refusal ∧
        d.settled s (some after) = (some refusal, (d.failedAt s).ticked) := by
  unfold settled
  cases d.rules.refusal? d.clock d.work s with
  | none => exact .inl ⟨rfl, rfl⟩
  | some refusal => exact .inr ⟨refusal, rfl, rfl⟩

theorem begun_of_open {d : Database} (h : d.phase ≠ .idle) : d.begun = d := if_neg h

/-- A text that is one statement, and controls the transaction. -/
theorem heard_of_control {d : Database} {sql : String} {c : Control}
    (hstatements : Sql.statements sql.toList = [sql.toList])
    (hcontrol : Control.ofStatement? sql.toList = some c) :
    d.heard sql = d.begun.settled sql.toList (d.begun.controlled? c (lastWord sql.toList)) := by
  unfold heard
  rw [hstatements, run_of_control hcontrol]

/-- A beginning opens a transaction or changes nothing. -/
theorem heard_begin {d : Database} (hphase : d.phase = .idle) :
    (∃ n, d.heard "BEGIN" =
        (none, { d with phase := .inTransaction, outside := d.work, clock := n })) ∨
      ∃ refusal after, d.heard "BEGIN" = (some refusal, after) ∧ after.phase = .idle ∧
        after.work = d.work := by
  have hbegun : d.begun = { d with outside := d.work } := if_pos hphase
  have hallowed : d.begun.controlled? .opens (lastWord "BEGIN".toList) =
      some { d.begun with phase := .inTransaction } := by
    rw [hbegun]
    unfold controlled?
    rw [hphase]
  rw [heard_of_control (c := .opens) (by decide) (by decide), hallowed]
  rcases d.begun.settled_some { d.begun with phase := .inTransaction } "BEGIN".toList with
    ⟨-, hdone⟩ | ⟨refusal, -, hrefused⟩
  · refine .inl ⟨d.clock + 1, ?_⟩
    rw [hdone, hbegun]
    rfl
  · refine .inr ⟨refusal, _, hrefused, ?_⟩
    have hfailed : d.begun.failedAt "BEGIN".toList = d.begun.rolledBack := by
      unfold failedAt aborted
      rw [if_neg (by decide), if_pos (by rw [hbegun]; exact hphase)]
    rw [hfailed, hbegun]
    exact ⟨rfl, rfl⟩

/-- A commit that is refused undoes the work of the transaction. -/
theorem heard_commit {d after : Database} {refusal : Refusal} (hphase : d.phase ≠ .idle)
    (h : d.heard "COMMIT" = (some refusal, after)) :
    after.phase = .idle ∧ after.work = d.outside := by
  have hallowed : ∃ a, d.controlled? .commit (lastWord "COMMIT".toList) = some a := by
    unfold controlled?
    rcases d.phase with _ | _ | _ <;> exact ⟨_, rfl⟩
  obtain ⟨a, ha⟩ := hallowed
  rw [heard_of_control (c := .commit) (by decide) (by decide), begun_of_open hphase, ha] at h
  rcases d.settled_some a "COMMIT".toList with ⟨-, hdone⟩ | ⟨refusal', -, hrefused⟩
  · cases hdone.symm.trans h
  · obtain ⟨-, rfl⟩ := Prod.mk.inj (hrefused.symm.trans h)
    have hfailed : d.failedAt "COMMIT".toList = d.rolledBack := if_pos (by decide)
    rw [hfailed]
    exact ⟨rfl, rfl⟩

/-- A rollback undoes the work of the transaction, unless it is refused. -/
theorem heard_rollback {d : Database} (hphase : d.phase ≠ .idle)
    (hback : d.rules.LeadsBack) : d.heard "ROLLBACK" = (none, d.rolledBack.ticked) := by
  have hallowed : d.controlled? .rollback (lastWord "ROLLBACK".toList) = some d.rolledBack := by
    unfold controlled?
    rfl
  rw [heard_of_control (c := .rollback) (by decide) (by decide), begun_of_open hphase, hallowed]
  unfold settled
  rw [hback _ _ _ (.inl (by decide))]

end Database

end DeclaredTriggers
