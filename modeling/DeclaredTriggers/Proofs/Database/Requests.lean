import DeclaredTriggers.Proofs.Database.Isolated
import DeclaredTriggers.Proofs.Session.Link

/-!
# Requests to a database

What a request leaves of the transaction of a database, whichever way it goes: if its text controls nothing,
then the phase stays where it is or the transaction has failed, and the reply tells which.

> `phase_receive`: the phase behind such a request follows from whether it was done.
-/

namespace DeclaredTriggers

open Act (result)
open Channel

namespace Database

variable {d : Database}

theorem phase_begun (d : Database) : d.begun.phase = d.phase ∧ d.begun.rules = d.rules := by
  unfold begun
  split <;> exact ⟨rfl, rfl⟩

theorem phase_aborted (d : Database) : d.aborted.phase = d.phase.aborted ∧ d.aborted.rules = d.rules := by
  unfold aborted
  split
  next hidle =>
    rw [hidle]
    exact ⟨rfl, rfl⟩
  next hopen =>
    refine ⟨?_, rfl⟩
    rcases hphase : d.phase with _ | _ | _
    · exact absurd hphase hopen
    · rfl
    · rfl

/-- A text that controls nothing leaves the phase alone if it is done, and fails a transaction if not. -/
theorem phase_heard {sql : String} (h : Ordinary sql) (d : Database) :
    (d.heard sql).2.rules = d.rules ∧
      (d.heard sql).2.phase = if (d.heard sql).1.isNone then d.phase else d.phase.aborted := by
  obtain ⟨hphase, hrules⟩ := d.phase_begun
  unfold heard
  by_cases hfailed : d.begun.phase = .failed
  · -- nothing but nothing is done in a transaction that has failed
    rw [← hphase, ← hrules]
    cases hss : Sql.statements sql.toList with
    | nil => exact ⟨rfl, rfl⟩
    | cons s rest =>
      have hs := h s (hss ▸ List.mem_cons_self)
      have hstep : ∃ refusal, d.begun.step s = (some refusal, d.begun.aborted.ticked) := by
        unfold step accepted? settled
        rw [hs, failedAt_of_ordinary hs]
        dsimp only
        rw [if_pos hfailed]
        cases d.begun.rules.refusal? d.begun.clock d.begun.work s with
        | none => exact ⟨_, rfl⟩
        | some refusal => exact ⟨refusal, rfl⟩
      obtain ⟨refusal, hstep⟩ := hstep
      unfold run
      rw [hstep]
      exact ⟨d.begun.phase_aborted.2, d.begun.phase_aborted.1⟩
  · rcases run_of_ordinary h hfailed with ⟨-, n, hrun⟩ | ⟨refusal, -, n, hrun⟩
    · rw [hrun]
      exact ⟨hrules, hphase⟩
    · rw [hrun]
      refine ⟨d.begun.phase_aborted.2.trans hrules, ?_⟩
      show d.begun.aborted.phase = d.phase.aborted
      rw [d.begun.phase_aborted.1, hphase]

theorem receive_batch (sql : String) (d : Database) :
    receive (.batch sql) d = ((d.heard sql).1.elim (.done [] 0) .refused, (d.heard sql).2) := by
  rw [receive]
  rcases d.heard sql with ⟨_ | refusal, after⟩ <;> rfl

theorem receive_prepared (sql : String) (params : List String) (d : Database) :
    receive (.prepared sql params) d =
      if 1 < (Sql.statements sql.toList).length then (.refused misplaced, d.begun.aborted)
      else ((d.heard sql).1.elim (.done (d.rules.rows d.work sql.toList params) 0) .refused,
        (d.heard sql).2) := by
  rw [receive]
  rcases d.heard sql with ⟨_ | refusal, after⟩ <;> rfl

/-- So does a request with such a text. -/
theorem phase_receive {q : Request} (h : Ordinary q.sql) (d : Database) :
    (receive q d).2.rules = d.rules ∧
      (receive q d).2.phase = if (receive q d).1.isDone then d.phase else d.phase.aborted := by
  have hheard := phase_heard h d
  have hdone : ∀ (refusal? : Option Refusal) (rows : List ResultRow),
      (refusal?.elim (Reply.done rows 0) .refused).isDone = refusal?.isNone := by
    rintro (_ | refusal) rows <;> rfl
  cases q with
  | batch sql =>
    rw [receive_batch, hdone]
    exact hheard
  | prepared sql params =>
    rw [receive_prepared]
    split
    next =>
      refine ⟨d.begun.phase_aborted.2.trans d.phase_begun.2, ?_⟩
      show d.begun.aborted.phase = d.phase.aborted
      rw [d.begun.phase_aborted.1, d.phase_begun.1]
    next =>
      rw [hdone]
      exact hheard

/-- A database does not hang up. -/
theorem receive_ne_closed (q : Request) (d : Database) : (receive q d).1 ≠ .closed := by
  have hreply : ∀ (refusal? : Option Refusal) (rows : List ResultRow),
      refusal?.elim (Reply.done rows 0) .refused ≠ .closed := by
    rintro (_ | refusal) rows <;> nofun
  cases q with
  | batch sql =>
    rw [receive_batch]
    exact hreply _ _
  | prepared sql params =>
    rw [receive_prepared]
    split
    next => nofun
    next => exact hreply _ _

end Database

/-- A request over an open line to a database. -/
theorem Line.result_received {l : Line Database} (h : l.wire.isOpen = true) (q : Request) :
    result (Line.send q) l = ((Database.receive q l.wire.server).1.outcome,
      ⟨{ l.wire with server := (Database.receive q l.wire.server).2 },
        { l.journal with sent := l.journal.sent ++ [(l.wire.number, q)] }⟩) := by
  have hstays := Database.receive_ne_closed q l.wire.server
  rcases hcame : Database.receive q l.wire.server with ⟨_ | _ | _, d⟩
  case closed =>
    rw [hcame] at hstays
    exact absurd rfl hstays
  all_goals
    have hreceived : Server.receive q l.wire.server = _ := hcame
    simp only [Line.send, result, ExceptT.run_mk, StateT.run, h, if_true, hreceived, Reply.outcome]

/-- A question leaves a plain connection outside a transaction. -/
theorem Direct.keeps_query {sql : String} (hsql : Ordinary sql) (params : List String) :
    Act.Keeps (fun c : Direct Database => c.Fit ∧ c.held = false) (query sql params) := by
  rintro c ⟨h, hheld⟩
  have hphase : c.wire.server.phase = .idle := by
    have hphase : c.wire.server.phase = if c.held then .inTransaction else .idle := h.phase
    rwa [hheld] at hphase
  have hidle : (Database.receive (.prepared sql params) c.wire.server).2.phase = .idle := by
    rw [(Database.phase_receive (q := .prepared sql params) hsql c.wire.server).2, hphase]
    split <;> rfl
  have hsent : (result (query sql params) c).2 = (result (Direct.send (.prepared sql params)) c).2 := by
    show (result (do pure (← Direct.send (.prepared sql params)).rows) c).2 = _
    rw [Act.result_bind]
    rcases result (Direct.send (.prepared sql params)) c with ⟨_ | _, _⟩ <;> rfl
  rw [hsent]
  show Direct.Fit { c with toLine := (result (Line.send (.prepared sql params)) c.toLine).2 } ∧ c.held = false
  rw [Line.result_received h.isOpen]
  refine ⟨⟨h.isOpen, ?_⟩, hheld⟩
  show (Database.receive (.prepared sql params) c.wire.server).2.phase = if c.held then _ else _
  rw [hidle, hheld]
  rfl

end DeclaredTriggers
