import DeclaredTriggers.Proofs.Database.Dispatches
import DeclaredTriggers.Proofs.Database.Requests
import DeclaredTriggers.Proofs.Session.Undoings

/-!
# Texts that a client sends under savepoints

A client in a transaction over a connection to a database. What it takes the transaction for is right whatever
it is asked that controls nothing (`Client.Attends`), and a text under a savepoint brings both back to where
they were: it is done and the savepoint is released, or it fails, the client takes the transaction for failed,
and the way back to the savepoint makes it usable again.

> `attends_query`: a question leaves the client in its transaction, perhaps failed.
>
> `Client.takes_isolated`: in a transaction that has not failed, a client takes every text that controls
> nothing, and the transaction has not failed afterwards.

Hooks may change texts and refuse them, as long as they add no control and let savepoints be
(`Client.Fair`).
-/

namespace DeclaredTriggers

open Act (result)
open Sql (Control)

/-! ## What sessions keep -/

namespace Session

/-- Sessions that hooks are shown alike and that give back the same search path. -/
structure Alike (s s' : Session) : Prop where
  ignoring : s'.ignore.sessions = s.ignore.sessions
  searching : s'.path.sessions = s.path.sessions
  initialPath : s'.initialPath = s.initialPath

namespace Alike

variable {s s' : Session}

theorem refl (s : Session) : s.Alike s := ⟨rfl, rfl, rfl⟩

theorem rolledBack (h : s.Alike s') : s.Alike s'.rolledBack where
  ignoring := s'.ignore.rolledBack_sessions.trans h.ignoring
  searching := s'.path.rolledBack_sessions.trans h.searching
  initialPath := h.initialPath

theorem of_status (h : s.Alike s') (status : TransactionStatus) : s.Alike { s' with status } :=
  ⟨h.ignoring, h.searching, h.initialPath⟩

theorem preamble (h : s.Alike s') (o : Overrides) (statement : String) (inBatch : Bool) :
    s.Alike (s'.preamble o statement inBatch).2 := by
  rw [preamble_session]
  split
  next => exact h
  next =>
    exact ⟨(s'.ignore.setAlong_sessions _ _).trans h.ignoring,
      (s'.path.setAlong_sessions _ _).trans h.searching, h.initialPath⟩

theorem pathClosed (h : s.Alike s') (hpath : s.PathClosed) : s'.PathClosed :=
  fun path hinitial => hpath path (h.initialPath ▸ hinitial)

end Alike

/-- While a transaction is open, nothing is kept or rolled back at once. -/
theorem settle_of_open {s : Session} (h : s.status ≠ .idle) (ok : Bool) : s.settle ok = s := if_pos h

end Session

theorem TransactionStatus.failed_ne_idle {st : TransactionStatus} (h : st ≠ .idle) : st.failed ≠ .idle := by
  cases st with
  | idle => exact absurd rfl h
  | inTransaction | inError => nofun

/-- A statement about a savepoint stands alone. -/
theorem AboutSavepoint.solo {lead : String} {n : Nat} {k : Control} (h : AboutSavepoint lead n k)
    (hthrough : Sql.Mode.plain.through lead.toList = some .plain) : Solo (lead ++ savepointName n) k := by
  have hwhole : Sql.Mode.plain.through (lead ++ savepointName n).toList = some .plain := by
    rw [String.toList_append, Sql.Mode.through_append, hthrough]
    exact Sql.through_word fun c hc => isWordCharacter_of_mem_savepointName hc
  exact ⟨h.statements, Sql.splitStatement?_of_segments (Sql.segments_of_through hwhole), h.control⟩

namespace Client

variable {c₀ c c' c'' : Client Database}

/-- The connection of a client, and the journal. -/
def line (c : Client Database) : Line Database := ⟨c.wire, c.journal⟩

/-! ## Clients in a transaction -/

/-- What hooks leave of texts: nothing that controls a transaction of one that does not, and all of a statement
about a savepoint. -/
structure Fair (c : Client Database) : Prop where
  ordinary : ∀ {sql x : String} {params : Nat}, Ordinary sql → c.left sql params = some x → Ordinary x
  savepoints : ∀ (n : Nat), ∀ lead ∈ ["SAVEPOINT ", "RELEASE SAVEPOINT ", "ROLLBACK TO SAVEPOINT "],
    c.left (lead ++ savepointName n) 0 = some (lead ++ savepointName n)

theorem fair_of_hookless (h : c.hook = none) : c.Fair := by
  have hleft : ∀ sql params, c.left sql params = some sql := by
    intro sql params
    unfold left
    rw [h]
    rfl
  refine ⟨fun {sql x params} hsql hx => ?_, fun _ _ _ => hleft _ _⟩
  rw [hleft] at hx
  rwa [← Option.some.inj hx]

/-- The client `c` is `c₀` at some time in the same transaction, which may have failed. It knows which. -/
structure Attends (c₀ c : Client Database) : Prop where
  isOpen : c.wire.isOpen = true
  hook : c.hook = c₀.hook
  tag : c.tag = c₀.tag
  overrides : c.overrides = c₀.overrides
  session : c₀.session.Alike c.session
  rules : c.wire.server.rules = c₀.wire.server.rules
  isBusy : c.session.status ≠ .idle
  tracks : c.session.status.Tracks c.wire.server.phase

/-- A client that learned something. -/
def knowing (f : Session → Session) (c : Client Database) : Client Database :=
  { c with session := f c.session }

theorem learn_knowing (f : Session → Session) (c : Client Database) :
    result (learn f) c = (.ok (), c.knowing f) := rfl

namespace Attends

theorem composed (h : c₀.Attends c) (hc : c₀.Composed) : c.Composed where
  isOpen := h.isOpen
  pathClosed := h.session.pathClosed hc.pathClosed
  registered := h.overrides ▸ hc.registered

/-- The same is left of a text all along. -/
theorem left (h : c₀.Attends c) (sql : String) (params : Nat) : c.left sql params = c₀.left sql params := by
  have hcontext : c.contextOf sql params = c₀.contextOf sql params := by
    unfold contextOf
    rw [h.tag, h.overrides, h.session.ignoring, h.session.searching]
  unfold Client.left
  rw [h.hook, hcontext]

theorem noting (h : c₀.Attends c) (events : List Event) : c₀.Attends (c.noting events) :=
  ⟨h.isOpen, h.hook, h.tag, h.overrides, h.session, h.rules, h.isBusy, h.tracks⟩

theorem knowing (h : c₀.Attends c) {f : Session → Session} (halike : c₀.session.Alike (f c.session))
    (hstatus : (f c.session).status = c.session.status) : c₀.Attends (c.knowing f) where
  isOpen := h.isOpen
  hook := h.hook
  tag := h.tag
  overrides := h.overrides
  session := halike
  rules := h.rules
  isBusy := by
    show (f c.session).status ≠ .idle
    rw [hstatus]
    exact h.isBusy
  tracks := by
    show (f c.session).status.Tracks _
    rw [hstatus]
    exact h.tracks

end Attends

/-- A client that sent a request, which left the database `d`. -/
def receiving (q : Request) (d : Database) (c : Client Database) : Client Database :=
  { c with
    wire := { c.wire with server := d }
    journal := { c.journal with sent := c.journal.sent ++ [(c.wire.number, q)] } }

theorem sendRaw_received (hopen : c.wire.isOpen = true) (q : Request) :
    result (sendRaw q) c = ((Database.receive q c.wire.server).1.outcome,
      c.receiving q (Database.receive q c.wire.server).2) := by
  unfold sendRaw
  rw [Act.result_focus, Line.result_received hopen]
  rfl

theorem sendBatch_received (hopen : c.wire.isOpen = true) (sql : String) :
    result (sendBatch sql) c = (outcomeOf (c.wire.server.heard sql).1,
      c.receiving (.batch sql) (c.wire.server.heard sql).2) := by
  unfold sendBatch
  rw [Act.result_bind, sendRaw_received hopen, Database.receive_batch]
  rcases c.wire.server.heard sql with ⟨_ | refusal, after⟩ <;> rfl

theorem Attends.receiving (h : c₀.Attends c) (q : Request) {d : Database} {f : Session → Session}
    (hrules : d.rules = c.wire.server.rules) (halike : c₀.session.Alike (f c.session))
    (hbusy : (f c.session).status ≠ .idle) (htracks : (f c.session).status.Tracks d.phase) :
    c₀.Attends ((c.receiving q d).knowing f) where
  isOpen := h.isOpen
  hook := h.hook
  tag := h.tag
  overrides := h.overrides
  session := halike
  rules := hrules.trans h.rules
  isBusy := hbusy
  tracks := htracks

/-- An answer that is tracked: what fails the transaction fails it for the client as well. -/
theorem Attends.received (h : c₀.Attends c) {q : Request} (hq : Ordinary q.sql) {f : Session → Session}
    (halike : c₀.session.Alike (f c.session))
    (hstatus : (f c.session).status = if (Database.receive q c.wire.server).1.isDone
      then c.session.status else c.session.status.failed) :
    c₀.Attends ((c.receiving q (Database.receive q c.wire.server).2).knowing f) := by
  obtain ⟨hrules, hphase⟩ := Database.phase_receive hq c.wire.server
  refine h.receiving q hrules halike ?_ ?_
  · rw [hstatus]
    split
    next => exact h.isBusy
    next => exact TransactionStatus.failed_ne_idle h.isBusy
  · rw [hstatus, hphase]
    split
    next => exact h.tracks
    next => exact h.tracks.failed

/-! ## Questions in a transaction -/

/-- What a client sends of its own accord leaves it in its transaction. -/
theorem attends_sendOwn (h : c₀.Attends c) {sql : String} (hsql : Ordinary sql) :
    c₀.Attends (result (sendOwn sql) c).2 := by
  obtain ⟨hrules, hphase⟩ := Database.phase_heard hsql c.wire.server
  unfold sendOwn
  rw [Act.result_bind_ok (Act.result_attempt (sendBatch_received h.isOpen sql))]
  generalize c.wire.server.heard sql = heard at hrules hphase
  obtain ⟨_ | refusal, d⟩ := heard
  · show c₀.Attends (result (learn (·.settle true)) (c.receiving (.batch sql) d)).2
    rw [learn_knowing]
    have hsettle := Session.settle_of_open h.isBusy true
    refine h.receiving (.batch sql) (f := (·.settle true)) hrules ?_ ?_ ?_ <;> rw [hsettle]
    · exact h.session
    · exact h.isBusy
    · rw [hphase]
      exact h.tracks
  · show c₀.Attends (result (do
      learn fun s => (s.track "" false).settle false
      throw (.query (.refused refusal)) : Act (Client Database) Unit) (c.receiving (.batch sql) d)).2
    rw [Act.result_bind_ok (learn_knowing _ _), Act.result_throw]
    have hbusy : c.session.status.failed ≠ .idle := TransactionStatus.failed_ne_idle h.isBusy
    -- what a client sends of its own accord is tracked as a text of no statement
    have htrack : (c.session.track "" false).settle false =
        { c.session with status := c.session.status.failed } := by
      have hnothing : Ordinary "" := fun st hst => nomatch hst
      rw [Session.track_of_ordinary hnothing c.session false]
      exact Session.settle_of_open hbusy false
    refine h.receiving (.batch sql) (f := fun s => (s.track "" false).settle false) hrules ?_ ?_ ?_ <;>
      rw [htrack]
    · exact h.session.of_status _
    · exact hbusy
    · rw [hphase]
      exact h.tracks.failed

theorem attends_sendPreamble (hc : c₀.Composed) (h : c₀.Attends c) (sql : String) :
    c₀.Attends (result (sendPreamble sql) c).2 := by
  unfold sendPreamble
  split
  next =>
    have hkept : c₀.Attends (c.knowing fun s => (s.preamble c.overrides sql false).2) :=
      h.knowing (h.session.preamble _ _ _) (c.session.preamble_status _ _ _).1
    obtain ⟨ds, hannounces, hds⟩ := Session.preamble_announces (h.composed hc).pathClosed
      (h.composed hc).registered sql false
    have hdecide : result (decide fun s o => s.preamble o sql false) c =
        (.ok (c.session.preamble c.overrides sql false).1,
          c.knowing fun s => (s.preamble c.overrides sql false).2) := rfl
    rw [Act.result_bind_ok hdecide]
    split
    next =>
      refine attends_sendOwn hkept ?_
      unfold Ordinary
      rw [hannounces.statements_eq]
      exact hds
    next => exact hkept
  next => exact h

/-- A question leaves a client in its transaction. -/
theorem attends_query (hc : c₀.Composed) (hfair : c₀.Fair) (h : c₀.Attends c) {sql : String}
    (hsql : Ordinary sql) (params : List String) :
    c₀.Attends (result (Channel.query sql params) c).2 := by
  show c₀.Attends (result (prepared sql params Answer.rows fun rows => .rows rows.length) c).2
  obtain ⟨r, events, hinspect, hleft, -⟩ := inspect_noting sql params.length c
  unfold prepared
  cases r with
  | error e =>
    rw [Act.result_bind_error hinspect]
    exact h.noting events
  | ok context =>
    have hexec : Ordinary context.exec := by
      have hsome : c₀.left sql params.length = some context.exec := by
        rw [← h.left, ← hleft]
        rfl
      exact hfair.ordinary hsql hsome
    rw [Act.result_bind_ok hinspect]
    refine Act.of_bind (attends_sendPreamble hc (h.noting events) context.exec) fun _ c₁ h₁ => ?_
    rw [Act.result_bind_ok (Act.result_attempt (sendRaw_received h₁.isOpen _)),
      Act.result_bind_ok (learn_knowing _ _)]
    obtain ⟨events, hconclude⟩ := conclude_noting context (fun rows => .rows rows.length)
      ((Database.receive (.prepared context.exec params) c₁.wire.server).1.outcome.map Answer.rows)
      ((c₁.receiving (.prepared context.exec params)
          (Database.receive (.prepared context.exec params) c₁.wire.server).2).knowing
        (·.track context.exec
          (Database.receive (.prepared context.exec params) c₁.wire.server).1.outcome.toOption.isSome))
    rw [hconclude, Reply.isSome_outcome]
    -- what the client learns is whether the request was done
    refine (h₁.received (q := .prepared context.exec params) hexec ?_ ?_).noting events
    · rw [Session.track_of_ordinary hexec]
      split
      next => exact h₁.session
      next => exact h₁.session.of_status _
    · rw [Session.track_of_ordinary hexec]
      split <;> rfl

/-! ## Batches in a transaction -/

/-- The client `c'` is `c` after some batches. It knows `s` then, and the database at the other end is `d`. -/
structure Sends (c : Client Database) (texts : List String) (s : Session) (d : Database)
    (c' : Client Database) : Prop where
  wire : c'.wire = { c.wire with server := d }
  session : c'.session = s
  hook : c'.hook = c.hook
  tag : c'.tag = c.tag
  overrides : c'.overrides = c.overrides
  sent : c'.journal.sent = c.journal.sent ++ texts.map fun sql => (c.wire.number, Request.batch sql)
  savepoints : c'.journal.savepoints = c.journal.savepoints

theorem Sends.trans {texts texts' : List String} {s s' : Session} {d d' : Database}
    (h : c.Sends texts s d c') (h' : c'.Sends texts' s' d' c'') : c.Sends (texts ++ texts') s' d' c'' where
  wire := by rw [h'.wire, h.wire]
  session := h'.session
  hook := h'.hook.trans h.hook
  tag := h'.tag.trans h.tag
  overrides := h'.overrides.trans h.overrides
  sent := by rw [h'.sent, h.sent, h.wire, List.append_assoc, List.map_append]
  savepoints := h'.savepoints.trans h.savepoints

theorem Attends.sends {texts : List String} {s : Session} {d : Database} (h : c₀.Attends c)
    (hsends : c.Sends texts s d c') (halike : c₀.session.Alike s)
    (hrules : d.rules = c.wire.server.rules) (hbusy : s.status ≠ .idle) (htracks : s.status.Tracks d.phase) :
    c₀.Attends c' where
  isOpen := by rw [hsends.wire]; exact h.isOpen
  hook := hsends.hook.trans h.hook
  tag := hsends.tag.trans h.tag
  overrides := hsends.overrides.trans h.overrides
  session := hsends.session ▸ halike
  rules := by rw [hsends.wire]; exact hrules.trans h.rules
  isBusy := hsends.session ▸ hbusy
  tracks := by rw [hsends.wire, hsends.session]; exact htracks

theorem sends_noting (events : List Event) (c : Client Database) :
    c.Sends [] c.session c.wire.server (c.noting events) where
  wire := rfl
  session := rfl
  hook := rfl
  tag := rfl
  overrides := rfl
  sent := (List.append_nil _).symm
  savepoints := rfl

theorem Sends.knowing {texts : List String} {s : Session} {d : Database} (h : c.Sends texts s d c')
    (f : Session → Session) : c.Sends texts (f s) d (c'.knowing f) where
  wire := h.wire
  session := congrArg f h.session
  hook := h.hook
  tag := h.tag
  overrides := h.overrides
  sent := h.sent
  savepoints := h.savepoints

theorem sends_receiving (sql : String) (d : Database) (c : Client Database) :
    c.Sends [sql] c.session d (c.receiving (.batch sql) d) where
  wire := rfl
  session := rfl
  hook := rfl
  tag := rfl
  overrides := rfl
  sent := rfl
  savepoints := rfl

/-- A batch of which hooks leave something comes to what the database makes of that. -/
theorem sends_batch (hopen : c.wire.isOpen = true) {sql x : String} (hleft : c.left sql 0 = some x) :
    ∃ c', result (Channel.batch sql) c =
        (outcomeOf (c.wire.server.heard (c.session.withPreamble c.overrides x).1).1, c') ∧
      c.Sends [(c.session.withPreamble c.overrides x).1]
        (((c.session.withPreamble c.overrides x).2.track x
            (c.wire.server.heard (c.session.withPreamble c.overrides x).1).1.isNone).settle
          (c.wire.server.heard (c.session.withPreamble c.overrides x).1).1.isNone)
        (c.wire.server.heard (c.session.withPreamble c.overrides x).1).2 c' := by
  obtain ⟨r, events, hinspect, hr, -⟩ := inspect_noting sql 0 c
  rw [hleft] at hr
  obtain ⟨context, hcontext, rfl⟩ := Option.map_eq_some_iff.1 hr
  obtain rfl : r = .ok context := by
    cases r with
    | ok _ => exact congrArg Except.ok (Option.some.inj hcontext)
    | error _ => cases hcontext
  generalize hrewritten : c.session.withPreamble c.overrides context.exec = rewritten
  obtain ⟨full, s⟩ := rewritten
  dsimp only
  have hdecide : result (decide fun s o => s.withPreamble o context.exec) (c.noting events) =
      (.ok full, (c.noting events).knowing fun _ => s) := by
    show (Except.ok (c.session.withPreamble c.overrides context.exec).1,
      (c.noting events).knowing fun _ => (c.session.withPreamble c.overrides context.exec).2) = _
    rw [hrewritten]
  -- the client decides what to send, sends it, and learns how that went
  have hdecided := (sends_noting events c).knowing fun _ => s
  generalize (c.noting events).knowing (fun _ => s) = c₁ at hdecide hdecided
  have hopen₁ : c₁.wire.isOpen = true := by
    rw [hdecided.wire]
    exact hopen
  have hserver₁ : c₁.wire.server = c.wire.server := by rw [hdecided.wire]
  have hsend := sendBatch_received hopen₁ full
  rw [hserver₁] at hsend
  generalize c.wire.server.heard full = heard at hsend
  have hreceived := hdecided.trans (sends_receiving full heard.2 c₁)
  rw [hdecided.session] at hreceived
  generalize c₁.receiving (.batch full) heard.2 = c₂ at hsend hreceived
  have hlearned := hreceived.knowing fun s => (s.track context.exec heard.1.isNone).settle heard.1.isNone
  have hok : (outcomeOf heard.1).toOption.isSome = heard.1.isNone := by cases heard.1 <;> rfl
  obtain ⟨events', hconclude⟩ := conclude_noting context (fun () => .batch) (outcomeOf heard.1)
    (c₂.knowing fun s => (s.track context.exec heard.1.isNone).settle heard.1.isNone)
  have hnoted := hlearned.trans (sends_noting events' _)
  rw [hlearned.session, hlearned.wire] at hnoted
  refine ⟨_, ?_, hnoted⟩
  show result (batch sql) c = _
  unfold batch
  rw [Act.result_bind_ok hinspect, Act.result_bind_ok hdecide, Act.result_bind_ok (Act.result_attempt hsend),
    Act.result_bind_ok (learn_knowing _ _), hok]
  exact hconclude

/-- A batch that hooks refuse is not sent. -/
theorem sends_withheld {sql : String} (hleft : c.left sql 0 = none) :
    ∃ reason c', result (Channel.batch sql) c = (.error (.usage (.abortedByHook reason)), c') ∧
      c.Sends [] c.session c.wire.server c' := by
  obtain ⟨r, events, hinspect, hr, hrefused⟩ := inspect_noting sql 0 c
  rw [hleft] at hr
  cases r with
  | ok context => cases hr
  | error e =>
    obtain ⟨reason, rfl⟩ := hrefused e rfl
    exact ⟨reason, _, Act.result_bind_error hinspect _, rfl, rfl, rfl, rfl, rfl,
      (List.append_nil _).symm, rfl⟩

/-- A text that controls nothing goes out with what is due in front of it. -/
theorem sends_ordinary (hc : c₀.Composed) (hfair : c₀.Fair) (h : c₀.Attends c) {text x : String}
    (htext : Ordinary text) (hleft : c₀.left text 0 = some x) :
    ∃ lead ds s c', Sql.statements (lead ++ x).toList = ds ++ Sql.statements x.toList ∧
      (∀ st ∈ ds, Control.ofStatement? st = none) ∧ Ordinary (lead ++ x) ∧
      result (Channel.batch text) c = (outcomeOf (c.wire.server.heard (lead ++ x)).1, c') ∧
      c.Sends [lead ++ x] s (c.wire.server.heard (lead ++ x)).2 c' ∧ c₀.session.Alike s ∧
      s.status = if (c.wire.server.heard (lead ++ x)).1.isNone then c.session.status
        else c.session.status.failed := by
  have hx := hfair.ordinary htext hleft
  have hcomposed := h.composed hc
  have hfirst : Control.ofStatement? ((Sql.statements x.toList).headD []) = none := by
    cases hss : Sql.statements x.toList with
    | nil => rfl
    | cons st rest => exact hx st (hss ▸ List.mem_cons_self)
  obtain ⟨ds, hannounces, hds⟩ :=
    Session.preamble_announces hcomposed.pathClosed hcomposed.registered x true
  have hstatements : Sql.statements ((c.session.preamble c.overrides x true).1 ++ x).toList =
      ds ++ Sql.statements x.toList := by
    rw [String.toList_append]
    exact hannounces x.toList
  obtain ⟨c', hresult, hsends⟩ := sends_batch h.isOpen ((h.left text 0).trans hleft)
  rw [Session.withPreamble_of_ordinary hfirst] at hresult hsends
  dsimp only at hresult hsends
  have hstatus := (c.session.preamble_status c.overrides x true).1
  have halike := h.session.preamble c.overrides x true
  refine ⟨_, ds, _, c', hstatements, hds, fun st hst => ?_, hresult, hsends, ?_⟩
  · rw [hstatements] at hst
    exact (List.mem_append.1 hst).elim (hds st) (hx st)
  · generalize (c.session.preamble c.overrides x true).2 = s at hstatus halike ⊢
    rw [Session.track_of_ordinary hx]
    cases (c.wire.server.heard ((c.session.preamble c.overrides x true).1 ++ x)).1 with
    | none =>
      show c₀.session.Alike (s.settle true) ∧ (s.settle true).status = c.session.status
      rw [Session.settle_of_open (hstatus ▸ h.isBusy)]
      exact ⟨halike, hstatus⟩
    | some refusal =>
      have hfailed : s.status.failed ≠ .idle := TransactionStatus.failed_ne_idle (hstatus ▸ h.isBusy)
      show c₀.session.Alike (Session.settle { s with status := s.status.failed } false) ∧
        (Session.settle { s with status := s.status.failed } false).status = c.session.status.failed
      rw [Session.settle_of_open (s := { s with status := s.status.failed }) hfailed, hstatus]
      exact ⟨halike.of_status _, rfl⟩

/-! ## Texts under savepoints -/

/-- A statement about a savepoint that the database does. -/
theorem sends_aboutSavepoint (hfair : c₀.Fair) (h : c₀.Attends c) {lead : String} {n : Nat} {k : Control}
    (hlead : lead ∈ ["SAVEPOINT ", "RELEASE SAVEPOINT ", "ROLLBACK TO SAVEPOINT "])
    (habout : AboutSavepoint lead n k) (hthrough : Sql.Mode.plain.through lead.toList = some .plain)
    {d : Database} (hheard : c.wire.server.heard (lead ++ savepointName n) = (none, d)) :
    ∃ c', result (Channel.batch (lead ++ savepointName n)) c = (.ok (), c') ∧
      c.Sends [lead ++ savepointName n] ((c.session.afterControl k).settle true) d c' := by
  have hsolo := habout.solo hthrough
  have hbatch := sends_batch h.isOpen ((h.left _ 0).trans (hfair.savepoints n lead hlead))
  rw [hsolo.withPreamble] at hbatch
  dsimp only at hbatch
  rw [hheard] at hbatch
  dsimp only [Option.isNone_none] at hbatch
  rwa [hsolo.track_done] at hbatch

/-- The way back to the newest savepoint makes the transaction usable again, for the client as well. -/
theorem goesBack (hfair : c₀.Fair) (hspares : c₀.wire.server.rules.SparesSavepoints) (h : c₀.Attends c) {n : Nat}
    {work : Work} {older : List (List Char × Work)} (hphase : c.wire.server.phase ≠ .idle)
    (hsaved : c.wire.server.savepoints = ((savepointName n).toList, work) :: older) :
    ∃ c', result (Channel.batch ("ROLLBACK TO SAVEPOINT " ++ savepointName n)) c = (.ok (), c') ∧
      c₀.Attends c' ∧ c'.session.status = .inTransaction ∧
      c.Sends ["ROLLBACK TO SAVEPOINT " ++ savepointName n]
        { c.session.rolledBack with status := .inTransaction }
        (Database.ticked { c.wire.server with phase := .inTransaction, work }) c' := by
  have hback := Database.heard_of_spared (h.rules ▸ hspares) (aboutSavepoint_rollbackTo n) (.inr (.inr rfl))
    hphase (Database.allowed_rollbackTo hphase hsaved)
  obtain ⟨c', hresult, hsends⟩ :=
    sends_aboutSavepoint hfair h (by decide) (aboutSavepoint_rollbackTo n) (by decide) hback
  have hsettle : (c.session.afterControl .rollbackTo).settle true =
      { c.session.rolledBack with status := .inTransaction } :=
    Session.settle_of_open (show TransactionStatus.inTransaction ≠ .idle by nofun) true
  rw [hsettle] at hsends
  have h' := h.sends hsends (h.session.rolledBack.of_status _) rfl nofun rfl
  exact ⟨c', hresult, h', by rw [hsends.session], hsends⟩

/-- A client that took a number for a savepoint. -/
def numbered (c : Client Database) : Client Database :=
  { c with journal := { c.journal with savepoints := c.journal.savepoints + 1 } }

/-- What a client sent since it took a number for a savepoint. -/
theorem Sends.after {texts : List String} {s : Session} {d : Database} {work : Work}
    (h : c.numbered.Sends texts s d c') (hrules : d.rules = c.wire.server.rules)
    (hphase : d.phase = c.wire.server.phase) (houtside : d.outside = c.wire.server.outside)
    (hwork : d.work = c.wire.server.work ++ work) :
    c.line.After work texts [c.journal.savepoints] c'.line where
  number := by
    show c'.wire.number = _
    rw [h.wire]
    rfl
  rules := by
    show c'.wire.server.rules = _
    rw [h.wire]
    exact hrules
  phase := by
    show c'.wire.server.phase = _
    rw [h.wire]
    exact hphase
  outside _ := by
    show c'.wire.server.outside = _
    rw [h.wire]
    exact houtside
  work := by
    show c'.wire.server.work = _
    rw [h.wire]
    exact hwork
  sent := h.sent
  consecutive := rfl
  savepoints := h.savepoints

/-- The client `c₂` is `c`, in a transaction that has not failed, behind a savepoint for the next text. -/
structure Guards (c₀ c c₂ : Client Database) : Prop where
  phase : c.wire.server.phase = .inTransaction
  attends : c₀.Attends c₂
  sends : c.numbered.Sends ["SAVEPOINT " ++ savepointName c.journal.savepoints] c.session
    (c.wire.server.saved c.journal.savepoints) c₂
  runs : ∀ text, result (runIsolated text) c = result (do
    match ← Act.attempt (Channel.batch text) with
    | .ok () => Channel.batch ("RELEASE SAVEPOINT " ++ savepointName c.journal.savepoints)
    | .error e =>
      match ← Act.attempt (Channel.batch ("ROLLBACK TO SAVEPOINT " ++ savepointName c.journal.savepoints)) with
      | .ok () => throw e
      | .error again =>
        Channel.notify (.savepointRollbackFailed again)
        throw e) c₂

theorem exists_guards (hfair : c₀.Fair) (hspares : c₀.wire.server.rules.SparesSavepoints) (h : c₀.Attends c)
    (hstatus : c.session.status = .inTransaction) : ∃ c₂, c₀.Guards c c₂ := by
  have hphase : c.wire.server.phase = .inTransaction := by
    have htracks := h.tracks
    rwa [hstatus] at htracks
  have hopen : c.wire.server.phase ≠ .idle := by
    rw [hphase]
    nofun
  have h₁ : c₀.Attends c.numbered :=
    ⟨h.isOpen, h.hook, h.tag, h.overrides, h.session, h.rules, h.isBusy, h.tracks⟩
  obtain ⟨c₂, hresult, hsends⟩ := sends_aboutSavepoint hfair h₁ (by decide)
    (aboutSavepoint_savepoint c.journal.savepoints) (by decide)
    (Database.heard_of_spared (h.rules ▸ hspares) (aboutSavepoint_savepoint _) (.inl rfl) hopen
      (Database.allowed_savepoint hphase _))
  rw [show (c.numbered.session.afterControl .savepoint).settle true = c.session from
    Session.settle_of_open h.isBusy true] at hsends
  refine ⟨c₂, hphase, h₁.sends hsends h.session rfl h.isBusy h.tracks, hsends, fun text => ?_⟩
  have hfresh : result (Channel.freshSavepoint (κ := Client Database)) c =
      (.ok c.journal.savepoints, c.numbered) := rfl
  unfold runIsolated
  rw [Act.result_bind_ok (Act.result_get c)]
  show result (if Decidable.decide (c.session.status ≠ .idle) = true then withSavepoint text
    else Channel.batch text) c = _
  rw [if_pos (decide_eq_true h.isBusy)]
  unfold withSavepoint
  exact (Act.result_bind_ok hfresh _).trans (Act.result_bind_ok hresult _)

namespace Guards

variable {c₂ c₃ : Client Database} {text : String} {s : Session}

theorem server (hguards : c₀.Guards c c₂) : c₂.wire.server = c.wire.server.saved c.journal.savepoints := by
  rw [hguards.sends.wire]

/-- A text that is done behind the savepoint leaves its work, and the savepoint is released. -/
theorem kept (hguards : c₀.Guards c c₂) (hspares : c₀.wire.server.rules.SparesSavepoints) (hfair : c₀.Fair)
    {work : Work} {clock : Nat} {full : String} (hdone : result (Channel.batch text) c₂ = (.ok (), c₃))
    (hsends : c₂.Sends [full] s { c.wire.server.saved c.journal.savepoints with
      work := c.wire.server.work ++ work, clock } c₃)
    (halike : c₀.session.Alike s) (hs : s.status = .inTransaction) :
    ∃ c', result (runIsolated text) c = (.ok (), c') ∧ c₀.Attends c' ∧ c'.session.status = .inTransaction ∧
      c.line.After work (["SAVEPOINT " ++ savepointName c.journal.savepoints] ++
        ([full] ++ ["RELEASE SAVEPOINT " ++ savepointName c.journal.savepoints])) [c.journal.savepoints]
        c'.line := by
  have hserver : c₃.wire.server = { c.wire.server.saved c.journal.savepoints with
      work := c.wire.server.work ++ work, clock } := by rw [hsends.wire]
  have hphase : c₃.wire.server.phase = .inTransaction := by
    rw [hserver]
    exact hguards.phase
  have hopen : c₃.wire.server.phase ≠ .idle := by
    rw [hphase]
    nofun
  have h₃ : c₀.Attends c₃ := hguards.attends.sends hsends halike (by rw [hguards.server])
    (by rw [hs]; nofun) (by rw [hs]; exact hguards.phase)
  obtain ⟨c', hrelease, hsends'⟩ := sends_aboutSavepoint hfair h₃ (by decide)
    (aboutSavepoint_release c.journal.savepoints) (by decide)
    (Database.heard_of_spared (h₃.rules ▸ hspares) (aboutSavepoint_release _) (.inr (.inl rfl)) hopen
      (Database.allowed_release hphase (by rw [hserver]; rfl)))
  rw [hserver, show (c₃.session.afterControl .release).settle true = c₃.session from
    Session.settle_of_open h₃.isBusy true] at hsends'
  have hstatus : c₃.session.status = .inTransaction := by rw [hsends.session, hs]
  refine ⟨c', ?_, h₃.sends hsends' h₃.session (by rw [hserver]; rfl) h₃.isBusy (hstatus ▸ hguards.phase),
    by rw [hsends'.session, hstatus], (hguards.sends.trans (hsends.trans hsends')).after rfl rfl rfl rfl⟩
  rw [hguards.runs, Act.result_bind_ok (Act.result_attempt hdone)]
  exact hrelease

/-- Where a text fails behind the savepoint, the way back leads to where the client was. -/
theorem undone (hguards : c₀.Guards c c₂) (hspares : c₀.wire.server.rules.SparesSavepoints) (hfair : c₀.Fair)
    {e : Error} {texts : List String} {d : Database} (hfailed : result (Channel.batch text) c₂ = (.error e, c₃))
    (hsends : c₂.Sends texts s d c₃) (h₃ : c₀.Attends c₃) (hopen : d.phase ≠ .idle)
    (hrules : d.rules = c.wire.server.rules) (houtside : d.outside = c.wire.server.outside)
    (hsaved : d.savepoints =
      ((savepointName c.journal.savepoints).toList, c.wire.server.work) :: c.wire.server.savepoints) :
    ∃ c', result (runIsolated text) c = (.error e, c') ∧ c₀.Attends c' ∧ c'.session.status = .inTransaction ∧
      c.line.After [] (["SAVEPOINT " ++ savepointName c.journal.savepoints] ++
        (texts ++ ["ROLLBACK TO SAVEPOINT " ++ savepointName c.journal.savepoints])) [c.journal.savepoints]
        c'.line := by
  have hserver : c₃.wire.server = d := by rw [hsends.wire]
  obtain ⟨c', hback, h', hstatus, hsends'⟩ :=
    goesBack hfair hspares h₃ (hserver.symm ▸ hopen) (hserver.symm ▸ hsaved)
  rw [hserver] at hsends'
  refine ⟨c', ?_, h', hstatus, (hguards.sends.trans (hsends.trans hsends')).after hrules hguards.phase.symm
    houtside (List.append_nil _).symm⟩
  rw [hguards.runs, Act.result_bind_ok (Act.result_attempt hfailed)]
  exact Act.result_bind_ok (Act.result_attempt hback) _

end Guards

/-- What a client makes of texts: hooks may refuse one, and of what they leave of it the session puts what is
due in front. -/
def passing (c : Client Database) : Passing where
  sends text sql := ∃ x lead ds, c.left text 0 = some x ∧ sql = lead ++ x ∧
    Sql.statements sql.toList = ds ++ Sql.statements x.toList ∧
    ∀ st ∈ ds, Control.ofStatement? st = none
  withholds text e := c.left text 0 = none ∧ ∃ reason, e = .usage (.abortedByHook reason)
  guarded := true

/-- In a transaction that has not failed a client takes every text that controls nothing, and the transaction
has not failed afterwards. -/
theorem takes_isolated (hc : c₀.Composed) (hfair : c₀.Fair) (hspares : c₀.wire.server.rules.SparesSavepoints)
    (h : c₀.Attends c) (hstatus : c.session.status = .inTransaction) {text : String}
    (htext : Ordinary text) : ∃ r c', result (runIsolated text) c = (r, c') ∧
      c₀.Attends c' ∧ c'.session.status = .inTransaction ∧
      c.line.Takes c₀.passing text r c'.line := by
  obtain ⟨c₂, hguards⟩ := exists_guards hfair hspares h hstatus
  have hphase := hguards.phase
  have hopen : c.wire.server.phase ≠ .idle := by
    rw [hphase]
    nofun
  have h₂ := hguards.attends
  cases hleft : c₀.left text 0 with
  | none =>
    -- the database hears of the savepoint only, and the transaction has not failed
    obtain ⟨reason, c₃, hfailed, hsends⟩ := sends_withheld ((h₂.left text 0).trans hleft)
    rw [hguards.server] at hsends
    have h₃ : c₀.Attends c₃ := h₂.sends hsends h₂.session (hguards.server ▸ rfl) h₂.isBusy
      (hguards.server ▸ h₂.tracks)
    obtain ⟨c', hresult, h', hstatus', hafter⟩ := hguards.undone hspares hfair hfailed hsends h₃ hopen rfl rfl rfl
    exact ⟨_, c', hresult, h', hstatus',
      .undone ⟨some c.journal.savepoints, none⟩ _ (.withheld ⟨hleft, reason, rfl⟩) rfl hafter⟩
  | some x =>
    obtain ⟨lead, ds, s, c₃, hstatements, hds, hfull, hresult₃, hsends, halike, hs⟩ :=
      sends_ordinary hc hfair h₂ htext hleft
    have hgoes : c₀.passing.sends text (lead ++ x) := ⟨x, lead, ds, hleft, rfl, hstatements, hds⟩
    rw [hguards.server] at hresult₃ hsends hs
    rw [hguards.sends.session, hstatus] at hs
    rcases Database.heard_of_ordinary (d := c.wire.server.saved c.journal.savepoints) hfull hphase with
      ⟨hverdict, clock, hdone⟩ | ⟨refusal, hverdict, clock, hrefused⟩
    · -- the text is in force with what was due, and the release leaves both
      rw [hdone] at hresult₃ hsends hs
      obtain ⟨c', hresult, h', hstatus', hafter⟩ :=
        hguards.kept hspares hfair hresult₃ hsends halike hs
      exact ⟨_, c', hresult, h', hstatus',
        .kept ⟨some c.journal.savepoints, some (lead ++ x)⟩ ⟨_, _, hgoes, rfl, hverdict⟩ rfl hafter⟩
    · -- the transaction fails, and client and database agree that it does
      have haborted : (c.wire.server.saved c.journal.savepoints).aborted =
          { c.wire.server.saved c.journal.savepoints with phase := .failed, work := c.wire.server.work } :=
        Database.aborted_of_open hopen
      rw [hrefused] at hresult₃ hsends hs
      rw [haborted] at hsends
      have h₃ : c₀.Attends c₃ := h₂.sends hsends halike (by rw [hguards.server])
        (by rw [hs]; nofun) (by rw [hs]; nofun)
      obtain ⟨c', hresult, h', hstatus', hafter⟩ :=
        hguards.undone hspares hfair hresult₃ hsends h₃ nofun rfl rfl rfl
      exact ⟨_, c', hresult, h', hstatus',
        .undone ⟨some c.journal.savepoints, some (lead ++ x)⟩ _ (.refused _ hgoes hverdict) rfl hafter⟩

end Client

end DeclaredTriggers
