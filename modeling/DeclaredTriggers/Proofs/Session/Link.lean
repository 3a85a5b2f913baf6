import DeclaredTriggers.Proofs.Act
import DeclaredTriggers.Proofs.Backend.Phase
import DeclaredTriggers.Session.Scope

/-!
# What a client does to its connection

A client shows its statements to hooks, leaves events and hands errors on; none of this matters to
what it knows of its connection, nor to the server at the other end. `Link` is these two things, and
this file says what each piece of a client's work does to them, as a function:

> `acts_batch`: a batch that the hooks leave as `x` does what `Link.batch` does with `x`.
>
> `acts_prepared`: a statement with parameters does what `Link.prepared` does.

`Acts act c ok l` is the form of all these lemmas: the work `act` of the client `c` succeeds exactly
if `ok`, leaves the link `l`, and changes nothing else but the journal. The server is a
transactional one, so it does not hang up.
-/

namespace DeclaredTriggers

open Act (result result_bind)

/-- What is known of a connection, and the server at its other end. -/
structure Link (σ : Type) where
  session : Session
  server : σ

/-- What a reply comes to. -/
def Reply.outcome : Reply → Except Error Answer
  | .done rows affected => .ok ⟨rows, affected⟩
  | .refused refusal => .error (.query (.refused refusal))
  | .closed => .error (.connection .closed)

/-- The search path that a reply names. -/
def Reply.path? : Reply → Option String
  | .done (row :: _) _ => (textAt row 0).toOption
  | .done [] _ | .refused _ | .closed => none

theorem Reply.isSome_outcome (r : Reply) : r.outcome.toOption.isSome = r.isDone := by
  cases r <;> rfl

namespace Link

variable {σ : Type} [Server σ]

/-- A link about which something was learned. -/
def learn (f : Session → Session) (l : Link σ) : Link σ := { l with session := f l.session }

/-- A request as it is: whether it is done, and the link afterwards. -/
def send (q : Request) (l : Link σ) : Bool × Link σ :=
  ((Server.receive q l.server).1.isDone, { l with server := (Server.receive q l.server).2 })

theorem send_def (q : Request) (l : Link σ) : l.send q =
    ((Server.receive q l.server).1.isDone, { l with server := (Server.receive q l.server).2 }) :=
  rfl

/-- Undoings or a preamble on their own. -/
def own (sql : String) (l : Link σ) : Bool × Link σ :=
  match l.send (.batch sql) with
  | (true, l) => (true, l.learn (·.settle true))
  | (false, l) => (false, l.learn fun s => (s.track "" false).settle false)

/-- The preamble of a statement with parameters. -/
def preamble (o : Overrides) (sql : String) (l : Link σ) : Bool × Link σ :=
  if (controlOf? sql).isNone then
    let (text, session) := l.session.preamble o sql false
    if text ≠ "" then own text { l with session } else (true, { l with session })
  else (true, l)

theorem preamble_of_control {sql : String} {c : Sql.Control} (h : controlOf? sql = some c)
    (o : Overrides) (l : Link σ) : l.preamble o sql = (true, l) := by
  unfold preamble
  rw [h]
  rfl

theorem preamble_of_text {o : Overrides} {sql : String} {l : Link σ} (h : controlOf? sql = none)
    (htext : (l.session.preamble o sql false).1 ≠ "") :
    l.preamble o sql = Link.own (l.session.preamble o sql false).1
      { l with session := (l.session.preamble o sql false).2 } := by
  unfold preamble
  rw [h]
  exact if_pos htext

theorem preamble_of_empty {o : Overrides} {sql : String} {l : Link σ} (h : controlOf? sql = none)
    (htext : (l.session.preamble o sql false).1 = "") :
    l.preamble o sql = (true, { l with session := (l.session.preamble o sql false).2 }) := by
  unfold preamble
  rw [h]
  exact if_neg (not_not_intro htext)

/-- A statement with parameters. -/
def prepared (o : Overrides) (sql : String) (params : List String) (l : Link σ) : Bool × Link σ :=
  match l.preamble o sql with
  | (true, l) =>
    let (ok, l) := l.send (.prepared sql params)
    (ok, l.learn (·.track sql ok))
  | (false, l) => (false, l)

/-- A batch. -/
def batch (o : Overrides) (sql : String) (l : Link σ) : Bool × Link σ :=
  let (full, session) := l.session.withPreamble o sql
  let (ok, l) := Link.send (.batch full) { l with session }
  (ok, l.learn fun s => (s.track sql ok).settle ok)

/-- A batch, and what the client knows then. -/
theorem batch_def (l : Link σ) (o : Overrides) (sql : String) :
    (l.batch o sql).2 =
      ⟨((l.session.withPreamble o sql).2.track sql
          (Server.receive (.batch (l.session.withPreamble o sql).1) l.server).1.isDone).settle
          (Server.receive (.batch (l.session.withPreamble o sql).1) l.server).1.isDone,
        (Server.receive (.batch (l.session.withPreamble o sql).1) l.server).2⟩ := by
  unfold batch learn
  simp only [send_def]

/-- An undoing, if there is one. -/
def undo (undo : Option String) (l : Link σ) : Bool × Link σ :=
  match undo with
  | some sql => l.own sql
  | none => (true, l)

/-- One session fewer on the triggers to ignore. -/
def closeIgnore (queueOnly : Bool) (l : Link σ) : Bool × Link σ :=
  let (undo, session) := l.session.closeIgnore queueOnly
  Link.undo undo { l with session }

/-- One session fewer on the search path. -/
def closePath (queueOnly : Bool) (l : Link σ) : Bool × Link σ :=
  let (undo, session) := l.session.closePath queueOnly
  Link.undo undo { l with session }

/-- One more session on the search path. -/
def openPath (l : Link σ) : Bool × Link σ :=
  if l.session.path.sessions = 0 then
    match (Server.receive showPathRequest l.server).1.path? with
    | some path =>
      (true, (l.send showPathRequest).2.learn fun s =>
        { s with initialPath := some path, path := s.path.opened })
    | none => (false, (l.send showPathRequest).2)
  else (true, l.learn fun s => { s with path := s.path.opened })

/-- The end of a client: what is still set is undone. -/
def handOver (l : Link σ) : Bool × Link σ :=
  if l.session.owed ≠ "" then
    if l.session.status = .inError then
      match l.send (.batch "ROLLBACK") with
      | (true, l) =>
        let l := l.learn Session.rolledBack
        l.send (.batch l.session.owed)
      | (false, l) => (false, l)
    else l.send (.batch l.session.owed)
  else (true, l)

end Link

namespace Client

variable {σ : Type}

/-- What a client knows of its connection, and the server at its other end. -/
def link (c : Client σ) : Link σ := ⟨c.session, c.wire.server⟩

/-- A client with another link and another journal. -/
def put (c : Client σ) (l : Link σ) (j : Journal) : Client σ :=
  { c with session := l.session, wire := { c.wire with server := l.server }, journal := j }

@[simp] theorem put_link (c : Client σ) (l : Link σ) (j : Journal) : (c.put l j).link = l := rfl

@[simp] theorem put_put (c : Client σ) (l l' : Link σ) (j j' : Journal) :
    (c.put l j).put l' j' = c.put l' j' := rfl

@[simp] theorem put_isOpen (c : Client σ) (l : Link σ) (j : Journal) :
    (c.put l j).wire.isOpen = c.wire.isOpen := rfl

@[simp] theorem put_overrides (c : Client σ) (l : Link σ) (j : Journal) :
    (c.put l j).overrides = c.overrides := rfl

/-- The text that hooks leave of a statement; none if one of them refuses it. -/
def left (c : Client σ) (sql : String) (params : Nat) : Option String :=
  match c.hook with
  | none => some (c.contextOf sql params).exec
  | some hook =>
    (((c.contextOf sql params).applied (hook.before (c.contextOf sql params)).1).toOption).map
      Hook.Context.exec

/-- `Acts act c ok l`: the work `act` succeeds on `c` exactly if `ok`, and leaves the link `l` and
all else but the journal as it was. -/
def Acts {α : Type} (act : Act (Client σ) α) (c : Client σ) (ok : Bool) (l : Link σ) : Prop :=
  ∃ r j, result act c = (r, c.put l j) ∧ r.toOption.isSome = ok

theorem result_learn (f : Session → Session) (c : Client σ) :
    result (learn f) c = (.ok (), c.put (c.link.learn f) c.journal) := rfl

/-- A client after some events. -/
def noting (c : Client σ) (events : List Event) : Client σ :=
  { c with journal := { c.journal with events := c.journal.events ++ events } }

theorem noting_nil (c : Client σ) : c.noting [] = c := by
  unfold noting
  rw [List.append_nil]

theorem result_record (events : List Event) (c : Client σ) :
    result (record events) c = (.ok (), c.noting events) := rfl

/-- A hook's word decides on a statement. -/
theorem inspect_of_hook {c : Client σ} {g : Hook} (hg : c.hook = some g) (sql : String) (params : Nat) :
    result (inspect sql params) c =
      (((c.contextOf sql params).applied (g.before (c.contextOf sql params)).1).mapError
        fun reason => .usage (.abortedByHook reason), c.noting (g.before (c.contextOf sql params)).2) := by
  unfold inspect
  rw [Act.result_bind_ok (Act.result_get c), hg]
  dsimp only
  rw [Act.result_bind_ok (result_record (g.before (c.contextOf sql params)).2 c)]
  cases (c.contextOf sql params).applied (g.before (c.contextOf sql params)).1 with
  | error reason => rfl
  | ok d => rfl

/-- Hooks leave a statement or refuse it with a reason, and leave events. -/
theorem inspect_noting (sql : String) (params : Nat) (c : Client σ) :
    ∃ (r : Except Error Hook.Context) (events : List Event),
      result (inspect sql params) c = (r, c.noting events) ∧
      r.toOption.map Hook.Context.exec = c.left sql params ∧
      ∀ e, r = .error e → ∃ reason, e = .usage (.abortedByHook reason) := by
  unfold left
  cases hhook : c.hook with
  | none =>
    refine ⟨.ok (c.contextOf sql params), [], ?_, rfl, nofun⟩
    unfold inspect
    rw [Act.result_bind_ok (Act.result_get c), hhook, noting_nil]
    rfl
  | some hook =>
    refine ⟨_, _, inspect_of_hook hhook sql params, ?_⟩
    dsimp only
    cases (c.contextOf sql params).applied (hook.before (c.contextOf sql params)).1 with
    | ok context => exact ⟨rfl, nofun⟩
    | error reason => exact ⟨rfl, fun e he => ⟨reason, (Except.error.inj he).symm⟩⟩

/-- Hooks leave a statement or refuse it, and change nothing. -/
theorem result_inspect (sql : String) (params : Nat) (c : Client σ) :
    ∃ (r : Except Error Hook.Context) (j : Journal), j.sent = c.journal.sent ∧
      result (inspect sql params) c = (r, c.put c.link j) ∧
      r.toOption.map Hook.Context.exec = c.left sql params := by
  obtain ⟨r, events, hresult, hleft, -⟩ := inspect_noting sql params c
  exact ⟨r, (c.noting events).journal, rfl, hresult, hleft⟩

/-- Hooks are told what came of a statement, and leave events. -/
theorem conclude_noting {α : Type} (context : Hook.Context) (outcome : α → Hook.Outcome)
    (r : Except Error α) (c : Client σ) :
    ∃ events, result (conclude context outcome r) c = (r, c.noting events) := by
  have hreport : ∀ o, ∃ events, result (report context o) c = (.ok (), c.noting events) := by
    intro o
    unfold report
    rw [Act.result_bind_ok (Act.result_get c)]
    cases c.hook with
    | none =>
      refine ⟨[], ?_⟩
      rw [noting_nil]
      rfl
    | some hook => exact ⟨_, result_record _ c⟩
  cases r with
  | ok a =>
    obtain ⟨events, hreport⟩ := hreport (outcome a)
    exact ⟨events, Act.result_bind_ok hreport _⟩
  | error e =>
    obtain ⟨events, hreport⟩ := hreport (Hook.Outcome.ofMessage e.message)
    exact ⟨events, Act.result_bind_ok hreport _⟩

/-- Hooks are told what came of a statement, and nothing is changed by it. -/
theorem result_conclude {α : Type} (context : Hook.Context) (outcome : α → Hook.Outcome)
    (r : Except Error α) (c : Client σ) :
    ∃ j : Journal, j.sent = c.journal.sent ∧
      result (conclude context outcome r) c = (r, c.put c.link j) := by
  obtain ⟨events, hresult⟩ := conclude_noting context outcome r c
  exact ⟨(c.noting events).journal, rfl, hresult⟩

/-- What is done once a statement was answered: the answer is tracked and told to the hooks. -/
theorem result_track_conclude {α : Type} (f : Session → Session) (context : Hook.Context)
    (outcome : α → Hook.Outcome) (r : Except Error α) (c : Client σ) :
    ∃ j : Journal, j.sent = c.journal.sent ∧
      result (do learn f; conclude context outcome r) c = (r, c.put (c.link.learn f) j) := by
  obtain ⟨j, hsent, hj⟩ := result_conclude context outcome r (c.put (c.link.learn f) c.journal)
  exact ⟨j, hsent, (Act.result_bind_ok (result_learn f c) _).trans hj⟩

variable [Transactional σ] {c : Client σ}

/-- A request over an open line to a server that stays on it. -/
theorem result_send {l : Line σ} (hopen : l.wire.isOpen) (q : Request) :
    ∃ j, result (Line.send q) l =
      ((Server.receive q l.wire.server).1.outcome,
        ⟨{ l.wire with server := (Server.receive q l.wire.server).2 }, j⟩) := by
  have hstays := Transactional.stays q l.wire.server
  have hsend : result (Line.send q) l = Line.send q l := rfl
  refine ⟨{ l.journal with sent := l.journal.sent ++ [(l.wire.number, q)] }, ?_⟩
  rw [hsend]
  dsimp only [Line.send, ExceptT.mk]
  rw [if_pos hopen]
  generalize Server.receive q l.wire.server = received at hstays ⊢
  obtain ⟨reply, server⟩ := received
  cases reply with
  | done rows n => rfl
  | refused refusal => rfl
  | closed => exact absurd rfl hstays

theorem result_sendRaw (hopen : c.wire.isOpen) (q : Request) :
    ∃ j, result (sendRaw q) c =
      ((Server.receive q c.wire.server).1.outcome, c.put (c.link.send q).2 j) := by
  obtain ⟨j, hj⟩ := result_send (l := ⟨c.wire, c.journal⟩) hopen q
  refine ⟨j, ?_⟩
  unfold sendRaw
  rw [Act.result_focus, hj]
  rfl

theorem acts_sendRaw (hopen : c.wire.isOpen) (q : Request) :
    Acts (sendRaw q) c (c.link.send q).1 (c.link.send q).2 := by
  obtain ⟨j, hj⟩ := result_sendRaw hopen q
  exact ⟨_, j, hj, Reply.isSome_outcome _⟩

theorem acts_sendBatch (hopen : c.wire.isOpen) (sql : String) :
    Acts (sendBatch sql) c (c.link.send (.batch sql)).1 (c.link.send (.batch sql)).2 := by
  obtain ⟨r, j, hj, hr⟩ := acts_sendRaw hopen (.batch sql)
  refine ⟨r.map fun _ => (), j, ?_, ?_⟩
  · unfold sendBatch
    rw [result_bind, hj]
    cases r <;> rfl
  · rw [← hr]
    cases r <;> rfl

theorem acts_sendOwn (hopen : c.wire.isOpen) (sql : String) :
    Acts (sendOwn sql) c (c.link.own sql).1 (c.link.own sql).2 := by
  obtain ⟨r, j, hj, hr⟩ := acts_sendBatch hopen sql
  unfold sendOwn Link.own
  generalize c.link.send (.batch sql) = sent at hj hr
  obtain ⟨ok, l⟩ := sent
  simp only at hj hr
  cases r with
  | ok a =>
    subst hr
    refine ⟨.ok (), j, ?_, rfl⟩
    exact (Act.result_bind_ok (Act.result_attempt hj) _).trans rfl
  | error e =>
    subst hr
    refine ⟨.error e, j, ?_, rfl⟩
    exact (Act.result_bind_ok (Act.result_attempt hj) _).trans rfl

theorem acts_sendPreamble (hopen : c.wire.isOpen) (sql : String) :
    Acts (sendPreamble sql) c (c.link.preamble c.overrides sql).1
      (c.link.preamble c.overrides sql).2 := by
  unfold sendPreamble
  cases hcontrol : controlOf? sql with
  | some control =>
    rw [Link.preamble_of_control hcontrol]
    exact ⟨.ok (), c.journal, rfl, rfl⟩
  | none =>
    have hdecide : result (decide fun s o => s.preamble o sql false) c =
        (.ok (c.session.preamble c.overrides sql false).1,
          c.put ⟨(c.session.preamble c.overrides sql false).2, c.wire.server⟩ c.journal) := rfl
    unfold Acts
    simp only [Option.isNone_none, if_true, result_bind, hdecide]
    by_cases htext : (c.session.preamble c.overrides sql false).1 = ""
    · rw [Link.preamble_of_empty hcontrol htext, if_neg fun hne => hne htext]
      exact ⟨.ok (), c.journal, rfl, rfl⟩
    · rw [Link.preamble_of_text hcontrol htext, if_pos htext]
      exact acts_sendOwn (c := c.put
        ⟨(c.session.preamble c.overrides sql false).2, c.wire.server⟩ c.journal) hopen _

/-- A statement with parameters does to the link what `Link.prepared` does with what hooks leave of
it. -/
theorem acts_prepared {α : Type} (hopen : c.wire.isOpen) (sql : String) (params : List String)
    (value : Answer → α) (outcome : α → Hook.Outcome) :
    match c.left sql params.length with
    | none => Acts (prepared sql params value outcome) c false c.link
    | some x => Acts (prepared sql params value outcome) c (c.link.prepared c.overrides x params).1
        (c.link.prepared c.overrides x params).2 := by
  obtain ⟨r, j, -, hj, hr⟩ := result_inspect sql params.length c
  rw [← hr]
  unfold prepared
  cases r with
  | error e =>
    refine ⟨.error e, j, ?_, rfl⟩
    rw [result_bind, hj]
  | ok context =>
    show Acts _ c _ _
    obtain ⟨r₁, j₁, hj₁, hr₁⟩ := acts_sendPreamble (c := c.put c.link j) hopen context.exec
    simp only [put_link, put_overrides, put_put] at hj₁ hr₁
    unfold Link.prepared
    generalize c.link.preamble c.overrides context.exec = p at hj₁ hr₁ ⊢
    obtain ⟨ok, l⟩ := p
    cases r₁ with
    | error e =>
      cases hr₁
      exact ⟨.error e, j₁, (Act.result_bind_ok hj _).trans (Act.result_bind_error hj₁ _), rfl⟩
    | ok u =>
      cases hr₁
      obtain ⟨r₂, j₂, hj₂, hr₂⟩ := acts_sendRaw (c := c.put l j₁) hopen
        (.prepared context.exec params)
      simp only [put_link, put_put] at hj₂ hr₂ ⊢
      generalize l.send (.prepared context.exec params) = sent at hj₂ hr₂ ⊢
      obtain ⟨ok₂, l₂⟩ := sent
      simp only at hj₂ hr₂ ⊢
      subst hr₂
      obtain ⟨j₃, -, hj₃⟩ := result_track_conclude (·.track context.exec r₂.toOption.isSome) context
        outcome (r₂.map value) (c.put l₂ j₂)
      refine ⟨r₂.map value, j₃, (Act.result_bind_ok hj _).trans ((Act.result_bind_ok hj₁ _).trans
        ((Act.result_bind_ok (Act.result_attempt hj₂) _).trans hj₃)), ?_⟩
      cases r₂ <;> rfl

/-- A batch does to the link what `Link.batch` does with what hooks leave of it. -/
theorem acts_batch (hopen : c.wire.isOpen) (sql : String) :
    match c.left sql 0 with
    | none => Acts (batch sql) c false c.link
    | some x => Acts (batch sql) c (c.link.batch c.overrides x).1 (c.link.batch c.overrides x).2 := by
  obtain ⟨r, j, -, hj, hr⟩ := result_inspect sql 0 c
  rw [← hr]
  unfold batch
  cases r with
  | error e =>
    refine ⟨.error e, j, ?_, rfl⟩
    rw [result_bind, hj]
  | ok context =>
    show Acts _ c _ _
    have hdecide : result (decide fun s o => s.withPreamble o context.exec) (c.put c.link j) =
        (.ok (c.link.session.withPreamble c.overrides context.exec).1,
          c.put ⟨(c.link.session.withPreamble c.overrides context.exec).2, c.link.server⟩ j) := rfl
    unfold Link.batch
    generalize c.link.session.withPreamble c.overrides context.exec = rewritten at hdecide ⊢
    obtain ⟨full, session⟩ := rewritten
    obtain ⟨r₁, j₁, hj₁, hr₁⟩ :=
      acts_sendBatch (c := c.put ⟨session, c.link.server⟩ j) hopen full
    simp only [put_link, put_put] at hj₁ hr₁ ⊢
    generalize Link.send (.batch full) ⟨session, c.link.server⟩ = sent at hj₁ hr₁ ⊢
    obtain ⟨ok, l⟩ := sent
    simp only at hj₁ hr₁ ⊢
    subst hr₁
    obtain ⟨j₂, -, hj₂⟩ := result_track_conclude
      (fun s => (s.track context.exec r₁.toOption.isSome).settle r₁.toOption.isSome) context
      (fun () => .batch) r₁ (c.put l j₁)
    exact ⟨r₁, j₂, (Act.result_bind_ok hj _).trans ((Act.result_bind_ok hdecide _).trans
      ((Act.result_bind_ok (Act.result_attempt hj₁) _).trans hj₂)), rfl⟩

/-- An undoing does to the link what `Link.undo` does. -/
theorem acts_sendUndo (hopen : c.wire.isOpen) (undo : Option String) :
    Acts (sendUndo undo) c (c.link.undo undo).1 (c.link.undo undo).2 := by
  cases undo with
  | some sql => exact acts_sendOwn hopen sql
  | none => exact ⟨.ok (), c.journal, rfl, rfl⟩

theorem acts_closeIgnore (hopen : c.wire.isOpen) :
    Acts closeIgnore c (c.link.closeIgnore false).1 (c.link.closeIgnore false).2 := by
  have hdecide : result (decide fun s _ => s.closeIgnore false) c =
      (.ok (c.session.closeIgnore false).1,
        c.put ⟨(c.session.closeIgnore false).2, c.wire.server⟩ c.journal) := rfl
  unfold closeIgnore Acts
  rw [result_bind, hdecide]
  exact acts_sendUndo (c := c.put ⟨(c.session.closeIgnore false).2, c.wire.server⟩ c.journal)
    hopen (c.session.closeIgnore false).1

theorem acts_closePath (hopen : c.wire.isOpen) :
    Acts closePath c (c.link.closePath false).1 (c.link.closePath false).2 := by
  have hdecide : result (decide fun s _ => s.closePath false) c =
      (.ok (c.session.closePath false).1,
        c.put ⟨(c.session.closePath false).2, c.wire.server⟩ c.journal) := rfl
  unfold closePath Acts
  rw [result_bind, hdecide]
  exact acts_sendUndo (c := c.put ⟨(c.session.closePath false).2, c.wire.server⟩ c.journal)
    hopen (c.session.closePath false).1

theorem result_showPath (hopen : c.wire.isOpen) :
    ∃ r j, result showPath c = (r, c.put (c.link.send showPathRequest).2 j) ∧
      r.toOption = (Server.receive showPathRequest c.wire.server).1.path? := by
  obtain ⟨j, hj⟩ := result_sendRaw hopen showPathRequest
  unfold showPath
  rw [result_bind, show sendRaw (.prepared "SHOW search_path" []) = sendRaw showPathRequest from rfl,
    hj]
  cases (Server.receive showPathRequest c.wire.server).1 with
  | done rows n =>
    cases rows with
    | nil => exact ⟨_, j, rfl, rfl⟩
    | cons row rows => exact ⟨textAt row 0, j, Act.result_lift _ _, rfl⟩
  | refused refusal => exact ⟨_, j, rfl, rfl⟩
  | closed => exact ⟨_, j, rfl, rfl⟩

theorem acts_openPath (hopen : c.wire.isOpen) :
    Acts openPath c c.link.openPath.1 c.link.openPath.2 := by
  unfold openPath Link.openPath
  by_cases hfirst : c.session.path.sessions = 0
  · rw [if_pos (show c.link.session.path.sessions = 0 from hfirst)]
    obtain ⟨r, j, hj, hr⟩ := result_showPath hopen
    rw [show c.link.server = c.wire.server from rfl, ← hr]
    unfold Acts
    cases r with
    | ok path =>
      refine ⟨.ok (), j, ?_, rfl⟩
      rw [result_bind, Act.result_get]
      simp only [hfirst, if_true]
      exact (Act.result_bind_ok hj _).trans rfl
    | error e =>
      refine ⟨.error e, j, ?_, rfl⟩
      rw [result_bind, Act.result_get]
      simp only [hfirst, if_true]
      exact Act.result_bind_error hj _
  · rw [if_neg (show c.link.session.path.sessions ≠ 0 from hfirst)]
    refine ⟨.ok (), c.journal, ?_, rfl⟩
    rw [result_bind, Act.result_get]
    simp only [hfirst, if_false]
    rfl

/-- The last request of a client. -/
theorem acts_sendOwed (hopen : c.wire.isOpen) :
    Acts (do sendBatch (← get).session.owed) c (c.link.send (.batch c.session.owed)).1
      (c.link.send (.batch c.session.owed)).2 := by
  obtain ⟨r, j, hj, hr⟩ := acts_sendBatch hopen c.session.owed
  exact ⟨r, j, (Act.result_bind_ok (Act.result_get c) _).trans hj, hr⟩

theorem acts_handOver (hopen : c.wire.isOpen) :
    Acts handOver c c.link.handOver.1 c.link.handOver.2 := by
  unfold handOver Link.handOver
  by_cases howed : c.session.owed = ""
  · rw [if_neg (show ¬ c.link.session.owed ≠ "" from not_not_intro howed)]
    refine ⟨.ok (), c.journal, ?_, rfl⟩
    rw [result_bind, Act.result_get]
    simp only [howed]
    rfl
  · rw [if_pos (show c.link.session.owed ≠ "" from howed)]
    by_cases herror : c.session.status = .inError
    · rw [if_pos (show c.link.session.status = .inError from herror)]
      have hj := result_record [.notice .resettingAfterFailure] c
      obtain ⟨r₁, j₁, hj₁, hr₁⟩ : Acts (sendBatch "ROLLBACK") (c.noting [.notice .resettingAfterFailure])
          (c.link.send (.batch "ROLLBACK")).1 (c.link.send (.batch "ROLLBACK")).2 :=
        acts_sendBatch (c := c.noting [.notice .resettingAfterFailure]) hopen "ROLLBACK"
      change result (sendBatch "ROLLBACK") _ = (r₁, c.put _ j₁) at hj₁
      unfold Acts
      rw [result_bind, Act.result_get]
      simp only [if_pos (show c.session.owed ≠ "" from howed), if_pos herror]
      rw [Act.result_bind_ok hj]
      generalize c.link.send (.batch "ROLLBACK") = sent at hj₁ hr₁ ⊢
      obtain ⟨ok, l⟩ := sent
      cases r₁ with
      | error e =>
        cases hr₁
        exact ⟨.error e, j₁, Act.result_bind_error hj₁ _, rfl⟩
      | ok u =>
        cases hr₁
        rw [Act.result_bind_ok hj₁, Act.result_bind_ok (result_learn _ _)]
        exact acts_sendOwed (c := c.put (l.learn Session.rolledBack) j₁) hopen
    · rw [if_neg (show c.link.session.status ≠ .inError from herror)]
      obtain ⟨r, j, hj, hr⟩ := acts_sendOwed hopen
      refine ⟨r, j, ?_, hr⟩
      rw [result_bind, Act.result_get]
      simp only [if_pos (show c.session.owed ≠ "" from howed), if_neg herror]
      exact hj

end Client

end DeclaredTriggers
