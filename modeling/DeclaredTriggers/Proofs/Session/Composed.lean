import DeclaredTriggers.Proofs.Session.Calls

/-!
# What every call keeps

Whatever is asked of a client, three things stay as they are (`Client.Composed`): its connection is
open, the search path that it remembers is closed, and the triggers that it ignores are registered
ones. They are what the texts that it sends rest on, so they hold in front of every statement:

> `composed_after`: after every call, a composed client is composed.
>
> `Fresh.composed`: a client is composed when it is made.
-/

namespace DeclaredTriggers

namespace Session

theorem settle_initialPath (s : Session) (ok : Bool) :
    (s.settle ok).initialPath = s.initialPath := by
  unfold settle
  split
  next => rfl
  next => split <;> rfl

theorem afterControl_initialPath (s : Session) (c : Sql.Control) :
    (s.afterControl c).initialPath = s.initialPath := by
  cases c with
  | commit =>
    show (if s.status = .inError then s.rolledBack else s.committed).initialPath = _
    split <;> rfl
  | opens | rollback | rollbackTo | savepoint | release => rfl

theorem track_true (s : Session) (sql : String) :
    s.track sql true = (controlsOf sql).foldl afterControl s := rfl

theorem track_false (s : Session) (sql : String) : s.track sql false = s.afterFailure sql := rfl

theorem track_initialPath (s : Session) (sql : String) (ok : Bool) :
    (s.track sql ok).initialPath = s.initialPath := by
  cases ok with
  | true =>
    rw [track_true]
    induction controlsOf sql generalizing s with
    | nil => rfl
    | cons c cs ih => exact (ih _).trans (s.afterControl_initialPath c)
  | false =>
    rw [track_false]
    unfold afterFailure
    split
    next => rfl
    next => split <;> rfl

end Session

/-- The search path that a request for it names is the one that is in effect. -/
theorem Backend.path?_showPath {b : Backend} {path : String}
    (h : (b.receive showPathRequest).1.path? = some path) :
    path = String.ofList (b.value .path).text := by
  generalize hreply : (b.receive showPathRequest).1 = reply at h
  rcases reply with ⟨rows, n⟩ | _ | _
  · rw [receive_showPath hreply] at h
    cases h
    rfl
  · cases h
  · cases h

namespace Link

variable {σ : Type} [Transactional σ]

theorem own_initialPath (l : Link σ) (sql : String) :
    (l.own sql).2.session.initialPath = l.session.initialPath := by
  unfold own
  split
  next l' h =>
    have : l' = (l.send (.batch sql)).2 := by rw [h]
    rw [this]
    exact Session.settle_initialPath _ _
  next l' h =>
    have : l' = (l.send (.batch sql)).2 := by rw [h]
    rw [this]
    exact (Session.settle_initialPath _ _).trans (Session.track_initialPath _ _ _)

theorem preamble_initialPath (l : Link σ) (o : Overrides) (sql : String) :
    (l.preamble o sql).2.session.initialPath = l.session.initialPath := by
  have hkept := (Session.preamble_status l.session o sql false).2
  cases hcontrol : controlOf? sql with
  | some control => rw [preamble_of_control hcontrol]
  | none =>
    by_cases htext : (l.session.preamble o sql false).1 = ""
    · rw [preamble_of_empty hcontrol htext]
      exact hkept
    · rw [preamble_of_text hcontrol htext, own_initialPath]
      exact hkept

theorem undo_initialPath (l : Link σ) (undo : Option String) :
    (l.undo undo).2.session.initialPath = l.session.initialPath := by
  cases undo with
  | none => rfl
  | some sql => exact l.own_initialPath sql

/-- What is remembered of the search path stays, unless the first session on it asks. -/
theorem initialPath_move (l : Link σ) (o : Overrides) (m : Move) :
    (l.move o m).session.initialPath = l.session.initialPath ∨
      m = .openPath ∧ l.session.path.sessions = 0 ∧
        ∃ path, (Server.receive showPathRequest l.server).1.path? = some path ∧
          (l.move o m).session.initialPath = some path := by
  cases m with
  | batch sql =>
    refine .inl ?_
    show (Session.settle (Session.track (l.session.withPreamble o sql).2 sql _) _).initialPath = _
    rw [Session.settle_initialPath, Session.track_initialPath]
    exact (Session.withPreamble_status _ _ _).2
  | prepared sql params =>
    have hpreamble := l.preamble_initialPath o sql
    refine .inl ?_
    show (l.prepared o sql params).2.session.initialPath = _
    unfold prepared
    generalize l.preamble o sql = p at hpreamble ⊢
    obtain ⟨_ | _, l'⟩ := p
    · exact hpreamble
    · exact (Session.track_initialPath _ _ _).trans hpreamble
  | openIgnore | rest => exact .inl rfl
  | closeIgnore queueOnly => exact .inl (undo_initialPath _ _)
  | closePath queueOnly => exact .inl (undo_initialPath _ _)
  | openPath =>
    show l.openPath.2.session.initialPath = _ ∨ _ ∧ _ ∧ ∃ path, _ ∧
      l.openPath.2.session.initialPath = _
    unfold openPath
    by_cases hfirst : l.session.path.sessions = 0
    · rw [if_pos hfirst]
      split
      next path hpath => exact .inr ⟨rfl, hfirst, path, hpath, rfl⟩
      next => exact .inl rfl
    · rw [if_neg hfirst]
      exact .inl rfl

/-- A search path that is remembered is what a server said. -/
theorem pathClosed_move {l : Link σ} (h : l.session.PathClosed) (o : Overrides) (m : Move) :
    (l.move o m).session.PathClosed := by
  intro path hinitial
  rcases l.initialPath_move o m with hsame | ⟨-, -, said, hsaid, hnow⟩
  · exact h path (hsame ▸ hinitial)
  · rw [hnow] at hinitial
    cases hinitial
    generalize hreply : (Server.receive showPathRequest l.server).1 = reply at hsaid
    rcases reply with ⟨_ | ⟨row, rows⟩, n⟩ | _ | _
    · cases hsaid
    · refine Transactional.pathClosed l.server row rows n path hreply ?_
      change (textAt row 0).toOption = some path at hsaid
      cases htext : textAt row 0 with
      | ok text =>
        rw [htext] at hsaid
        cases hsaid
        rfl
      | error e =>
        rw [htext] at hsaid
        cases hsaid
    · cases hsaid
    · cases hsaid

end Link

namespace Client

variable {σ : Type} {c : Client σ}

/-- A client whose texts are put together as they should be, over a connection that is open. -/
structure Composed (c : Client σ) : Prop where
  isOpen : c.wire.isOpen
  pathClosed : c.session.PathClosed
  registered : c.overrides.Registered

/-- A client as it is made: on an open connection, in a transaction or not, with nothing set by
it yet. -/
structure Fresh (c : Client σ) : Prop where
  isOpen : c.wire.isOpen
  session : c.session = {} ∨ c.session = { status := .inTransaction }
  registered : c.overrides.Registered

namespace Fresh

theorem initialPath (h : c.Fresh) : c.session.initialPath = none := by
  rcases h.session with hsession | hsession <;> rw [hsession]

theorem setting (h : c.Fresh) (x : Variable) : c.session.setting x = {} := by
  rcases h.session with hsession | hsession <;> rw [hsession] <;> cases x <;> rfl

theorem composed (h : c.Fresh) : c.Composed := by
  refine ⟨h.isOpen, fun path hpath => ?_, h.registered⟩
  rw [h.initialPath] at hpath
  cases hpath

end Fresh

/-- A client that is made over a server, and takes its transaction for what it is told. -/
def connectedTo (s : σ) (status : TransactionStatus) : Client σ :=
  { wire := { server := s }, session := { status } }

theorem fresh_connectedTo (s : σ) {status : TransactionStatus} (h : status ≠ .inError) :
    (connectedTo s status).Fresh := by
  refine ⟨rfl, ?_, fun id hid => ?_⟩
  · cases status with
    | idle => exact .inl rfl
    | inTransaction => exact .inr rfl
    | inError => exact absurd rfl h
  · cases hid

variable [Transactional σ]

/-- A call takes the link of a composed client where its move takes it. -/
theorem link_after (h : c.Composed) (call : Call) :
    (c.after call).link = c.link.move c.overrides (c.move call) := by
  obtain ⟨j, o, hafter, -⟩ := after_eq h.isOpen call
  rw [hafter]
  rfl

theorem session_after (h : c.Composed) (call : Call) :
    (c.after call).session = (c.link.move c.overrides (c.move call)).session :=
  congrArg Link.session (link_after h call)

theorem server_after (h : c.Composed) (call : Call) :
    (c.after call).wire.server = (c.link.move c.overrides (c.move call)).server :=
  congrArg Link.server (link_after h call)

/-- After every call, a composed client is composed. -/
theorem composed_after (h : c.Composed) (call : Call) : (c.after call).Composed := by
  obtain ⟨j, o, hafter, ho⟩ := after_eq h.isOpen call
  have hlink := link_after h call
  refine ⟨?_, ?_, ?_⟩
  · rw [hafter]
    exact h.isOpen
  · show (c.after call).link.session.PathClosed
    rw [hlink]
    exact Link.pathClosed_move h.pathClosed _ _
  · rw [hafter]
    exact ho h.registered

theorem composed_run (h : c.Composed) (calls : List Call) : (c.run calls).Composed := by
  induction calls generalizing c with
  | nil => exact h
  | cons call rest ih => exact ih (composed_after h call)

/-- What is remembered of the search path stays through a call, unless that opens the first session on
it; then it is what the path is there. -/
theorem initialPath_after {c : Client Backend} (h : c.Composed) (call : Call) :
    (c.after call).session.initialPath = c.session.initialPath ∨
      c.move call = .openPath ∧ c.session.path.sessions = 0 ∧
        (c.after call).session.initialPath =
          some (String.ofList (c.wire.server.value .path).text) := by
  rw [session_after h]
  rcases c.link.initialPath_move c.overrides (c.move call) with
    hsame | ⟨hmove, hclosed, path, hsaid, hnow⟩
  · exact .inl hsame
  · rw [Backend.path?_showPath hsaid] at hnow
    exact .inr ⟨hmove, hclosed, hnow⟩

end Client

end DeclaredTriggers
