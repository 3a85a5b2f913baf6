import DeclaredTriggers.Proofs.Session.Orderly

/-!
# What a move does to the books

`Link.booksOn` are the books on one of the two variables: what a client keeps for that variable, and what
the backend at the other end has on it. What is said to the other variable passes these books by, so the
two are accounted for in the same way. Every orderly move of the link is an event of the books, or two,
or none:

> `steps_move`: a move takes the books along `Books.Step`s, or is a rollback to a savepoint.

The variables differ in how they are undone (`Session.Undoes`). The triggers to ignore are reset, to what
they are where nobody sets them. The search path is set to what the client was told that it was, which is
a matter of when it asked.
-/

namespace DeclaredTriggers

open Sql (Control Announces)

/-! ## What the dues leave -/

/-- The literal that names the ignored triggers, as something that a variable can hold. -/
def Overrides.Registered.content {o : Overrides} (h : o.Registered) : Content :=
  ⟨o.ignoreLiteral, h.isClosed_ignoreLiteral⟩

/-- The schemas to search, as something that a variable can hold. -/
def Overrides.pathContent (o : Overrides) : Content := ⟨o.pathList, o.isClosed_pathList⟩

/-- What an open session tells its connection of a variable. -/
def Overrides.Registered.told {o : Overrides} (h : o.Registered) : Variable → Option Content
  | .ignore => some h.content
  | .path => if o.schemas.isEmpty then none else some o.pathContent

theorem Overrides.Registered.told_isSome {o : Overrides} (h : o.Registered) (x : Variable) :
    (h.told x).isSome = o.speaksOf x := by
  cases x with
  | ignore => rfl
  | path =>
    unfold told speaksOf
    cases o.schemas.isEmpty <;> rfl

/-- What a session undoes a variable to: the triggers to ignore are reset, to `default`; the search path
is set to what it was, and is not touched before that is known. -/
def Session.Undoes (s : Session) (default home : Content) : Variable → Prop
  | .ignore => default = home
  | .path => (s.initialPath = none → s.path = {}) ∧
      ∀ path, s.initialPath = some path → Text.trimEnd path.toList = home.text

theorem Effect.on_set {x : Variable} {home : Content} {isLocal : Bool} (v : Content) (held : Held) :
    Effect.on x home (.set x isLocal v.text) held = held.set isLocal v := by
  simp [Effect.on, v.closed]

/-- A statement that sets one variable leaves the other alone. -/
theorem writes_setLead {x y : Variable} (h : y ≠ x) {isLocal : Bool} {t : List Char} :
    (Effect.ofStatement ((Effect.setLead y isLocal).toList ++ t)).writes x = false := by
  rw [effect_set]
  simpa [Effect.writes] using h

theorem writes_resetIgnore : (Effect.ofStatement resetIgnore).writes .path = false := by
  rw [effect_reset]
  rfl

section

variable {x : Variable} {default home : Content} {s : Session}

/-- The statement that undoes the search path. -/
theorem on_undoPath (default : Content) {path : String} (h : Text.trimEnd path.toList = home.text)
    (held : Held) :
    (Effect.ofStatement (Session.undoPathStatement path)).on .path default held = ⟨home, none⟩ := by
  unfold Session.undoPathStatement
  rw [effect_set, h]
  exact Effect.on_set home held

/-- What is undone is at home. -/
theorem heldAfter_undoings (owed : Variable → Bool) (h : owed x → s.Undoes default home x)
    (howed : s.path = {} → owed .path = false) (held : Held) :
    heldAfter x default (Session.undoings (owed .ignore) (owed .path) s.initialPath) held =
      if owed x then ⟨home, none⟩ else held := by
  unfold Session.undoings
  rw [heldAfter_append]
  cases x with
  | ignore =>
    have hother : ∀ held, heldAfter .ignore default (if owed .path then
        s.initialPath.elim [] fun path => [Session.undoPathStatement path] else []) held = held := by
      refine fun held => heldAfter_of_not_writes (fun st hst => ?_) default held
      split at hst
      next =>
        cases hinitial : s.initialPath with
        | none =>
          rw [hinitial] at hst
          cases hst
        | some path =>
          rw [hinitial] at hst
          rw [List.mem_singleton.1 hst]
          exact writes_setLead (by simp)
      next => cases hst
    rw [hother]
    cases hignore : owed .ignore with
    | true =>
      have hdefault : default = home := h hignore
      show (Effect.ofStatement resetIgnore).on .ignore default held = _
      rw [effect_reset, hdefault]
      rfl
    | false => rfl
  | path =>
    have hother : heldAfter .path default (if owed .ignore then [resetIgnore] else []) held = held := by
      refine heldAfter_of_not_writes (fun st hst => ?_) default held
      split at hst
      next =>
        rw [List.mem_singleton.1 hst]
        exact writes_resetIgnore
      next => cases hst
    rw [hother]
    cases hpath : owed .path with
    | false => rfl
    | true =>
      cases hinitial : s.initialPath with
      | none =>
        rw [howed ((h hpath).1 hinitial)] at hpath
        cases hpath
      | some path => exact on_undoPath default ((h hpath).2 path hinitial) held

theorem heldAfter_unless (x : Variable) (default : Content) (p : Prop) [Decidable p] (y : Variable)
    (isLocal : Bool) (t : List Char) (held : Held) :
    heldAfter x default (if p then [] else [(Effect.setLead y isLocal).toList ++ t]) held =
      if p then held else (Effect.set y isLocal t).on x default held := by
  split
  next => rfl
  next =>
    show (Effect.ofStatement _).on x default held = _
    rw [effect_set]

/-- What open sessions need is set. -/
theorem heldAfter_settings {o : Overrides} (ho : o.Registered) (s : Session) (isLocal : Bool)
    (held : Held) : heldAfter x default (s.settings o isLocal) held =
      match ho.told x with
      | none => held
      | some v => if (s.setting x).sessions = 0 then held else held.set isLocal v := by
  unfold Session.settings
  rw [heldAfter_append, heldAfter_unless, heldAfter_unless, o.trimEnd_pathList]
  cases x with
  | ignore =>
    have hother : ∀ held, (Effect.set .path isLocal o.pathList).on .ignore default held = held :=
      Effect.on_of_not_writes rfl default
    have hset : (Effect.set .ignore isLocal ho.content.text).on .ignore default held =
        held.set isLocal ho.content := Effect.on_set ho.content held
    rw [hother, ite_self, show o.ignoreLiteral = ho.content.text from rfl, hset]
    rfl
  | path =>
    have hother : (Effect.set .ignore isLocal o.ignoreLiteral).on .path default held = held :=
      Effect.on_of_not_writes rfl default held
    have hset : (Effect.set .path isLocal o.pathContent.text).on .path default held =
        held.set isLocal o.pathContent := Effect.on_set o.pathContent held
    rw [hother, ite_self, show o.pathList = o.pathContent.text from rfl, hset]
    unfold Overrides.Registered.told
    cases o.schemas.isEmpty with
    | true => simp
    | false => by_cases hsessions : s.path.sessions = 0 <;> simp [hsessions]

/-- The dues leave what the setting says they leave. -/
theorem heldAfter_dues {o : Overrides} (ho : o.Registered)
    (h : (s.setting x).pending → s.Undoes default home x) (isLocal : Bool) (held : Held) :
    heldAfter x default (s.dues o isLocal) held =
      (s.setting x).heldAlong home isLocal (ho.told x) held := by
  have hundoings := heldAfter_undoings (fun y => (s.setting y).pending) h
    (fun hpath => by rw [Session.setting_path, hpath]) held
  unfold Session.dues
  rw [heldAfter_append, heldAfter_settings ho]
  rw [show heldAfter x default (Session.undoings s.ignore.pending s.path.pending s.initialPath) held =
    (s.setting x).heldPaid home held from hundoings]
  unfold Setting.heldAlong
  rfl

end

/-! ## Requests that control nothing -/

namespace Session

theorem setting_settle (s : Session) (ok : Bool) (x : Variable) :
    (s.settle ok).setting x = (s.setting x).settled s.status ok := by
  unfold settle Setting.settled
  split
  next => rfl
  next =>
    split
    next => exact s.setting_committed x
    next => exact s.setting_rolledBack x

theorem setting_afterControl (s : Session) (c : Control) (x : Variable) :
    (s.afterControl c).setting x =
      match c with
      | .opens | .savepoint | .release => s.setting x
      | .commit =>
        if s.status = .inError then (s.setting x).rolledBack else (s.setting x).committed
      | .rollback | .rollbackTo => (s.setting x).rolledBack := by
  cases c with
  | opens => exact s.setting_status .inTransaction x
  | savepoint | release => rfl
  | rollback | rollbackTo => exact (setting_status _ _ x).trans (s.setting_rolledBack x)
  | commit =>
    refine (setting_status _ _ x).trans ?_
    simp only
    split
    next => exact s.setting_rolledBack x
    next => exact s.setting_committed x

theorem committed_of_not {s : Session} (hignore : s.ignore.uncommitted = false)
    (hpath : s.path.uncommitted = false) : s.committed = s := by
  unfold committed
  rw [Setting.committed_of_not hignore, Setting.committed_of_not hpath]

theorem rolledBack_of_not {s : Session} (hignore : s.ignore.uncommitted = false)
    (hpath : s.path.uncommitted = false) : s.rolledBack = s := by
  unfold rolledBack
  rw [Setting.rolledBack_of_not hignore, Setting.rolledBack_of_not hpath]

/-- A client that does not hold back knows of no error. -/
theorem status_of_not_holdsBack {s : Session} {statement : String}
    (h : s.holdsBack statement = false) : s.status ≠ .inError := by
  intro herror
  unfold holdsBack at h
  rw [herror] at h
  cases h

/-- What is not undone before a statement was not there. -/
theorem Undoes.known {s : Session} {default home : Content} {x : Variable}
    (h : s.Undoes default home x) : x = .path → s.initialPath = none → s.path = {} := by
  rintro rfl
  exact h.1

end Session

/-- The books on a variable. -/
def Link.booksOn (l : Link Backend) (x : Variable) : Books :=
  ⟨l.session.setting x, l.session.status, l.server.ledger x⟩

/-- The books on the triggers to ignore. -/
def Link.books (l : Link Backend) : Books :=
  ⟨l.session.ignore, l.session.status, l.server.ledger .ignore⟩

section

variable {x : Variable} {home : Content} {b : Backend} {s : Session} {sql t : String}

/-- The books once a silent text was tracked and settled. -/
theorem books_settled (ht : Silent x t) (s : Session) (b : Backend) (ok : Bool) :
    Link.booksOn ⟨(s.track t ok).settle ok, b⟩ x =
      ⟨(s.setting x).settled (if ok then s.status else s.status.failed) ok,
        if ok then s.status else s.status.failed, b.ledger x⟩ := by
  unfold Link.booksOn
  rw [Session.settle_status, Session.setting_settle, Session.track_of_ordinary ht.ordinary]
  cases ok with
  | true => rfl
  | false => simp

/-- A batch that says nothing about the variable. -/
theorem step_of_silent (ht : Silent x t) (hsql : Silent x sql) :
    Books.Step home (Link.booksOn ⟨s, b⟩ x)
      (Link.booksOn ⟨(s.track t (b.receive (.batch sql)).1.isDone).settle
        (b.receive (.batch sql)).1.isDone, (b.receive (.batch sql)).2⟩ x) := by
  have hledger : (b.receive (.batch sql)).2.ledger x = _ :=
    b.serve_ledger_of_ordinary hsql.ordinary x
  rw [books_settled ht, hledger, heldAfter_of_not_writes fun st hst => (hsql st hst).2]
  show Books.Step home _ ⟨(s.setting x).settled
    (if (b.receive (.batch sql)).1.isDone then _ else _) _, _,
      if (b.receive (.batch sql)).1.isDone then _ else _⟩
  cases (b.receive (.batch sql)).1.isDone with
  | true => exact .passed (k := Link.booksOn ⟨s, b⟩ x) (.inr rfl)
  | false => exact .failed (k := Link.booksOn ⟨s, b⟩ x) (.inr rfl)

/-- A batch with the dues in it. -/
theorem step_of_dues {k : Books} (isLocal : Bool) (v : Option Content) (ht : Silent x t)
    (hledger : b.ledger x = k.ledger) (hstatus : s.status = k.status)
    (hsetting : s.setting x = k.setting.setAlong isLocal v.isSome)
    (hordinary : ∀ st ∈ Sql.statements sql.toList, Control.ofStatement? st = none)
    (hheld : heldAfter x (b.conduct.defaults x) (Sql.statements sql.toList) k.ledger.held =
      k.setting.heldAlong home isLocal v k.ledger.held)
    (herror : k.status ≠ .inError) (hlocal : isLocal = false → k.status = .idle) :
    Books.Step home k
      (Link.booksOn ⟨(s.track t (b.receive (.batch sql)).1.isDone).settle
        (b.receive (.batch sql)).1.isDone, (b.receive (.batch sql)).2⟩ x) := by
  have hafter : (b.receive (.batch sql)).2.ledger x = _ :=
    b.serve_ledger_of_ordinary hordinary x
  have hheld' : heldAfter x (b.conduct.defaults x) (Sql.statements sql.toList) (b.holdings x) =
      k.setting.heldAlong home isLocal v k.ledger.held := by
    rw [← hheld, ← hledger]
    rfl
  rw [books_settled ht, hafter, hstatus, hsetting, hheld', hledger]
  show Books.Step home k
    ⟨Setting.settled _ (if (b.receive (.batch sql)).1.isDone then _ else _) _, _,
      if (b.receive (.batch sql)).1.isDone then _ else _⟩
  cases (b.receive (.batch sql)).1.isDone with
  | true => exact .paid herror hlocal
  | false => exact .unpaid herror

end

namespace Link

variable {x : Variable} {home : Content} {l : Link Backend} {o : Overrides}

/-! ## Texts that control nothing -/

theorem send_eq (q : Request) (l : Link Backend) :
    l.send q = ((l.server.receive q).1.isDone, { l with server := (l.server.receive q).2 }) := by
  rw [send_def, Backend.server_receive]

/-- What a client sends by itself, and what it knows then. -/
theorem own_eq (l : Link Backend) (sql : String) :
    (l.own sql).2 = ⟨(l.session.track "" (l.server.receive (.batch sql)).1.isDone).settle
      (l.server.receive (.batch sql)).1.isDone, (l.server.receive (.batch sql)).2⟩ := by
  unfold own
  rw [send_eq]
  cases (l.server.receive (.batch sql)).1.isDone with
  | true =>
    rw [Session.track_of_ordinary (silent_empty .ignore).ordinary]
    rfl
  | false => rfl

/-- A batch, and what the client knows then. -/
theorem batch_eq (l : Link Backend) (o : Overrides) (sql : String) :
    (l.batch o sql).2 =
      ⟨((l.session.withPreamble o sql).2.track sql
          (l.server.receive (.batch (l.session.withPreamble o sql).1)).1.isDone).settle
          (l.server.receive (.batch (l.session.withPreamble o sql).1)).1.isDone,
        (l.server.receive (.batch (l.session.withPreamble o sql).1)).2⟩ := by
  rw [batch_def, Backend.server_receive]

/-- A silent batch, with its dues in front of it. -/
theorem step_batch (hpath : l.session.PathClosed) (ho : o.Registered)
    (hundoes : l.session.Undoes (l.server.conduct.defaults x) home x) {sql : String}
    (hsql : Silent x sql) : Books.Step home (l.booksOn x) ((l.batch o sql).2.booksOn x) := by
  have hhead : Control.ofStatement? ((Sql.statements sql.toList).headD []) = none := by
    cases hss : Sql.statements sql.toList with
    | nil => rfl
    | cons st ss => exact (hsql st (by rw [hss]; exact List.mem_cons_self)).1
  rw [batch_eq, Session.withPreamble_of_ordinary hhead]
  cases hback : l.session.holdsBack sql with
  | true =>
    rw [Session.preamble_of_holdsBack hback, String.empty_append]
    exact step_of_silent hsql hsql
  | false =>
    have hannounces := Session.announces_preamble true hback hpath ho
    have hstatements : Sql.statements ((l.session.preamble o sql true).1 ++ sql).toList =
        l.session.dues o true ++ Sql.statements sql.toList := by
      rw [String.toList_append]
      exact hannounces _
    refine step_of_dues true (ho.told x) hsql rfl ?_ ?_ ?_ ?_ ?_ ?_
    · exact (Session.preamble_status l.session o sql true).1
    · rw [Session.setting_preamble hback, ho.told_isSome]
      rfl
    · rw [hstatements]
      intro st hst
      rcases List.mem_append.1 hst with hst | hst
      · exact Session.ofStatement?_of_mem_dues hst
      · exact (hsql st hst).1
    · rw [hstatements, heldAfter_append, heldAfter_dues ho fun _ => hundoes,
        heldAfter_of_not_writes fun st hst => (hsql st hst).2]
      rfl
    · exact Session.status_of_not_holdsBack hback
    · intro h
      cases h

/-- The preamble of a statement with parameters. -/
theorem steps_preamble (hpath : l.session.PathClosed) (ho : o.Registered)
    (hundoes : l.session.Undoes (l.server.conduct.defaults x) home x) (sql : String) :
    Relation.ReflTransGen (Books.Step home) (l.booksOn x) ((l.preamble o sql).2.booksOn x) := by
  cases hcontrol : controlOf? sql with
  | some c => rw [preamble_of_control hcontrol]
  | none =>
    cases hback : l.session.holdsBack sql with
    | true =>
      have hempty := Session.preamble_of_holdsBack hback o false
      rw [preamble_of_empty hcontrol (by rw [hempty]), hempty]
    | false =>
      have hannounces := Session.announces_preamble false hback hpath ho
      have hsetting := Session.setting_preamble hback o false x
      simp only [Bool.false_or] at hannounces hsetting
      by_cases htext : (l.session.preamble o sql false).1 = ""
      · obtain ⟨hpending, hnothing⟩ := Session.nothing_due hundoes.known hback htext
        rw [Setting.setAlong_of_nothing hpending hnothing] at hsetting
        have hsame : Link.booksOn ⟨(l.session.preamble o sql false).2, l.server⟩ x = l.booksOn x := by
          unfold booksOn
          rw [hsetting, (Session.preamble_status l.session o sql false).1]
        rw [preamble_of_empty hcontrol htext, hsame]
      · rw [preamble_of_text hcontrol htext, own_eq]
        refine .single (step_of_dues (decide (l.session.status = .inTransaction)) (ho.told x)
          (silent_empty x) rfl ?_ ?_ ?_ ?_ ?_ ?_)
        · exact (Session.preamble_status l.session o sql false).1
        · rw [hsetting, ho.told_isSome]
          rfl
        · rw [hannounces.statements_eq]
          exact fun st hst => Session.ofStatement?_of_mem_dues hst
        · rw [hannounces.statements_eq]
          exact heldAfter_dues ho (fun _ => hundoes) _ _
        · exact Session.status_of_not_holdsBack hback
        · intro hlocal
          show l.session.status = .idle
          cases hs : l.session.status with
          | idle => rfl
          | inTransaction =>
            rw [hs] at hlocal
            cases hlocal
          | inError => exact absurd hs (Session.status_of_not_holdsBack hback)

/-- What a silent statement with parameters leaves. -/
theorem ledger_of_prepared (b : Backend) {sql : String} (hsql : Silent x sql)
    (params : List String) :
    (b.receive (.prepared sql params)).2.ledger x =
      if (b.receive (.prepared sql params)).1.isDone then (b.ledger x).rested
      else (b.ledger x).aborted := by
  by_cases hmany : 1 < (Sql.statements sql.toList).length
  · rw [show b.receive (.prepared sql params) = (.refused Backend.misplaced, b.aborted) from
      if_pos hmany]
    exact b.aborted_ledger x
  · rw [Backend.receive_prepared hmany, b.serve_ledger_of_ordinary hsql.ordinary,
      heldAfter_of_not_writes fun st hst => (hsql st hst).2]
    rfl

/-- A silent statement with parameters, its preamble sent. -/
theorem step_send_prepared {sql : String} (hsql : Silent x sql) (params : List String) :
    Books.Step home (l.booksOn x) (((l.send (.prepared sql params)).2.learn
      (·.track sql (l.send (.prepared sql params)).1)).booksOn x) := by
  have hledger := ledger_of_prepared l.server hsql params
  unfold learn booksOn
  simp only [send_eq]
  rw [Session.track_of_ordinary hsql.ordinary, hledger]
  cases (l.server.receive (.prepared sql params)).1.isDone with
  | true => exact .passed (k := l.booksOn x) (.inl rfl)
  | false => exact .failed (k := l.booksOn x) (.inl (Session.setting_status _ _ x))

theorem steps_prepared (hpath : l.session.PathClosed) (ho : o.Registered)
    (hundoes : l.session.Undoes (l.server.conduct.defaults x) home x) {sql : String}
    (hsql : Silent x sql) (params : List String) :
    Relation.ReflTransGen (Books.Step home) (l.booksOn x)
      ((l.prepared o sql params).2.booksOn x) := by
  have hpreamble := steps_preamble hpath ho hundoes sql
  unfold prepared
  generalize l.preamble o sql = p at hpreamble ⊢
  obtain ⟨_ | _, l'⟩ := p
  · exact hpreamble
  · exact hpreamble.tail (step_send_prepared hsql params)

end Link

/-! ## Control statements -/

/-- The end of a statement that controls the transaction, done or failed. -/
theorem Backend.serve_ledger_of_control {b : Backend} {st : List Char} {c : Control}
    (hc : Control.ofStatement? st = some c) (x : Variable) :
    ((b.serve [st]).1.isDone = true ∧ ∃ after, Controlled b (b.conduct.savepointName st) c after ∧
        (b.serve [st]).2.ledger x = (after.ledger x).rested) ∨
      ((b.serve [st]).1.isDone = false ∧ (b.serve [st]).2.ledger x =
        if c.isEnd then (b.ledger x).rolledBack else (b.ledger x).aborted) := by
  obtain ⟨last, hran, hlast⟩ := b.ran_serve [st]
  rw [hlast]
  generalize (b.serve [st]).1.isDone = ok at hran ⊢
  cases hran with
  | @went _ after _ _ _ _ haccepted hrest =>
    cases hrest with
    | done =>
      refine .inl ⟨rfl, after, controlled_of_accepted? hc haccepted, ?_⟩
      rw [if_pos rfl, rested_ledger, ticked_ledger, logged_ledger]
  | stopped =>
    have hend : isEnd st = c.isEnd := by
      rw [Bool.eq_iff_iff, isEnd_iff, hc]
      cases c <;> decide
    refine .inr ⟨rfl, ?_⟩
    rw [if_neg (by simp), ticked_ledger, failedAt_ledger, hend]

/-- What a control statement left is settled. -/
theorem Session.settle_afterControl {s : Session} {c : Control}
    (h : c = .savepoint ∨ c = .release → s.status = .inTransaction) :
    (s.afterControl c).settle true = s.afterControl c := by
  cases c with
  | opens | rollbackTo => rfl
  | savepoint | release =>
    refine if_pos ?_
    show s.status ≠ .idle
    rw [h (by simp)]
    simp
  | rollback =>
    exact Session.committed_of_not s.ignore.rolledBack_uncommitted s.path.rolledBack_uncommitted
  | commit =>
    have hnone : ∀ x, ((s.afterControl .commit).setting x).uncommitted = false := by
      intro x
      rw [setting_afterControl]
      simp only
      split
      next => exact Setting.rolledBack_uncommitted _
      next => exact Setting.committed_uncommitted _
    exact Session.committed_of_not (hnone .ignore) (hnone .path)

/-- Whoever knows of no transaction, or of a failed one, is not in one. -/
theorem TransactionStatus.Tracks.inTransaction {st : TransactionStatus}
    (h : st.Tracks .inTransaction) : st = .inTransaction := by
  cases st with
  | idle => cases h
  | inTransaction => rfl
  | inError => exact absurd rfl h

theorem Ledger.rested_of_phase {l : Ledger} (h : l.phase ≠ .idle) : l.rested = l := if_neg h

section

variable {x : Variable} {home : Content} {s s' : Session} {b : Backend} {sql : String} {c : Control}

/-- A control statement that is done is an event of its own kind. -/
theorem event_of_controlled {after : Backend} {name : List Char}
    (hcontrolled : Backend.Controlled b name c after) (htracks : s.status.Tracks b.phase) :
    Books.Step home (Link.booksOn ⟨s, b⟩ x)
        ⟨(s.afterControl c).setting x, (s.afterControl c).status, (after.ledger x).rested⟩ ∨
      c = .rollbackTo ∧ Books.Returned (Link.booksOn ⟨s, b⟩ x)
        ⟨(s.afterControl c).setting x, (s.afterControl c).status, (after.ledger x).rested⟩ := by
  rw [Session.setting_afterControl]
  cases hcontrolled with
  | opens hphase => exact .inl (.began (k := Link.booksOn ⟨s, b⟩ x) hphase)
  | commit hphase => exact .inl (.committed (k := Link.booksOn ⟨s, b⟩ x) hphase)
  | commitFailed hphase =>
    have hstatus : s.status = .inError := by
      rw [hphase] at htracks
      cases hs : s.status with
      | inError => rfl
      | idle | inTransaction =>
        rw [hs] at htracks
        cases htracks
    rw [if_pos hstatus]
    exact .inl (.rolledBack (k := Link.booksOn ⟨s, b⟩ x))
  | rollback => exact .inl (.rolledBack (k := Link.booksOn ⟨s, b⟩ x))
  | savepoint hphase =>
    rw [Ledger.rested_of_phase (by show b.phase ≠ .idle; rw [hphase]; simp)]
    exact .inl (.marked (k := Link.booksOn ⟨s, b⟩ x) hphase)
  | @rollbackTo p newer older hphase hsplit =>
    refine .inr ⟨rfl, @Books.Returned.mk (Link.booksOn ⟨s, b⟩ x) (newer.map (·.2 x)) _ _ ?_⟩
    show b.savepoints.map (·.2 x) = _
    rw [hsplit, List.map_append]
    rfl
  | @release p newer older hphase hsplit =>
    rw [Ledger.rested_of_phase (by show b.phase ≠ .idle; rw [hphase]; simp)]
    refine .inl (@Books.Step.released home (Link.booksOn ⟨s, b⟩ x) (newer.map (·.2 x)) _ (p.2 x)
      hphase ?_)
    show b.savepoints.map (·.2 x) = _
    rw [hsplit, List.map_append]
    rfl

/-- A control statement is an event, whether it is sent as a batch, which is settled, or with
parameters. -/
theorem event_of_solo (hsql : Solo sql c) (htracks : s.status.Tracks b.phase)
    (hs' : s' = s.track sql (b.serve [sql.toList]).1.isDone ∨
      s' = (s.track sql (b.serve [sql.toList]).1.isDone).settle (b.serve [sql.toList]).1.isDone) :
    Books.Step home (Link.booksOn ⟨s, b⟩ x) (Link.booksOn ⟨s', (b.serve [sql.toList]).2⟩ x) ∨
      c = .rollbackTo ∧
        Books.Returned (Link.booksOn ⟨s, b⟩ x) (Link.booksOn ⟨s', (b.serve [sql.toList]).2⟩ x) := by
  unfold Link.booksOn
  rcases b.serve_ledger_of_control hsql.control x with ⟨hok, after, hcontrolled, hledger⟩ |
    ⟨hok, hledger⟩
  · rw [hok, hsql.track_done] at hs'
    have hsettled : (s.afterControl c).settle true = s.afterControl c := by
      refine Session.settle_afterControl fun hc => ?_
      have hphase : b.phase = .inTransaction := by
        rcases hc with rfl | rfl
        · cases hcontrolled
          assumption
        · cases hcontrolled
          assumption
      rw [hphase] at htracks
      exact htracks.inTransaction
    have hsame : s' = s.afterControl c := by
      rcases hs' with hs' | hs'
      · exact hs'
      · exact hs'.trans hsettled
    rw [hledger, hsame]
    exact event_of_controlled hcontrolled htracks
  · rw [hok, hsql.track_failed] at hs'
    refine .inl ?_
    rw [hledger]
    cases hend : c.isEnd with
    | true =>
      rw [hend] at hs'
      have hsame : s' = { s.rolledBack with status := .idle } := by
        rcases hs' with hs' | hs'
        · exact hs'
        · exact hs'.trans (Session.rolledBack_of_not s.ignore.rolledBack_uncommitted
            s.path.rolledBack_uncommitted)
      rw [hsame]
      simp only [Session.setting_status, Session.setting_rolledBack]
      exact .rolledBack (k := Link.booksOn ⟨s, b⟩ x)
    | false =>
      rw [hend, if_neg (by simp)] at hs'
      rw [if_neg (by simp)]
      by_cases hopens : c = .opens
      · rw [if_pos hopens] at hs'
        have hsame : s' = { s with status := .inError } := by
          rcases hs' with hs' | hs' <;> exact hs'
        rw [hsame, Session.setting_status]
        exact .strayed (k := Link.booksOn ⟨s, b⟩ x)
      · rw [if_neg hopens] at hs'
        rcases hs' with rfl | rfl
        · exact .failed (k := Link.booksOn ⟨s, b⟩ x) (.inl (Session.setting_status _ _ x))
        · rw [Session.settle_status, Session.setting_settle, Session.setting_status]
          exact .failed (k := Link.booksOn ⟨s, b⟩ x) (.inr rfl)

end

/-! ## Sessions -/

/-- The undoing of the search path says nothing about the triggers to ignore. -/
theorem Session.silent_undoPath {s : Session} (h : s.PathClosed) {sql : String}
    (hsql : s.undoPath? = some sql) : Silent .ignore sql := by
  obtain ⟨path, -, hstatements⟩ := statements_undoPath h hsql
  unfold Silent
  rw [hstatements]
  intro st hst
  rw [List.mem_singleton.1 hst]
  exact ⟨ofStatement?_setLead _ _ _, writes_setLead (by simp)⟩

/-- A reset of the triggers to ignore says nothing about the search path. -/
theorem silent_resetIgnore : Silent .path resetIgnoreSql := by
  unfold Silent
  rw [announces_resetIgnore.statements_eq]
  intro st hst
  rw [List.mem_singleton.1 hst]
  exact ⟨ofStatement?_resetIgnore, writes_resetIgnore⟩

/-- Before it is known what the search path was, there is nothing to undo on it. -/
theorem Session.closePath_of_untouched {s : Session} (hinitial : s.initialPath = none)
    (hpath : s.path = {}) (queueOnly : Bool) : s.closePath queueOnly = (none, s) := by
  obtain ⟨status, ignore, path, initial⟩ := s
  cases hinitial
  cases hpath
  rfl

theorem silent_showPath (x : Variable) : Silent x "SHOW search_path" := by
  unfold Silent
  rw [Backend.statements_showPath]
  cases x <;> decide

namespace Link

variable {x : Variable} {home : Content} {l : Link Backend} {o : Overrides}

/-- An undoing that says nothing about the variable. -/
theorem steps_undo_of_silent {undo : Option String} (hundo : ∀ sql, undo = some sql → Silent x sql) :
    Relation.ReflTransGen (Books.Step home) (l.booksOn x) ((l.undo undo).2.booksOn x) := by
  cases undo with
  | none => exact .refl
  | some sql =>
    show Relation.ReflTransGen _ _ (booksOn (l.own sql).2 x)
    rw [own_eq]
    exact .single (step_of_silent (silent_empty x) (hundo sql rfl))

/-- A session on the variable is closed: it is counted, and the last one is undone or will be. -/
theorem steps_close (undo : String) (queueOnly : Bool) {s : Session}
    (hstatements : ∃ st, Sql.statements undo.toList = [st] ∧ Control.ofStatement? st = none ∧
      ∀ held, (Effect.ofStatement st).on x (l.server.conduct.defaults x) held = ⟨home, none⟩)
    (hstatus : s.status = l.session.status)
    (hsetting : s.setting x = ((l.session.setting x).close (l.session.status = .idle)
      (!queueOnly && l.session.status ≠ .inError) (some undo)).2) :
    Relation.ReflTransGen (Books.Step home) (l.booksOn x)
      ((Link.undo ((l.session.setting x).close (l.session.status = .idle)
        (!queueOnly && l.session.status ≠ .inError) (some undo)).1
          { l with session := s }).2.booksOn x) := by
  have hbooks : Link.booksOn { l with session := s } x =
      ⟨s.setting x, l.session.status, l.server.ledger x⟩ := by
    unfold booksOn
    rw [hstatus]
  rcases (l.session.setting x).close_some (l.session.status = .idle)
    (!queueOnly && l.session.status ≠ .inError) undo with
    ⟨hclose, hnone⟩ | ⟨hclose, hsend⟩ | hclose
  · rw [hclose] at hsetting ⊢
    have hnone' : 0 < (l.session.setting x).sessions - 1 ∨
        l.session.status = .idle ∧ (l.session.setting x).dirty = false := by simpa using hnone
    show Relation.ReflTransGen _ _ (booksOn { l with session := s } x)
    rw [hbooks, hsetting]
    exact .single (.closed (k := l.booksOn x) hnone')
  · rw [hclose] at hsetting ⊢
    have herror : l.session.status ≠ .inError := by
      simp only [Bool.and_eq_true, decide_eq_true_eq] at hsend
      exact hsend.2
    refine (Relation.ReflTransGen.single (Books.Step.queued (k := l.booksOn x))).tail ?_
    show Books.Step home _ (booksOn (Link.own undo { l with session := s }).2 x)
    rw [own_eq]
    obtain ⟨st, hst, hordinary, heffect⟩ := hstatements
    -- the undoing that is sent is the one that was queued
    refine step_of_dues true none (silent_empty x) rfl hstatus ?_ ?_ ?_ herror ?_
    · rw [hsetting, Setting.setAlong_of_local]
      rfl
    · rw [hst]
      simpa using hordinary
    · rw [hst]
      exact heffect _
    · intro h
      cases h
  · rw [hclose] at hsetting ⊢
    show Relation.ReflTransGen _ _ (booksOn { l with session := s } x)
    rw [hbooks, hsetting]
    exact .single (.queued (k := l.booksOn x))

theorem steps_closeIgnore
    (hundoes : l.session.Undoes (l.server.conduct.defaults x) home x) (queueOnly : Bool) :
    Relation.ReflTransGen (Books.Step home) (l.booksOn x)
      ((l.closeIgnore queueOnly).2.booksOn x) := by
  cases x with
  | ignore =>
    have hdefault : l.server.conduct.defaults .ignore = home := hundoes
    refine steps_close resetIgnoreSql queueOnly (s := (l.session.closeIgnore queueOnly).2)
      ⟨resetIgnore, announces_resetIgnore.statements_eq, ofStatement?_resetIgnore, fun held => ?_⟩
      rfl rfl
    rw [effect_reset, hdefault]
    rfl
  | path =>
    have hsame : Link.booksOn { l with session := (l.session.closeIgnore queueOnly).2 } .path =
        l.booksOn .path := rfl
    rw [← hsame]
    refine steps_undo_of_silent fun sql hsql => ?_
    rw [Session.eq_of_closeIgnore hsql]
    exact silent_resetIgnore

theorem steps_closePath (hpath : l.session.PathClosed)
    (hundoes : l.session.Undoes (l.server.conduct.defaults x) home x) (queueOnly : Bool) :
    Relation.ReflTransGen (Books.Step home) (l.booksOn x) ((l.closePath queueOnly).2.booksOn x) := by
  cases x with
  | ignore =>
    have hsame : Link.booksOn { l with session := (l.session.closePath queueOnly).2 } .ignore =
        l.booksOn .ignore := rfl
    rw [← hsame]
    exact steps_undo_of_silent fun sql hsql =>
      Session.silent_undoPath hpath (Session.eq_of_closePath hsql)
  | path =>
    cases hinitial : l.session.initialPath with
    | none =>
      have hsame : l.closePath queueOnly = (true, l) := by
        unfold closePath
        rw [Session.closePath_of_untouched hinitial (hundoes.known rfl hinitial)]
        rfl
      rw [hsame]
    | some path =>
      have hundo : l.session.undoPath? = some (setPathSql path) := by
        unfold Session.undoPath?
        rw [hinitial]
        rfl
      have hannounces := Session.announces_undoPath hpath
      rw [hundo, hinitial] at hannounces
      have hclose : l.session.closePath queueOnly =
          ((l.session.path.close (l.session.status = .idle)
              (!queueOnly && l.session.status ≠ .inError) (some (setPathSql path))).1,
            { l.session with path := (l.session.path.close (l.session.status = .idle)
              (!queueOnly && l.session.status ≠ .inError) (some (setPathSql path))).2 }) := by
        unfold Session.closePath
        rw [hundo]
      unfold closePath
      rw [hclose]
      exact steps_close (setPathSql path) queueOnly
        ⟨Session.undoPathStatement path, hannounces.statements_eq, ofStatement?_setLead _ _ _,
          fun held => on_undoPath _ (hundoes.2 path hinitial) held⟩ rfl rfl

/-- The request for the search path says nothing about what variables hold. Refused where no
transaction is taken for open, it changes nothing that is known. -/
theorem steps_openPath (hsighted : ¬ l.Blind) :
    Relation.ReflTransGen (Books.Step home) (l.booksOn x) (l.openPath.2.booksOn x) := by
  have hopened : ∀ (k : Books) (s : Session), s.setting .ignore = l.session.setting .ignore →
      s.setting .path = (l.session.setting .path).opened → k.setting = l.session.setting x →
      Relation.ReflTransGen (Books.Step home) k ⟨s.setting x, k.status, k.ledger⟩ := by
    intro k s hignore hsearch hk
    cases x with
    | ignore =>
      rw [hignore, ← hk]
    | path =>
      rw [hsearch, ← hk]
      exact .single .opened
  unfold openPath
  by_cases hfirst : l.session.path.sessions = 0
  · have hasked : Books.Step home (l.booksOn x) ⟨l.session.setting x, l.session.status,
        (l.server.receive showPathRequest).2.ledger x⟩ := by
      have hledger := ledger_of_prepared l.server (silent_showPath x) []
      unfold showPathRequest
      rw [hledger]
      cases hok : (l.server.receive (.prepared "SHOW search_path" [])).1.isDone with
      | true => exact .passed (k := l.booksOn x) (.inl rfl)
      | false =>
        have hstatus : l.session.status = l.session.status.failed := by
          cases hs : l.session.status with
          | idle | inError => rfl
          | inTransaction => exact absurd ⟨hfirst, hs, hok⟩ hsighted
        rw [if_neg (by simp)]
        exact hstatus ▸ Books.Step.failed (k := l.booksOn x) (.inl rfl)
    rw [if_pos hfirst]
    split
    next path _ =>
      exact .head hasked (hopened ⟨l.session.setting x, l.session.status, _⟩
        { l.session with initialPath := some path, path := l.session.path.opened } rfl rfl rfl)
    next => exact .single hasked
  · rw [if_neg hfirst]
    exact hopened (l.booksOn x) { l.session with path := l.session.path.opened } rfl rfl rfl

/-! ## Moves -/

/-- An orderly move takes the books along events, or is a rollback to a savepoint. -/
theorem steps_move (htracks : l.Tracks) (hpath : l.session.PathClosed) (ho : o.Registered)
    (hundoes : l.session.Undoes (l.server.conduct.defaults x) home x) {m : Move}
    (hm : m.OrderlyOn x) (hsighted : ¬ (m = .openPath ∧ l.Blind)) :
    Relation.ReflTransGen (Books.Step home) (l.booksOn x) ((l.move o m).booksOn x) ∨
      m.Returns ∧ Books.Returned (l.booksOn x) ((l.move o m).booksOn x) := by
  cases m with
  | batch sql =>
    rcases hm with hsql | ⟨c, hsql⟩
    · exact .inl (.single (step_batch hpath ho hundoes hsql))
    · have hevent : Books.Step home (l.booksOn x) ((l.batch o sql).2.booksOn x) ∨
          c = .rollbackTo ∧ Books.Returned (l.booksOn x) ((l.batch o sql).2.booksOn x) := by
        rw [batch_eq, hsql.withPreamble]
        show Books.Step home (l.booksOn x)
            (booksOn ⟨_, (l.server.serve (Sql.statements sql.toList)).2⟩ x) ∨
          c = .rollbackTo ∧ Books.Returned (l.booksOn x)
            (booksOn ⟨_, (l.server.serve (Sql.statements sql.toList)).2⟩ x)
        rw [hsql.statements]
        refine event_of_solo hsql htracks (.inr ?_)
        show Session.settle (l.session.track sql (l.server.serve (Sql.statements sql.toList)).1.isDone)
          (l.server.serve (Sql.statements sql.toList)).1.isDone = _
        rw [hsql.statements]
      rcases hevent with hstep | ⟨rfl, hreturned⟩
      · exact .inl (.single hstep)
      · exact .inr ⟨hsql, hreturned⟩
  | prepared sql params =>
    rcases hm with hsql | ⟨c, hsql⟩
    · exact .inl (steps_prepared hpath ho hundoes hsql params)
    · have hprepared : l.server.receive (.prepared sql params) = l.server.serve [sql.toList] := by
        rw [Backend.receive_prepared (by rw [hsql.statements]; simp), hsql.statements]
      have hmove : (l.move o (.prepared sql params)) =
          ⟨l.session.track sql (l.server.serve [sql.toList]).1.isDone,
            (l.server.serve [sql.toList]).2⟩ := by
        rw [← hprepared]
        show (l.prepared o sql params).2 = _
        unfold prepared
        simp only [preamble_of_control hsql.control, send_eq, learn]
      rw [hmove]
      rcases event_of_solo hsql htracks (.inl rfl) with hstep | ⟨rfl, hreturned⟩
      · exact .inl (.single hstep)
      · exact .inr ⟨hsql, hreturned⟩
  | openIgnore =>
    cases x with
    | ignore => exact .inl (.single (.opened (k := l.booksOn .ignore)))
    | path => exact .inl .refl
  | closeIgnore queueOnly => exact .inl (steps_closeIgnore hundoes queueOnly)
  | openPath => exact .inl (steps_openPath fun hblind => hsighted ⟨rfl, hblind⟩)
  | closePath queueOnly => exact .inl (steps_closePath hpath hundoes queueOnly)
  | rest => exact .inl .refl

end Link

end DeclaredTriggers
