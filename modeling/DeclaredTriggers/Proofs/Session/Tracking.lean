import DeclaredTriggers.Proofs.Session.Composed

/-!
# What a client takes its transaction for

A client never learns at which statement a batch failed, so what it takes its transaction for is a
guess that has to hold for each place. This file says when the guess is right, for every
transactional server, every batch and every row of calls.

The guess is right (`TransactionStatus.Tracks`) if idle means idle, in a transaction means in one,
and in error means that no usable transaction is open. It is a simulation: a batch that is done moves
status and phase alike, and one that fails leaves the server where no usable transaction is open, or
idle where it was idle and nothing opened one. What the runtime sends by itself controls nothing, and
`Link.own` tracks its failures. Only these two facts enter (`TransactionStatus.Guess`), so whatever
else they keep is followed through a move in the same way (`follows_move`).

One request is not tracked. The first session on the search path asks for the path it is to bring
back; refused inside a transaction, this fails the transaction, and the client still takes it for
open (`Client.Blind`). Nothing else goes wrong:

> `tracking_sound_iff`: what a client takes its transaction for is right all along a run exactly if
> no call of the run is blind.

Even then a client knows whether there is a transaction at all (`TransactionStatus.Discerns`):

> `discerns_after`: after every call, what is taken for idle is idle, and what is taken for open is not.
-/

namespace DeclaredTriggers

open Sql (Control)

/-- What is known of a transaction agrees with the phase that it is in. -/
def TransactionStatus.Tracks : TransactionStatus → Phase → Prop
  | .idle, p => p = .idle
  | .inTransaction, p => p = .inTransaction
  | .inError, p => p ≠ .inTransaction

instance : ∀ (st : TransactionStatus) (p : Phase), Decidable (st.Tracks p)
  | .idle, p => inferInstanceAs (Decidable (p = .idle))
  | .inTransaction, p => inferInstanceAs (Decidable (p = .inTransaction))
  | .inError, p => inferInstanceAs (Decidable (p ≠ .inTransaction))

/-- What is known of a transaction tells whether there is one, unless something failed. -/
def TransactionStatus.Discerns : TransactionStatus → Phase → Prop
  | .idle, p => p = .idle
  | .inTransaction, p => p ≠ .idle
  | .inError, _ => True

theorem TransactionStatus.Tracks.discerns {st : TransactionStatus} {p : Phase} (h : st.Tracks p) :
    st.Discerns p := by
  cases st with
  | idle => exact h
  | inTransaction =>
    intro hidle
    rw [hidle] at h
    cases h
  | inError => trivial

/-- Statements that control nothing can be left out of what was done. -/
theorem Phase.Serves.without {p p' : Phase} {pre ds post : List (List Char)}
    (h : p.Serves (pre ++ ds ++ post) true p') (hds : ∀ d ∈ ds, Control.ofStatement? d = none) :
    p.Serves (pre ++ post) true p' := by
  obtain ⟨q, hq, hpost⟩ := h.split
  obtain ⟨r, hpre, hr⟩ := hq.split
  have hsame : q = r := hr.of_ordinary hds
  rw [hsame] at hpost
  exact hpre.append hpost

namespace Session

/-! ## What is known after a request -/

theorem settle_status (s : Session) (ok : Bool) : (s.settle ok).status = s.status := by
  unfold settle
  split
  next => rfl
  next => split <;> rfl

/-- A batch that ends a transaction and nothing else. -/
theorem statements_of_endsTransaction {sql : String} (h : endsTransaction sql) :
    ∃ st, Sql.statements sql.toList = [st] ∧
      (Control.ofStatement? st = some .commit ∨ Control.ofStatement? st = some .rollback) := by
  unfold endsTransaction controlsOf at h
  rw [Bool.and_eq_true, Bool.or_eq_true, decide_eq_true_eq, decide_eq_true_eq,
    decide_eq_true_eq] at h
  obtain ⟨hlength, hhead⟩ := h
  obtain ⟨st, hst⟩ := List.length_eq_one_iff.1 hlength
  refine ⟨st, hst, ?_⟩
  rw [hst] at hhead
  cases hc : Control.ofStatement? st with
  | none => simp [hc] at hhead
  | some c => simpa [hc] using hhead

end Session

/-- A guess about a transaction that every statement keeps, whether it is done or fails: what stops a
text leaves no transaction usable, and none open where none was opened or where it was to end. -/
structure TransactionStatus.Guess (R : TransactionStatus → Phase → Prop) : Prop where
  control : ∀ {s : Session} {c : Control} {p p' : Phase}, R s.status p →
    p.after? (some c) = some p' → R (s.afterControl c).status p'
  failed : ∀ {s : Session} {sql : String} {p p' : Phase}, R s.status p → p' ≠ .inTransaction →
    (p = .idle → (∀ st ∈ Sql.statements sql.toList, Control.ofStatement? st ≠ some .opens) →
      p' = .idle) →
    (Session.endsTransaction sql → p' = .idle) → R (s.afterFailure sql).status p'

/-- What is taken for the transaction after a failure: none where it was to end, an error where there was
one or the text opened one, and else none as before. -/
theorem Session.afterFailure_cases (s : Session) (sql : String) :
    (s.afterFailure sql).status = .idle ∧ endsTransaction sql ∨
      (s.afterFailure sql).status = .inError ∨
      (s.afterFailure sql).status = .idle ∧ s.status = .idle ∧
        ∀ st ∈ Sql.statements sql.toList, Control.ofStatement? st ≠ some .opens := by
  unfold afterFailure
  split
  next hends => exact .inl ⟨rfl, hends⟩
  split
  next => exact .inr (.inl rfl)
  next hquiet =>
    simp only [ne_eq, Bool.or_eq_true, decide_eq_true_eq, not_or, Classical.not_not, Bool.not_eq_true]
      at hquiet
    obtain ⟨hstatus, hcontrols⟩ := hquiet
    refine .inr (.inr ⟨rfl, hstatus, fun st hst hopens => ?_⟩)
    have : Control.opens ∈ controlsOf sql := List.mem_filterMap.2 ⟨st, hst, hopens⟩
    rw [List.contains_eq_mem, decide_eq_false_iff_not] at hcontrols
    exact hcontrols this

namespace TransactionStatus

theorem guess_tracks : Guess Tracks where
  control {s c p p'} h hafter := by
    cases c with
    | opens =>
      rcases p with _ | _ | _ <;> cases hafter <;> rfl
    | commit | rollback =>
      cases hafter
      rfl
    | rollbackTo =>
      rcases p with _ | _ | _ <;> cases hafter <;> rfl
    | savepoint | release =>
      -- these are done in a transaction only, and leave it open
      rcases p with _ | _ | _ <;> cases hafter
      exact h
  failed {s sql p p'} h hstop hidle hend := by
    rcases s.afterFailure_cases sql with ⟨hstatus, hends⟩ | hstatus | ⟨hstatus, hs, hnone⟩
    · rw [hstatus]
      exact hend hends
    · rw [hstatus]
      exact hstop
    · rw [hs] at h
      rw [hstatus]
      exact hidle h hnone

theorem guess_discerns : Guess Discerns where
  control {s c p p'} h hafter := by
    have hopen : Discerns .inTransaction .inTransaction := fun hidle => (nomatch hidle)
    cases c with
    | opens =>
      rcases p with _ | _ | _ <;> cases hafter <;> exact hopen
    | commit | rollback =>
      cases hafter
      rfl
    | rollbackTo =>
      rcases p with _ | _ | _ <;> cases hafter <;> exact hopen
    | savepoint | release =>
      rcases p with _ | _ | _ <;> cases hafter
      exact h
  failed {s sql p p'} h hstop hidle hend := by
    rcases s.afterFailure_cases sql with ⟨hstatus, hends⟩ | hstatus | ⟨hstatus, hs, hnone⟩
    · rw [hstatus]
      exact hend hends
    · rw [hstatus]
      exact trivial
    · rw [hs] at h
      rw [hstatus]
      exact hidle h hnone

/-- Statements that are done move status and phase alike. -/
theorem Guess.of_done {R : TransactionStatus → Phase → Prop} (hR : Guess R) {s : Session}
    {p p' : Phase} {ss : List (List Char)} {ok : Bool} (hserves : p.Serves ss ok p')
    (hok : ok = true) (h : R s.status p) :
    R ((ss.filterMap Control.ofStatement?).foldl Session.afterControl s).status p' := by
  induction hserves generalizing s with
  | done => exact h
  | @went p q p' st rest ok hafter _ ih =>
    cases hc : Control.ofStatement? st with
    | none =>
      rw [hc] at hafter
      obtain ⟨rfl, -⟩ := Phase.eq_of_after?_none hafter
      rw [List.filterMap_cons_none hc]
      exact ih hok h
    | some c =>
      rw [hc] at hafter
      rw [List.filterMap_cons_some hc]
      exact ih hok (hR.control h hafter)
  | stopped => cases hok

end TransactionStatus

namespace Session

/-- The end of a transaction is sent as it is. -/
theorem withPreamble_of_endsTransaction {sql : String} (h : endsTransaction sql) (s : Session)
    (o : Overrides) : s.withPreamble o sql = (sql, s) := by
  obtain ⟨st, hst, hc⟩ := statements_of_endsTransaction h
  rcases hc with hc | hc
  all_goals
    refine withPreamble_of_control (by rw [hst]; exact hc) ?_ s o
    intro henters
    cases henters

end Session

/-- An undoing that is sent is the one that was given. -/
theorem eq_of_close {s : Setting} {idle canSend : Bool} {undo : Option String} {sql : String}
    (h : (s.close idle canSend undo).1 = some sql) : undo = some sql := by
  unfold Setting.close at h
  cases undo with
  | none => cases h
  | some u =>
    simp only at h
    split at h
    next => cases h
    next =>
      split at h
      next => exact h
      next => cases h

theorem Session.eq_of_closeIgnore {s : Session} {queueOnly : Bool} {sql : String}
    (h : (s.closeIgnore queueOnly).1 = some sql) : sql = resetIgnoreSql :=
  (Option.some.inj (eq_of_close h)).symm

theorem Session.eq_of_closePath {s : Session} {queueOnly : Bool} {sql : String}
    (h : (s.closePath queueOnly).1 = some sql) : s.undoPath? = some sql :=
  eq_of_close h

/-! ## Moves -/

namespace Link

variable {σ : Type} [Transactional σ]

open Transactional (phase)

/-- What is known of the transaction agrees with the phase of the server. -/
def Tracks (l : Link σ) : Prop := l.session.status.Tracks (phase l.server)

/-- What is known of the transaction and the phase of the server are as `R` says. -/
def Follows (R : TransactionStatus → Phase → Prop) (l : Link σ) : Prop :=
  R l.session.status (phase l.server)

section

variable {R : TransactionStatus → Phase → Prop} (hR : TransactionStatus.Guess R)

theorem serves_send (l : Link σ) (sql : String) :
    (phase l.server).Serves (Sql.statements sql.toList) (l.send (.batch sql)).1
      (phase (l.send (.batch sql)).2.server) :=
  Transactional.batch sql l.server

include hR

/-- What a client sends by itself is followed, whether it is done or not. -/
theorem follows_own {l : Link σ} {sql : String} (h : l.Follows R)
    (hsql : ∀ st ∈ Sql.statements sql.toList, Control.ofStatement? st = none) :
    (l.own sql).2.Follows R := by
  have hserves := (l.serves_send sql).of_ordinary hsql
  unfold Follows own
  generalize hsent : l.send (.batch sql) = sent at hserves
  have hsession : sent.2.session = l.session := by rw [← hsent]; rfl
  obtain ⟨_ | _, l'⟩ := sent
  · show R (Session.settle (l'.session.track "" false) false).status (phase l'.server)
    rw [Session.settle_status, hsession, hserves]
    rw [Session.track_false]
    refine hR.failed h (phase l.server).aborted_ne_inTransaction ?_ ?_
    · intro hidle _
      rw [hidle]
      rfl
    · intro hends
      obtain ⟨st, hst, -⟩ := Session.statements_of_endsTransaction hends
      cases hst
  · show R (l'.session.settle true).status (phase l'.server)
    rw [Session.settle_status, hsession, hserves]
    exact h

theorem follows_preamble {l : Link σ} {o : Overrides} (h : l.Follows R)
    (hpath : l.session.PathClosed) (ho : o.Registered) (sql : String) :
    (l.preamble o sql).2.Follows R := by
  have hkept : R (l.session.preamble o sql false).2.status (phase l.server) := by
    rw [(Session.preamble_status _ _ _ _).1]
    exact h
  cases hcontrol : controlOf? sql with
  | some control =>
    rw [preamble_of_control hcontrol]
    exact h
  | none =>
    by_cases htext : (l.session.preamble o sql false).1 = ""
    · rw [preamble_of_empty hcontrol htext]
      exact hkept
    · rw [preamble_of_text hcontrol htext]
      obtain ⟨ds, hannounces, hds⟩ := Session.preamble_announces hpath ho sql false
      refine follows_own hR hkept ?_
      rw [hannounces.statements_eq]
      exact hds

/-- A batch is followed, however its statements are mixed and wherever it fails. -/
theorem follows_batch {l : Link σ} {o : Overrides} (h : l.Follows R) (hpath : l.session.PathClosed)
    (ho : o.Registered) (sql : String) : (l.batch o sql).2.Follows R := by
  have hstatus := (Session.withPreamble_status l.session o sql).1
  obtain ⟨pre, ds, post, hsql, hfull, hds⟩ := Session.statements_withPreamble hpath ho sql
  have hserves := Transactional.batch (l.session.withPreamble o sql).1 l.server
  have hkept : R (l.session.withPreamble o sql).2.status (phase l.server) := by
    rw [hstatus]
    exact h
  unfold Follows
  rw [batch_def, Session.settle_status]
  rw [hfull] at hserves
  generalize Server.receive (.batch (l.session.withPreamble o sql).1) l.server = received
    at hserves ⊢
  obtain ⟨reply, server⟩ := received
  simp only at hserves ⊢
  cases hok : reply.isDone with
  | true =>
    rw [hok] at hserves
    rw [Session.track_true, controlsOf, hsql]
    exact hR.of_done (hserves.without hds) rfl hkept
  | false =>
    rw [hok] at hserves
    rw [Session.track_false]
    refine hR.failed hkept (hserves.ne_inTransaction rfl) ?_ ?_
    · intro hidle hopens
      refine hserves.idle_of_failed rfl hidle fun st hst => ?_
      rw [List.append_assoc, List.mem_append, List.mem_append] at hst
      rw [hsql] at hopens
      rcases hst with hst | hst | hst
      · exact hopens st (List.mem_append_left _ hst)
      · rw [hds st hst]
        simp
      · exact hopens st (List.mem_append_right _ hst)
    · intro hends
      -- then the batch went out as it is, and a failing end ends the transaction
      obtain ⟨st, hst, hc⟩ := Session.statements_of_endsTransaction hends
      have hsent := Session.withPreamble_of_endsTransaction hends l.session o
      rw [← hfull, hsent, hst] at hserves
      exact hserves.idle_of_end hc

/-- A statement with parameters is followed, and so is a text that is refused because it holds more
than one. -/
theorem follows_send_prepared {l : Link σ} (h : l.Follows R) (sql : String)
    (params : List String) :
    ((l.send (.prepared sql params)).2.learn
      (·.track sql (l.send (.prepared sql params)).1)).Follows R := by
  have hreceived := Transactional.prepared sql params l.server
  unfold Follows learn
  rw [send_def]
  generalize Server.receive (.prepared sql params) l.server = received at hreceived ⊢
  obtain ⟨reply, server⟩ := received
  simp only at hreceived ⊢
  rcases hreceived with hserves | ⟨hmany, hrefused, hphase⟩
  · cases hok : reply.isDone with
    | true =>
      rw [hok] at hserves
      rw [Session.track_true]
      exact hR.of_done hserves rfl h
    | false =>
      rw [hok] at hserves
      rw [Session.track_false]
      refine hR.failed h (hserves.ne_inTransaction rfl)
        (hserves.idle_of_failed rfl) fun hends => ?_
      obtain ⟨st, hst, hc⟩ := Session.statements_of_endsTransaction hends
      rw [hst] at hserves
      exact hserves.idle_of_end hc
  · rw [hrefused, hphase]
    rw [Session.track_false]
    refine hR.failed h (phase l.server).aborted_ne_inTransaction ?_ ?_
    · intro hidle _
      rw [hidle]
      rfl
    · intro hends
      obtain ⟨st, hst, -⟩ := Session.statements_of_endsTransaction hends
      rw [hst] at hmany
      exact absurd hmany (by simp)

theorem follows_prepared {l : Link σ} {o : Overrides} (h : l.Follows R)
    (hpath : l.session.PathClosed) (ho : o.Registered) (sql : String) (params : List String) :
    (l.prepared o sql params).2.Follows R := by
  have hpreamble := follows_preamble hR h hpath ho sql
  unfold prepared
  generalize l.preamble o sql = p at hpreamble ⊢
  obtain ⟨_ | _, l'⟩ := p
  · exact hpreamble
  · exact follows_send_prepared hR hpreamble sql params

theorem follows_undo {l : Link σ} {undo : Option String} (h : l.Follows R)
    (hundo : ∀ sql, undo = some sql → ∀ st ∈ Sql.statements sql.toList,
      Control.ofStatement? st = none) : (l.undo undo).2.Follows R := by
  cases undo with
  | none => exact h
  | some sql => exact follows_own hR h (hundo sql rfl)

theorem follows_closeIgnore {l : Link σ} (h : l.Follows R) (queueOnly : Bool) :
    (l.closeIgnore queueOnly).2.Follows R := by
  refine follows_undo hR (l := { l with session := (l.session.closeIgnore queueOnly).2 }) h ?_
  intro sql hsql
  rw [Session.eq_of_closeIgnore hsql, announces_resetIgnore.statements_eq]
  simpa using ofStatement?_resetIgnore

theorem follows_closePath {l : Link σ} (h : l.Follows R) (hpath : l.session.PathClosed)
    (queueOnly : Bool) : (l.closePath queueOnly).2.Follows R := by
  refine follows_undo hR (l := { l with session := (l.session.closePath queueOnly).2 }) h ?_
  intro sql hsql
  obtain ⟨path, -, hstatements⟩ := Session.statements_undoPath hpath (Session.eq_of_closePath hsql)
  rw [hstatements]
  intro st hst
  rw [List.mem_singleton.1 hst]
  exact ofStatement?_setLead _ _ _

end

/-- The link asks for its search path in a transaction, and is refused. -/
def Blind (l : Link σ) : Prop :=
  l.session.path.sessions = 0 ∧ l.session.status = .inTransaction ∧
    (Server.receive showPathRequest l.server).1.isDone = false

instance (l : Link σ) : Decidable l.Blind := inferInstanceAs (Decidable (_ ∧ _ ∧ _))

/-- The search path is asked for without a change of phase, unless the request fails. -/
theorem phase_showPath (l : Link σ) : phase (Server.receive showPathRequest l.server).2 =
    if (Server.receive showPathRequest l.server).1.isDone then phase l.server
    else (phase l.server).aborted := by
  have hordinary : ∀ st ∈ Sql.statements "SHOW search_path".toList,
      Control.ofStatement? st = none := by
    rw [Backend.statements_showPath]
    decide
  rcases Transactional.prepared "SHOW search_path" [] l.server with hserves | ⟨hmany, -⟩
  · exact hserves.of_ordinary hordinary
  · rw [Backend.statements_showPath] at hmany
    exact absurd hmany (by decide)

/-- The request for the search path is followed if its refusal is. -/
theorem follows_openPath {R : TransactionStatus → Phase → Prop} {l : Link σ} (h : l.Follows R)
    (hrefused : l.session.path.sessions = 0 →
      (Server.receive showPathRequest l.server).1.isDone = false →
      R l.session.status (phase l.server).aborted) : l.openPath.2.Follows R := by
  have hphase := l.phase_showPath
  unfold openPath
  by_cases hfirst : l.session.path.sessions = 0
  · have hafter : R l.session.status (phase (Server.receive showPathRequest l.server).2) := by
      rw [hphase]
      cases hok : (Server.receive showPathRequest l.server).1.isDone with
      | true => exact h
      | false => exact hrefused hfirst hok
    rw [if_pos hfirst]
    split
    next => exact hafter
    next => exact hafter
  · rw [if_neg hfirst]
    exact h

/-- Every move is followed, if the refusal of a request for the search path is. -/
theorem follows_move {R : TransactionStatus → Phase → Prop} (hR : TransactionStatus.Guess R)
    {l : Link σ} {o : Overrides} (h : l.Follows R) (hpath : l.session.PathClosed)
    (ho : o.Registered) {m : Move}
    (hrefused : m = .openPath → l.session.path.sessions = 0 →
      (Server.receive showPathRequest l.server).1.isDone = false →
      R l.session.status (phase l.server).aborted) : (l.move o m).Follows R := by
  cases m with
  | batch sql => exact follows_batch hR h hpath ho sql
  | prepared sql params => exact follows_prepared hR h hpath ho sql params
  | openIgnore | rest => exact h
  | closeIgnore queueOnly => exact follows_closeIgnore hR h queueOnly
  | closePath queueOnly => exact follows_closePath hR h hpath queueOnly
  | openPath => exact follows_openPath h (hrefused rfl)

/-- A request for the search path that fails a transaction leaves it taken for open. -/
theorem Blind.not_tracks {l : Link σ} (h : l.Blind) : ¬ l.openPath.2.Tracks := by
  obtain ⟨hfirst, hin, hok⟩ := h
  have hphase := l.phase_showPath
  have hafter : ∀ l' : Link σ, l'.session.status = l.session.status →
      l'.server = (Server.receive showPathRequest l.server).2 → ¬ l'.Tracks := by
    intro l' hstatus hserver htracks
    unfold Tracks at htracks
    rw [hstatus, hserver, hphase, hin, hok] at htracks
    exact absurd htracks (Phase.aborted_ne_inTransaction _)
  unfold openPath
  rw [if_pos hfirst]
  split
  next => exact hafter _ rfl rfl
  next => exact hafter _ rfl rfl

/-- Every move is tracked, but for a request for the search path that fails a transaction. -/
theorem tracks_move_iff {l : Link σ} {o : Overrides} (h : l.Tracks)
    (hpath : l.session.PathClosed) (ho : o.Registered) (m : Move) :
    (l.move o m).Tracks ↔ ¬ (m = .openPath ∧ l.Blind) := by
  constructor
  · rintro htracks ⟨rfl, hblind⟩
    exact hblind.not_tracks htracks
  · intro hsighted
    refine follows_move TransactionStatus.guess_tracks (R := TransactionStatus.Tracks) h hpath ho ?_
    intro hopens hfirst hok
    unfold Tracks at h
    cases hs : l.session.status with
    | idle =>
      rw [hs] at h
      exact congrArg Phase.aborted h
    | inTransaction => exact absurd ⟨hopens, hfirst, hs, hok⟩ hsighted
    | inError => exact Phase.aborted_ne_inTransaction _

/-- Every move leaves it known whether there is a transaction. -/
theorem discerns_move {l : Link σ} {o : Overrides} (h : l.Follows TransactionStatus.Discerns)
    (hpath : l.session.PathClosed) (ho : o.Registered) (m : Move) :
    (l.move o m).Follows TransactionStatus.Discerns := by
  refine follows_move TransactionStatus.guess_discerns h hpath ho fun _ _ _ => ?_
  unfold Follows at h
  cases hs : l.session.status with
  | idle =>
    rw [hs] at h
    exact congrArg Phase.aborted h
  | inTransaction =>
    rw [hs] at h
    intro hidle
    have hphase : phase l.server = .idle := by
      generalize phase l.server = p at hidle ⊢
      rcases p with _ | _ | _ <;> first | rfl | cases hidle
    exact h hphase
  | inError => trivial

end Link

namespace Client

variable {σ : Type} [Transactional σ]

/-- What a client takes its transaction for is right. -/
def Tracks (c : Client σ) : Prop :=
  c.session.status.Tracks (Transactional.phase c.wire.server)

instance (c : Client σ) : Decidable c.Tracks :=
  inferInstanceAs (Decidable (c.session.status.Tracks _))

/-- A call opens the first session on the search path in a transaction, and the request for the path
is refused. -/
def Blind (c : Client σ) (call : Call) : Prop := c.move call = .openPath ∧ c.link.Blind

instance (c : Client σ) (call : Call) : Decidable (c.Blind call) :=
  inferInstanceAs (Decidable (_ ∧ _))

/-- A call that is not blind is tracked, and a blind one is not. -/
theorem tracks_after_iff {c : Client σ} (hc : c.Composed) (h : c.Tracks) (call : Call) :
    (c.after call).Tracks ↔ ¬ c.Blind call := by
  show (c.after call).link.Tracks ↔ _
  rw [link_after hc call]
  exact Link.tracks_move_iff (show c.link.Tracks from h) hc.pathClosed hc.registered _

/-- After every call, what is taken for idle is idle, and what is taken for open is not. -/
theorem discerns_after {c : Client σ} (hc : c.Composed)
    (h : c.session.status.Discerns (Transactional.phase c.wire.server)) (call : Call) :
    (c.after call).session.status.Discerns (Transactional.phase (c.after call).wire.server) := by
  show (c.after call).link.Follows TransactionStatus.Discerns
  rw [link_after hc call]
  exact Link.discerns_move (show c.link.Follows _ from h) hc.pathClosed hc.registered _

theorem tracks_run_iff {c : Client σ} (hc : c.Composed) (h : c.Tracks) (calls : List Call) :
    (∀ before, before <+: calls → (c.run before).Tracks) ↔
      Along (fun c call => ¬ c.Blind call) c calls := by
  induction calls generalizing c with
  | nil =>
    refine ⟨fun _ => trivial, fun _ before hbefore => ?_⟩
    rw [List.prefix_nil.1 hbefore]
    exact h
  | cons call rest ih =>
    have hstep := tracks_after_iff hc h call
    have hrest : (c.after call).Tracks →
        ((∀ before, before <+: rest → ((c.after call).run before).Tracks) ↔
          Along (fun c call => ¬ c.Blind call) (c.after call) rest) :=
      fun hafter => ih (composed_after hc call) hafter
    constructor
    · intro hall
      have hafter : (c.after call).Tracks := hall [call] (List.prefix_append [call] rest)
      refine ⟨hstep.1 hafter, (hrest hafter).1 fun before hbefore => ?_⟩
      exact hall (call :: before) ((List.prefix_cons_inj call).2 hbefore)
    · rintro ⟨hsighted, halong⟩ before hbefore
      cases before with
      | nil => exact h
      | cons first before =>
        obtain ⟨rfl, htail⟩ := List.cons_prefix_cons.1 hbefore
        exact (hrest (hstep.2 hsighted)).2 halong before htail

/-- What a client takes its transaction for is right all along a run, whatever is sent and whatever
fails, exactly if no call of the run is blind. -/
theorem tracking_sound_iff {c : Client σ} (hfresh : c.Fresh) (hstart : c.Tracks)
    (calls : List Call) :
    (∀ before, before <+: calls → (c.run before).Tracks) ↔
      Along (fun c call => ¬ c.Blind call) c calls :=
  tracks_run_iff hfresh.composed hstart calls

/-- A statement is cancelled in a transaction, and the transaction rolled back: what the client takes
it for is right all along. -/
theorem tracking_sound_of_cancelled :
    let c : Client Backend := connectedTo { conduct := .cancelling (some 1) } .idle
    let calls : List Call := [.batch "BEGIN", .execute "DELETE FROM library_book" [], .joinPath,
      .batch "ROLLBACK"]
    (c.run (calls.take 2)).session.status = .inError ∧
      ∀ before, before <+: calls → (c.run before).Tracks := by
  intro c calls
  have hfacts : (c.run (calls.take 2)).session.status = .inError ∧ c.Tracks ∧
      Along (fun c call => ¬ c.Blind call) c calls := by decide +kernel
  obtain ⟨herror, hstart, hsighted⟩ := hfacts
  exact ⟨herror, (tracking_sound_iff (fresh_connectedTo _ (by simp)) hstart calls).2 hsighted⟩

/-- The request for the search path is cancelled in a transaction, and the client takes it for open
still. -/
theorem tracking_not_sound :
    ¬ ∀ c : Client Backend, c.Fresh → c.Tracks → ∀ calls, (c.run calls).Tracks := by
  intro hall
  let c : Client Backend :=
    connectedTo { conduct := .cancelling (some 0), phase := .inTransaction } .inTransaction
  have hfacts : c.Tracks ∧ ¬ (c.run [.search ["tenant"]]).Tracks := by decide +kernel
  exact hfacts.2 (hall c (fresh_connectedTo _ (by simp)) hfacts.1 _)

end Client

end DeclaredTriggers
