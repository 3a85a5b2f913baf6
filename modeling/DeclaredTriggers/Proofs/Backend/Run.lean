import DeclaredTriggers.Proofs.Backend.Basic

/-!
# Runs of a backend

What a request does to a backend, statement by statement. `Backend.Ran` says it as a derivation:
each statement was either accepted, or failed and was the last. Which statements fail is left open
by the rules, so a statement about all derivations is a statement about all conducts.

An argument about a run is an argument about one accepted statement, and about what a failure leaves
(`Backend.failedAt`). Two such arguments are made here. A backend follows the rules of phases:

> `instTransactionalBackend`: a backend is a transactional server.

And between requests no work is left over where no transaction is open:

> `tidy_receive`: after every request the backend is `Tidy`.
-/

namespace DeclaredTriggers

open Sql (Control)

namespace Backend

/-! ## What a step leaves alone -/

@[simp] theorem ticked_phase (b : Backend) : b.ticked.phase = b.phase := rfl
@[simp] theorem ticked_outside (b : Backend) : b.ticked.outside = b.outside := rfl
@[simp] theorem ticked_holdings (b : Backend) : b.ticked.holdings = b.holdings := rfl
@[simp] theorem ticked_savepoints (b : Backend) : b.ticked.savepoints = b.savepoints := rfl
@[simp] theorem ticked_conduct (b : Backend) : b.ticked.conduct = b.conduct := rfl
@[simp] theorem ticked_executed (b : Backend) : b.ticked.executed = b.executed := rfl
@[simp] theorem ticked_value (b : Backend) : b.ticked.value = b.value := rfl

section

variable (before b : Backend) (s : List Char)

@[simp] theorem logged_phase : (logged before s b).phase = b.phase := rfl
@[simp] theorem logged_outside : (logged before s b).outside = b.outside := rfl
@[simp] theorem logged_holdings : (logged before s b).holdings = b.holdings := rfl
@[simp] theorem logged_savepoints : (logged before s b).savepoints = b.savepoints := rfl
@[simp] theorem logged_conduct : (logged before s b).conduct = b.conduct := rfl
@[simp] theorem logged_value : (logged before s b).value = b.value := rfl

end

/-! ## What a statement can do -/

/-- An effect that is no control. -/
theorem ofStatement_control {s : List Char} {c : Control} :
    Effect.ofStatement s = .control c ↔ Control.ofStatement? s = some c := by
  unfold Effect.ofStatement
  split
  next c' hc => rw [hc]; simp
  next hc =>
    rw [hc]
    -- none of the words of the runtime controls a transaction
    have hset : ∀ x isLocal, ∀ e ∈ Effect.assigned? x isLocal s, e ≠ .control c := by
      rintro x isLocal e he rfl
      obtain ⟨t, -, ht⟩ := Option.map_eq_some_iff.1 he
      cases ht
    split
    next => simp
    split
    next => simp
    split
    next => simp
    simp only [reduceCtorEq, iff_false]
    have hfirst : ∀ o : Option Effect, (∀ e ∈ o, e ≠ .control c) → ∀ o' : Option Effect,
        (∀ e ∈ o', e ≠ .control c) → ∀ e ∈ (o <|> o'), e ≠ .control c := by
      intro o ho o' ho' e he
      cases o with
      | none => exact ho' e (by simpa using he)
      | some _ => exact ho e (by simpa using he)
    have hall := hfirst _ (hset .ignore true) _ (hfirst _ (hset .path true) _
      (hfirst _ (hset .ignore false) _ (hset .path false)))
    intro he
    generalize (Effect.assigned? .ignore true s <|> Effect.assigned? .path true s <|>
      Effect.assigned? .ignore false s <|> Effect.assigned? .path false s) = o at hall he
    cases o with
    | none => cases he
    | some e => exact hall e rfl he

theorem accepted?_of_control {s : List Char} {c : Control} (h : Control.ofStatement? s = some c)
    (b : Backend) : b.accepted? s = b.controlled? c (b.conduct.savepointName s) := by
  unfold accepted?
  rw [ofStatement_control.2 h]

/-- An ordinary statement changes nothing but what variables hold, and only in a transaction that
has not failed. -/
theorem accepted?_of_ordinary {s : List Char} (h : Control.ofStatement? s = none) {b b' : Backend}
    (ha : b.accepted? s = some b') :
    b.phase ≠ .failed ∧ b' = { b with holdings := b'.holdings } := by
  unfold accepted? at ha
  have hc : ∀ c, Effect.ofStatement s ≠ .control c := by
    intro c hc
    rw [ofStatement_control.1 hc] at h
    cases h
  split at ha
  next c hs => exact absurd hs (hc c)
  next x isLocal text _ =>
    split at ha
    next => cases ha
    next hp =>
      unfold assigned? at ha
      split at ha
      next =>
        cases ha
        exact ⟨hp, rfl⟩
      next => cases ha
  all_goals
    split at ha
    next => cases ha
    next hp =>
      cases ha
      exact ⟨hp, rfl⟩

theorem savepoints_eq_of_savepointsFrom {b : Backend} {name : List Char}
    {p : List Char × Holdings} {older : List (List Char × Holdings)}
    (h : b.savepointsFrom name = p :: older) :
    p.1 = name ∧ ∃ newer, b.savepoints = newer ++ p :: older ∧ ∀ q ∈ newer, q.1 ≠ name := by
  unfold savepointsFrom at h
  have hsplit : b.savepoints.takeWhile (·.1 ≠ name) ++ p :: older = b.savepoints := by
    rw [← h, List.takeWhile_append_dropWhile]
  refine ⟨?_, b.savepoints.takeWhile (·.1 ≠ name), hsplit.symm, ?_⟩
  · have := List.head?_dropWhile_not (fun q : List Char × Holdings => q.1 ≠ name) b.savepoints
    rw [h] at this
    simpa using this
  · intro q hq
    have := List.all_takeWhile (p := fun q : List Char × Holdings => decide (q.1 ≠ name))
      (l := b.savepoints)
    simpa using List.all_eq_true.1 this q hq

/-- Everything that a control statement can do, `name` being the savepoint it is about. -/
inductive Controlled (b : Backend) (name : List Char) : Control → Backend → Prop where
  | opens : b.phase ≠ .failed → Controlled b name .opens { b with phase := .inTransaction }
  | commit : b.phase ≠ .failed → Controlled b name .commit b.committed
  | commitFailed : b.phase = .failed → Controlled b name .commit b.rolledBack
  | rollback : Controlled b name .rollback b.rolledBack
  | savepoint : b.phase = .inTransaction →
      Controlled b name .savepoint { b with savepoints := (name, b.holdings) :: b.savepoints }
  | rollbackTo {p : List Char × Holdings} {newer older : List (List Char × Holdings)} :
      b.phase ≠ .idle → b.savepoints = newer ++ p :: older → p.1 = name →
        (∀ q ∈ newer, q.1 ≠ name) →
        Controlled b name .rollbackTo
          { b with phase := .inTransaction, holdings := p.2, savepoints := p :: older }
  | release {p : List Char × Holdings} {newer older : List (List Char × Holdings)} :
      b.phase = .inTransaction → b.savepoints = newer ++ p :: older → p.1 = name →
        (∀ q ∈ newer, q.1 ≠ name) → Controlled b name .release { b with savepoints := older }

theorem controlled_of_controlled? {b b' : Backend} {c : Control} {name : List Char}
    (h : b.controlled? c name = some b') : Controlled b name c b' := by
  unfold controlled? at h
  split at h
  next => cases h
  next hp => cases h; exact .opens hp
  next hp => cases h; exact .commitFailed hp
  next hp => cases h; exact .commit hp
  next => cases h; exact .rollback
  next hp => cases h; exact .savepoint hp
  next => cases h
  next => cases h
  next hp =>
    unfold rolledBackTo? at h
    split at h
    next => cases h
    next p older hfrom =>
      cases h
      obtain ⟨hname, newer, hall, hnewer⟩ := savepoints_eq_of_savepointsFrom hfrom
      exact .rollbackTo hp hall hname hnewer
  next hp =>
    unfold released? at h
    split at h
    next => cases h
    next p older hfrom =>
      cases h
      obtain ⟨hname, newer, hall, hnewer⟩ := savepoints_eq_of_savepointsFrom hfrom
      exact .release hp hall hname hnewer
  next => cases h

theorem controlled_of_accepted? {s : List Char} {c : Control}
    (hc : Control.ofStatement? s = some c) {b b' : Backend} (h : b.accepted? s = some b') :
    Controlled b (b.conduct.savepointName s) c b' := by
  rw [accepted?_of_control hc] at h
  exact controlled_of_controlled? h

/-- What an accepted statement does to the phase is what the rules of phases say. -/
theorem after?_of_accepted? {s : List Char} {b b' : Backend} (h : b.accepted? s = some b') :
    b.phase.after? (Control.ofStatement? s) = some b'.phase := by
  rcases hc : Control.ofStatement? s with _ | c
  · obtain ⟨hp, hb⟩ := accepted?_of_ordinary hc h
    rw [hb]
    exact if_neg hp
  · cases controlled_of_accepted? hc h with
    | opens hp => exact if_neg hp
    | commit => rfl
    | commitFailed => rfl
    | rollback => rfl
    | savepoint hp => exact (if_pos hp).trans rfl
    | rollbackTo hp => exact if_neg hp
    | release hp => exact (if_pos hp).trans rfl

theorem conduct_of_accepted? {s : List Char} {b b' : Backend} (h : b.accepted? s = some b') :
    b'.conduct = b.conduct := by
  rcases hc : Control.ofStatement? s with _ | c
  · rw [(accepted?_of_ordinary hc h).2]
  · cases controlled_of_accepted? hc h <;> rfl

theorem executed_of_accepted? {s : List Char} {b b' : Backend} (h : b.accepted? s = some b') :
    b'.executed = b.executed := by
  rcases hc : Control.ofStatement? s with _ | c
  · rw [(accepted?_of_ordinary hc h).2]
  · cases controlled_of_accepted? hc h <;> rfl

theorem isEnd_iff {s : List Char} : isEnd s ↔
    Control.ofStatement? s = some .commit ∨ Control.ofStatement? s = some .rollback := by
  simp [isEnd, ofStatement_control]

theorem aborted_phase (b : Backend) : b.aborted.phase = b.phase.aborted := by
  unfold aborted
  rcases hp : b.phase with _ | _ | _ <;> simp [Phase.aborted, rolledBack]

theorem failedAt_phase (b : Backend) (s : List Char) :
    (b.failedAt s).phase = b.phase.failedAt (Control.ofStatement? s) := by
  unfold failedAt Phase.failedAt
  by_cases h : isEnd s = true
  · rw [if_pos h, if_pos (isEnd_iff.1 h)]
    rfl
  · rw [if_neg h, if_neg fun hc => h (isEnd_iff.2 hc)]
    exact b.aborted_phase

theorem failedAt_conduct (b : Backend) (s : List Char) : (b.failedAt s).conduct = b.conduct := by
  unfold failedAt aborted
  split
  next => rfl
  next => split <;> rfl

theorem rested_phase (b : Backend) : b.rested.phase = b.phase := by
  unfold rested
  split
  next h => rw [h]; rfl
  next => rfl

/-! ## Runs -/

/-- `Ran b ss ok b'`: the statements `ss` can all be done (`ok`) or be stopped by the first that
fails, and take the backend `b` to `b'`. -/
inductive Ran : Backend → List (List Char) → Bool → Backend → Prop where
  | done (b : Backend) : Ran b [] true b
  | went {b after b' : Backend} {s : List Char} {rest : List (List Char)} {ok : Bool} :
      b.accepted? s = some after → Ran (logged b s after).ticked rest ok b' →
        Ran b (s :: rest) ok b'
  | stopped (b : Backend) (s : List Char) (rest : List (List Char)) :
      Ran b (s :: rest) false (b.failedAt s).ticked

theorem ran_run (b : Backend) (last : Answer) (ss : List (List Char)) :
    Ran b ss (b.run last ss).1.toOption.isSome (b.run last ss).2 := by
  induction ss generalizing b last with
  | nil => exact .done b
  | cons s rest ih =>
    unfold run step
    rcases b.conduct.verdict b.clock with refusal | a
    · exact .stopped b s rest
    · rcases ha : b.accepted? s with _ | after
      · exact .stopped b s rest
      · exact .went ha (ih _ _)

/-- A request is a run, and its end where it was done. -/
theorem ran_serve (b : Backend) (ss : List (List Char)) :
    ∃ after, Ran b ss (b.serve ss).1.isDone after ∧
      (b.serve ss).2 = if (b.serve ss).1.isDone then after.rested else after := by
  have h := b.ran_run ⟨[], 0⟩ ss
  unfold serve
  generalize b.run ⟨[], 0⟩ ss = result at h
  obtain ⟨refusal | a, after⟩ := result
  · exact ⟨after, h, rfl⟩
  · exact ⟨after, h, rfl⟩

namespace Ran

variable {b b' : Backend} {ss : List (List Char)} {ok : Bool}

/-- A run follows the rules of phases. -/
theorem serves (h : Ran b ss ok b') : b.phase.Serves ss ok b'.phase := by
  induction h with
  | done b => exact .done _
  | went hafter _ ih => exact .went (after?_of_accepted? hafter) ih
  | stopped b s rest =>
    rw [ticked_phase, failedAt_phase]
    exact .stopped _ s rest

/-- A run in two parts: the second was not reached, or began where the first ended. -/
theorem split {ts : List (List Char)} (h : Ran b (ss ++ ts) ok b') :
    (ok = false ∧ Ran b ss false b') ∨ ∃ mid, Ran b ss true mid ∧ Ran mid ts ok b' := by
  induction ss generalizing b with
  | nil => exact .inr ⟨b, .done b, h⟩
  | cons s ss ih =>
    cases h with
    | went hafter hrest =>
      rcases ih hrest with ⟨hok, hss⟩ | ⟨mid, hmid, hts⟩
      · exact .inl ⟨hok, .went hafter hss⟩
      · exact .inr ⟨mid, .went hafter hmid, hts⟩
    | stopped => exact .inl ⟨rfl, .stopped b s ss⟩

theorem conduct_eq (h : Ran b ss ok b') : b'.conduct = b.conduct := by
  induction h with
  | done b => rfl
  | @went b after b' s rest ok hafter _ ih =>
    have hstep : after.conduct = b.conduct := conduct_of_accepted? hafter
    exact ih.trans hstep
  | stopped b s rest => exact failedAt_conduct b s

/-- Statements that are all done set variables to closed texts. -/
theorem closed_of_set (h : Ran b ss ok b') (hok : ok = true) {s : List Char} (hs : s ∈ ss)
    {x : Variable} {isLocal : Bool} {text : List Char}
    (heffect : Effect.ofStatement s = .set x isLocal text) : Sql.isClosed text := by
  induction h with
  | done => cases hs
  | went haccepted _ ih =>
    rcases List.mem_cons.1 hs with rfl | hs
    · unfold accepted? at haccepted
      rw [heffect] at haccepted
      simp only at haccepted
      split at haccepted
      next => cases haccepted
      next =>
        unfold assigned? at haccepted
        split at haccepted
        next hclosed => exact hclosed
        next => cases haccepted
    · exact ih hok hs
  | stopped => cases hok

end Ran

/-! ## Between requests -/

/-- Where no transaction is open, nothing is left of one. -/
structure Tidy (b : Backend) : Prop where
  holdings : b.phase = .idle → b.holdings = fun x => ⟨b.outside x, none⟩
  savepoints : b.phase = .idle → b.savepoints = []

theorem tidy_rolledBack (b : Backend) : b.rolledBack.Tidy := ⟨fun _ => rfl, fun _ => rfl⟩

theorem tidy_committed (b : Backend) : b.committed.Tidy := ⟨fun _ => rfl, fun _ => rfl⟩

theorem tidy_of_phase {b : Backend} (h : b.phase ≠ .idle) : b.Tidy :=
  ⟨fun hp => absurd hp h, fun hp => absurd hp h⟩

theorem tidy_aborted (b : Backend) : b.aborted.Tidy := by
  unfold aborted
  split
  next => exact b.tidy_rolledBack
  next => exact tidy_of_phase (by simp)

theorem tidy_failedAt (b : Backend) (s : List Char) : (b.failedAt s).Tidy := by
  unfold failedAt
  split
  next => exact b.tidy_rolledBack
  next => exact b.tidy_aborted

theorem tidy_rested (b : Backend) : b.rested.Tidy := by
  unfold rested
  split
  next => exact b.tidy_committed
  next h => exact tidy_of_phase h

theorem Tidy.ticked {b : Backend} (h : b.Tidy) : b.ticked.Tidy := ⟨h.holdings, h.savepoints⟩

theorem Ran.tidy_of_failed {b b' : Backend} {ss : List (List Char)} {ok : Bool}
    (h : Ran b ss ok b') (hok : ok = false) : b'.Tidy := by
  induction h with
  | done => cases hok
  | went _ _ ih => exact ih hok
  | stopped b s rest => exact (b.tidy_failedAt s).ticked

theorem tidy_serve (b : Backend) (ss : List (List Char)) : (b.serve ss).2.Tidy := by
  obtain ⟨after, hran, hafter⟩ := b.ran_serve ss
  rw [hafter]
  rcases hok : (b.serve ss).1.isDone with _ | _
  · exact hran.tidy_of_failed hok
  · exact after.tidy_rested

/-- After every request, nothing is left of a transaction that is not open. -/
theorem tidy_receive (q : Request) (b : Backend) : (b.receive q).2.Tidy := by
  unfold receive
  split
  next => exact b.tidy_serve _
  next =>
    split
    next => exact b.tidy_aborted
    next => exact b.tidy_serve _

/-! ## Backends as transactional servers -/

theorem serves_serve (b : Backend) (ss : List (List Char)) :
    b.phase.Serves ss (b.serve ss).1.isDone (b.serve ss).2.phase := by
  obtain ⟨after, hran, hafter⟩ := b.ran_serve ss
  have hphase : (b.serve ss).2.phase = after.phase := by
    rw [hafter]
    split
    next => exact after.rested_phase
    next => rfl
  rw [hphase]
  exact hran.serves

theorem serve_ne_closed (b : Backend) (ss : List (List Char)) : (b.serve ss).1 ≠ .closed := by
  unfold serve
  split <;> simp

/-- No request changes what the rules leave open. -/
theorem receive_conduct (q : Request) (b : Backend) : (b.receive q).2.conduct = b.conduct := by
  have hserve : ∀ ss, (b.serve ss).2.conduct = b.conduct := by
    intro ss
    obtain ⟨after, hran, hafter⟩ := b.ran_serve ss
    have hrested : after.rested.conduct = after.conduct := by
      unfold rested
      split <;> rfl
    rw [hafter]
    split
    next => exact hrested.trans hran.conduct_eq
    next => exact hran.conduct_eq
  unfold receive
  split
  next => exact hserve _
  next =>
    split
    next =>
      show b.aborted.conduct = b.conduct
      unfold aborted
      split <;> rfl
    next => exact hserve _

theorem statements_showPath :
    Sql.statements "SHOW search_path".toList = ["SHOW search_path".toList] := by decide

theorem effect_showPath : Effect.ofStatement "SHOW search_path".toList = .showPath := by decide

theorem receive_prepared {sql : String} (h : ¬ 1 < (Sql.statements sql.toList).length)
    (params : List String) (b : Backend) :
    b.receive (.prepared sql params) = b.serve (Sql.statements sql.toList) :=
  if_neg h

theorem eq_answer_of_step {b : Backend} {s : List Char} {a : Answer} (h : (b.step s).1 = .ok a) :
    ∃ a', a = b.answer s a' := by
  unfold step at h
  split at h
  next a' _ _ _ => exact ⟨a', (Except.ok.inj h).symm⟩
  next => cases h
  next => cases h

theorem serve_singleton {b : Backend} {s : List Char} {rows : List ResultRow} {n : Nat}
    (h : (b.serve [s]).1 = .done rows n) : (b.step s).1 = .ok ⟨rows, n⟩ := by
  unfold serve run at h
  generalize b.step s = result at h ⊢
  obtain ⟨refusal | a, after⟩ := result
  · cases h
  · simp only [run, Reply.done.injEq] at h
    obtain ⟨rfl, rfl⟩ := h
    rfl

/-- The search path is answered with what the variable holds. -/
theorem receive_showPath {b : Backend} {rows : List ResultRow} {n : Nat}
    (h : (b.receive showPathRequest).1 = .done rows n) :
    rows = [[some (String.ofList (b.value .path).text)]] := by
  have hlength : ¬ 1 < (Sql.statements "SHOW search_path".toList).length := by
    rw [statements_showPath]
    decide
  unfold showPathRequest at h
  rw [receive_prepared hlength, statements_showPath] at h
  obtain ⟨a, ha⟩ := eq_answer_of_step (serve_singleton h)
  unfold answer at ha
  rw [if_pos effect_showPath] at ha
  exact (Answer.mk.inj ha).1

instance instTransactionalBackend : Transactional Backend where
  phase := phase
  stays q b := by
    show (b.receive q).1 ≠ .closed
    unfold receive
    split
    next => exact b.serve_ne_closed _
    next =>
      split
      next => simp
      next => exact b.serve_ne_closed _
  batch sql b := b.serves_serve _
  prepared sql params b := by
    show b.phase.Serves _ (b.receive (.prepared sql params)).1.isDone
      (b.receive (.prepared sql params)).2.phase ∨ _ ∧
      (b.receive (.prepared sql params)).1.isDone = false ∧
      (b.receive (.prepared sql params)).2.phase = _
    by_cases h : 1 < (Sql.statements sql.toList).length
    · rw [show b.receive (.prepared sql params) = (.refused misplaced, b.aborted) from if_pos h]
      exact .inr ⟨h, rfl, b.aborted_phase⟩
    · rw [receive_prepared h]
      exact .inl (b.serves_serve _)
  pathClosed b row rows n path hdone hpath := by
    have hrows := receive_showPath hdone
    simp only [List.cons.injEq] at hrows
    obtain ⟨rfl, -⟩ := hrows
    have : path = String.ofList (b.value .path).text := by
      cases hpath
      rfl
    rw [this, String.toList_ofList]
    exact (b.value .path).closed

end Backend

end DeclaredTriggers
