import DeclaredTriggers.Proofs.Backend.Span
import DeclaredTriggers.Proofs.Session.Accounting

/-!
# What a caller's statements are executed with

The dues of a text go in front of it, or behind the statement that opens a block, or nowhere
(`Session.covered?`). What stands behind them is covered: the backend executes it with what the dues
have made of a variable, for as long as nothing in it undoes that.

> `executes_move`: the statements that a move's dues cover are executed with what the dues leave, as
> many of them as `Backend.span` says.

A batch is one request, so its dues and what they cover share its transaction. A statement with
parameters comes in a request of its own behind them. Between the two the backend comes to rest, and
a setting gets over that if it lasts, or if a transaction is open.
-/

namespace DeclaredTriggers

open Sql (Control)

/-! ## Where dues go -/

/-- Whether the dues of a move last for its transaction only. -/
def Move.isLocal (s : Session) : Move → Bool
  | .prepared _ _ => s.status = .inTransaction
  | .batch _ | .openIgnore | .closeIgnore _ | .openPath | .closePath _ | .rest => true

/-- Whether a move succeeds. -/
def Link.succeeds {σ : Type} [Server σ] (o : Overrides) (l : Link σ) : Move → Bool
  | .batch sql => (l.batch o sql).1
  | .prepared sql params => (l.prepared o sql params).1
  | .closeIgnore queueOnly => (l.closeIgnore queueOnly).1
  | .openPath => l.openPath.1
  | .closePath queueOnly => (l.closePath queueOnly).1
  | .openIgnore | .rest => true

namespace Session

variable {s : Session} {o : Overrides} {sql target : String} {pre : List (List Char)}

/-- A batch is what its dues cover, behind at most one statement that opens a block. -/
theorem statements_of_covered (h : covered? sql = some (pre, target)) :
    Sql.statements sql.toList = pre ++ Sql.statements target.toList ∧
      ∀ st ∈ pre, (Control.ofStatement? st).isSome := by
  rcases cases_of_covered h with ⟨-, rfl, rfl⟩ |
    ⟨c, head, rest, first, hc, -, -, -, -, hall, rfl, rfl⟩
  · exact ⟨rfl, fun st hst => (nomatch hst)⟩
  · rw [hall, String.toList_ofList]
    refine ⟨rfl, fun st hst => ?_⟩
    rw [List.mem_singleton.1 hst, hc]
    rfl

/-- It is sent with the dues in front of what they cover. -/
theorem statements_withPreamble_of_covered (h : covered? sql = some (pre, target))
    (hback : s.holdsBack target = false) (hpath : s.PathClosed) (ho : o.Registered) :
    Sql.statements (s.withPreamble o sql).1.toList =
      (pre ++ s.dues o true) ++ Sql.statements target.toList := by
  have hannounces := announces_preamble true hback hpath ho
  rcases cases_of_covered h with ⟨hnone, rfl, rfl⟩ |
    ⟨c, head, rest, first, hc, henters, hsplit, hrest, hput, hall, rfl, rfl⟩
  · rw [withPreamble_of_ordinary hnone, String.toList_append]
    exact hannounces _
  · have hhead : Control.ofStatement? ((Sql.statements sql.toList).headD []) = some c := by
      rw [hall]
      exact hc
    rw [withPreamble_of_split hhead henters hsplit hrest, String.toList_append,
      String.toList_append, String.toList_ofList, List.append_assoc, hput, String.toList_ofList,
      hannounces]
    rfl

/-- A batch whose dues go nowhere is sent as it is. -/
theorem withPreamble_of_uncovered (h : covered? sql = none) (s : Session) (o : Overrides) :
    s.withPreamble o sql = (sql, s) := by
  unfold covered? at h
  split at h
  next => cases h
  next c hc =>
    refine withPreamble_of_control hc (fun henters head rest hsplit hrest => ?_) s o
    rw [if_pos henters, hsplit] at h
    simp only [hrest, Option.isNone_none, if_true] at h
    cases h

end Session

/-- What a move sends is what its dues cover, behind at most one statement that opens a block. -/
theorem Move.text_of_covered {m : Move} {target : String} {pre : List (List Char)}
    (h : m.covered? = some (pre, target)) :
    ∃ sql, m.text? = some sql ∧
      Sql.statements sql.toList = pre ++ Sql.statements target.toList ∧
      ∀ st ∈ pre, (Control.ofStatement? st).isSome := by
  cases m with
  | batch sql =>
    exact ⟨sql, rfl, Session.statements_of_covered h⟩
  | prepared sql params =>
    obtain ⟨-, rfl, rfl⟩ := Move.covered?_prepared h
    exact ⟨_, rfl, rfl, fun st hst => (nomatch hst)⟩
  | openIgnore | closeIgnore | openPath | closePath | rest => cases h

/-! ## What the dues leave in front of a statement -/

namespace Backend

variable {b : Backend}

/-- What a request executes; `I` is kept by each of its statements. -/
theorem serve_executed {I : Backend → Prop} (hb : I b) (ss : List (List Char))
    (hstep : ∀ s ∈ ss, ∀ b after, I b → b.accepted? s = some after → I (logged b s after).ticked) :
    ∃ ran : List Execution, (b.serve ss).2.executed = b.executed ++ ran ∧
      ran.map Execution.statement <+: ss ∧
      ((b.serve ss).1.isDone → ran.map Execution.statement = ss) ∧
      ∀ e ∈ ran, ∃ mid, I mid ∧ e.values = mid.value := by
  obtain ⟨after, hran, hexecuted⟩ := b.exists_ran_serve ss
  rw [hexecuted]
  exact hran.executed hb hstep

/-- A request that is not of the kind that can hold several statements holds one. -/
theorem length_le_of_prepared {sql : String} {params : List String}
    (h : (b.receive (.prepared sql params)).1.isDone) :
    (Sql.statements sql.toList).length ≤ 1 := by
  by_contra hmany
  rw [show b.receive (.prepared sql params) = (.refused misplaced, b.aborted) from
    if_pos (by omega)] at h
  cases h

/-- Statements that do not set a variable are executed with what it can come back to. -/
theorem receive_executed_all {x : Variable} {P : Content → Prop} {q : Request}
    (hall : (b.ledger x).All P)
    (hsilent : ∀ st ∈ Sql.statements q.sql.toList, (Effect.ofStatement st).writes x = false) :
    ∃ ran : List Execution, (b.receive q).2.executed = b.executed ++ ran ∧
      ran.map Execution.statement <+: Sql.statements q.sql.toList ∧
      ((b.receive q).1.isDone → ran.map Execution.statement = Sql.statements q.sql.toList) ∧
      ∀ e ∈ ran, P (e.values x) := by
  have hserve : ∃ ran : List Execution,
      (b.serve (Sql.statements q.sql.toList)).2.executed = b.executed ++ ran ∧
        ran.map Execution.statement <+: Sql.statements q.sql.toList ∧
        ((b.serve (Sql.statements q.sql.toList)).1.isDone →
          ran.map Execution.statement = Sql.statements q.sql.toList) ∧
        ∀ e ∈ ran, P (e.values x) := by
    obtain ⟨ran, hexec, hpre, hdone, hmid⟩ := b.serve_executed (I := fun b => (b.ledger x).All P)
      hall _ fun s hs mid after hmid hafter => by
        rw [ticked_ledger, logged_ledger]
        exact all_of_accepted? hmid (Effect.leaves_of_not_writes (hsilent s hs)) hafter
    refine ⟨ran, hexec, hpre, hdone, fun e he => ?_⟩
    obtain ⟨mid, hmid, hvalue⟩ := hmid e he
    rw [hvalue]
    exact hmid.held.value
  cases q with
  | batch sql => exact hserve
  | prepared sql params =>
    by_cases hmany : 1 < (Sql.statements sql.toList).length
    · rw [show b.receive (.prepared sql params) = (.refused misplaced, b.aborted) from if_pos hmany]
      refine ⟨[], ?_, List.nil_prefix, fun hdone => (nomatch hdone), by simp⟩
      show b.aborted.executed = b.executed ++ []
      rw [aborted_executed, List.append_nil]
    · rw [receive_prepared hmany]
      exact hserve

theorem receive_batch (sql : String) (b : Backend) :
    b.receive (.batch sql) = b.serve (Sql.statements sql.toList) := rfl

/-- A statement with parameters is executed with what the variable holds. -/
theorem receive_prepared_executes {x : Variable} {v : Content} (sql : String)
    (params : List String) (hv : b.value x = v) :
    Executes x v b (b.receive (.prepared sql params)).2 (b.receive (.prepared sql params)).1.isDone
      [] (Sql.statements sql.toList)
      (span x b.conduct.savepointName [] (Sql.statements sql.toList)) := by
  by_cases hmany : 1 < (Sql.statements sql.toList).length
  · rw [show b.receive (.prepared sql params) = (.refused misplaced, b.aborted) from if_pos hmany]
    refine executes_of_stopped ⟨[], ?_, List.nil_prefix⟩ _
    show b.aborted.executed = b.executed ++ []
    rw [aborted_executed, List.append_nil]
  · rw [receive_prepared hmany]
    refine serve_executes (List.nil_append _).symm fun mid hmid => ?_
    cases hmid
    exact hv

end Backend

namespace Link

variable {x : Variable} {home v : Content} {l : Link Backend} {o : Overrides}

/-- What the dues leave in a backend that has done them, behind other statements. -/
theorem ledger_of_dues (ho : o.Registered)
    (hundoes : (l.session.setting x).pending →
      l.session.Undoes (l.server.conduct.defaults x) home x) {pre : List (List Char)}
    {isLocal : Bool} {after : Backend}
    (h : Backend.Ran l.server (pre ++ l.session.dues o isLocal) true after) :
    ∃ mid, Backend.Ran l.server pre true mid ∧
      after.ledger x = { mid.ledger x with
        held := (l.session.setting x).heldAlong home isLocal (ho.told x) (mid.holdings x) } := by
  rcases h.split with ⟨hok, -⟩ | ⟨mid, hmid, hdues⟩
  · cases hok
  · have hledger := hdues.ledger_of_ordinary (fun s hs => Session.ofStatement?_of_mem_dues hs) x
    rw [if_pos rfl, hmid.conduct_eq, heldAfter_dues ho hundoes] at hledger
    exact ⟨mid, hmid, hledger⟩

theorem holdings_of_dues (ho : o.Registered)
    (hundoes : (l.session.setting x).pending →
      l.session.Undoes (l.server.conduct.defaults x) home x) {pre : List (List Char)}
    {isLocal : Bool} {after : Backend}
    (h : Backend.Ran l.server (pre ++ l.session.dues o isLocal) true after) :
    ∃ mid, Backend.Ran l.server pre true mid ∧ after.phase = mid.phase ∧
      after.holdings x =
        (l.session.setting x).heldAlong home isLocal (ho.told x) (mid.holdings x) := by
  obtain ⟨mid, hmid, hledger⟩ := ledger_of_dues ho hundoes h
  exact ⟨mid, hmid, congrArg Ledger.phase hledger, congrArg Ledger.held hledger⟩

/-- What a batch covers is executed with what its dues leave. -/
theorem executes_batch (hpath : l.session.PathClosed) (ho : o.Registered) {sql target : String}
    {pre : List (List Char)} (hcovered : Session.covered? sql = some (pre, target))
    (hback : l.session.holdsBack target = false)
    (hvalue : ∀ after, Backend.Ran l.server (pre ++ l.session.dues o true) true after →
      after.value x = v) :
    Backend.Executes x v l.server (l.batch o sql).2.server (l.batch o sql).1
      (pre ++ l.session.dues o true) (Sql.statements target.toList)
      (Backend.span x l.server.conduct.savepointName [] (Sql.statements target.toList)) := by
  have hstatements := Session.statements_withPreamble_of_covered hcovered hback hpath ho
  have hok : (l.batch o sql).1 =
      (l.server.receive (.batch (l.session.withPreamble o sql).1)).1.isDone := by
    unfold batch
    simp only [send_eq]
  have hexecutes := Backend.serve_executes hstatements hvalue
  rw [← Backend.receive_batch] at hexecutes
  rw [hok, batch_eq]
  simp only
  exact hexecutes

/-- Behind the span of its dues, a batch is executed with what they hid. -/
theorem batch_behind_span (hpath : l.session.PathClosed) (ho : o.Registered) {sql target : String}
    {pre : List (List Char)} (hcovered : Session.covered? sql = some (pre, target))
    (hback : l.session.holdsBack target = false) {P : Content → Prop}
    (hkept : ∀ after, Backend.Ran l.server (pre ++ l.session.dues o true) true after →
      Backend.Kept x v P [] after)
    (hsilent : ∀ st ∈ Sql.statements target.toList, (Effect.ofStatement st).writes x = false) :
    ∀ e ∈ ((l.batch o sql).2.server.executed.drop
        (l.server.executed.length + (pre ++ l.session.dues o true).length)).drop
      (Backend.span x l.server.conduct.savepointName [] (Sql.statements target.toList)),
      P (e.values x) := by
  have hstatements := Session.statements_withPreamble_of_covered hcovered hback hpath ho
  have hleft := Backend.serve_behind_span hstatements hkept hsilent
  rw [← Backend.receive_batch] at hleft
  rw [batch_eq]
  simp only
  exact hleft

theorem own_done (l : Link Backend) (sql : String) :
    (l.own sql).1 = (l.server.receive (.batch sql)).1.isDone := by
  have hsend := send_eq (.batch sql) l
  unfold own
  split
  next l' heq =>
    rw [hsend] at heq
    exact (Prod.mk.inj heq).1.symm
  next l' heq =>
    rw [hsend] at heq
    exact (Prod.mk.inj heq).1.symm

/-- What the dues of a statement with parameters do, in a request of their own. -/
theorem preamble_executes (hpath : l.session.PathClosed) (ho : o.Registered) {sql : String}
    (hcontrol : controlOf? sql = none) (hback : l.session.holdsBack sql = false)
    (hvalue : ∀ after, Backend.Ran l.server (l.session.dues o (l.session.status = .inTransaction))
      true after → after.value x = v ∧
        (after.phase = .idle → (after.holdings x).passing = none)) :
    (∃ own : List Execution, (l.preamble o sql).2.server.executed = l.server.executed ++ own ∧
        own.map Execution.statement <+: l.session.dues o (l.session.status = .inTransaction) ∧
        ((l.preamble o sql).1 →
          own.map Execution.statement = l.session.dues o (l.session.status = .inTransaction))) ∧
      (l.preamble o sql).2.server.conduct = l.server.conduct ∧
      ((l.preamble o sql).1 → (l.preamble o sql).2.server.value x = v) := by
  have hannounces := Session.announces_preamble false hback hpath ho
  simp only [Bool.false_or] at hannounces
  by_cases htext : (l.session.preamble o sql false).1 = ""
  · have hdues : l.session.dues o (l.session.status = .inTransaction) = [] := by
      rw [htext] at hannounces
      exact hannounces.statements_eq.symm
    rw [hdues] at hvalue
    rw [preamble_of_empty hcontrol htext, hdues]
    exact ⟨⟨[], by simp⟩, rfl, fun _ => (hvalue l.server (.done l.server)).1⟩
  · have hserve : l.server.receive (.batch (l.session.preamble o sql false).1) =
        l.server.serve (l.session.dues o (l.session.status = .inTransaction)) := by
      rw [Backend.receive_batch, hannounces.statements_eq]
    have hconduct := l.server.receive_conduct (.batch (l.session.preamble o sql false).1)
    have hok := own_done ⟨(l.session.preamble o sql false).2, l.server⟩
      (l.session.preamble o sql false).1
    have hserver := congrArg Link.server (own_eq ⟨(l.session.preamble o sql false).2, l.server⟩
      (l.session.preamble o sql false).1)
    rw [preamble_of_text hcontrol htext]
    simp only [hserve] at hconduct hok hserver
    rw [hok, hserver]
    obtain ⟨own, hown, hpre, hall, -⟩ := l.server.serve_executed (I := fun _ => True) trivial
      (l.session.dues o (l.session.status = .inTransaction)) fun _ _ _ _ _ _ => trivial
    refine ⟨⟨own, hown, hpre, hall⟩, hconduct, fun hdone => ?_⟩
    obtain ⟨after, hran, hafter⟩ :=
      l.server.ran_serve (l.session.dues o (l.session.status = .inTransaction))
    rw [hdone] at hran
    obtain ⟨hv, hpassing⟩ := hvalue after hran
    rw [hafter, if_pos hdone, Backend.value_eq_ledger, Backend.rested_ledger]
    unfold Ledger.rested
    split
    next hidle =>
      -- what is not local gets over the end of the request
      rw [← hv]
      show (after.holdings x).lasting = (after.holdings x).passing.getD (after.holdings x).lasting
      rw [hpassing hidle]
      rfl
    next => exact hv

/-- What stands behind the dues of a statement with parameters is executed with what they leave. -/
theorem executes_prepared (hpath : l.session.PathClosed) (ho : o.Registered) {sql : String}
    (params : List String) (hcontrol : controlOf? sql = none)
    (hback : l.session.holdsBack sql = false)
    (hvalue : ∀ after, Backend.Ran l.server (l.session.dues o (l.session.status = .inTransaction))
      true after → after.value x = v ∧
        (after.phase = .idle → (after.holdings x).passing = none)) :
    Backend.Executes x v l.server (l.prepared o sql params).2.server
      (l.prepared o sql params).1 (l.session.dues o (l.session.status = .inTransaction))
      (Sql.statements sql.toList)
      (Backend.span x l.server.conduct.savepointName [] (Sql.statements sql.toList)) := by
  obtain ⟨⟨own, hown, hpre, hall⟩, hconduct, hleft⟩ :=
    preamble_executes hpath ho hcontrol hback hvalue
  unfold prepared
  generalize l.preamble o sql = p at hown hall hconduct hleft ⊢
  obtain ⟨_ | _, l'⟩ := p
  · exact Backend.executes_of_stopped ⟨own, hown, hpre⟩ _
  · simp only [send_eq, learn]
    rw [← hconduct]
    refine Backend.executes_of_done ⟨own, hown, hall rfl⟩ ?_
    exact Backend.receive_prepared_executes sql params (hleft rfl)

/-- The statements that a move's dues cover are executed with what the dues leave of a variable, until
one of them undoes it. -/
theorem executes_move (hpath : l.session.PathClosed) (ho : o.Registered) {m : Move}
    {target : String} {pre : List (List Char)} (hcovered : m.covered? = some (pre, target))
    (hback : l.session.holdsBack target = false)
    (hvalue : ∀ after, Backend.Ran l.server (pre ++ l.session.dues o (m.isLocal l.session)) true
      after → after.value x = v ∧ ∀ sql params, m = .prepared sql params → after.phase = .idle →
        (after.holdings x).passing = none) :
    Backend.Executes x v l.server (l.move o m).server (l.succeeds o m)
      (pre ++ l.session.dues o (m.isLocal l.session)) (Sql.statements target.toList)
      (Backend.span x l.server.conduct.savepointName [] (Sql.statements target.toList)) := by
  cases m with
  | batch sql =>
    exact executes_batch hpath ho hcovered hback fun after hafter => (hvalue after hafter).1
  | prepared sql params =>
    obtain ⟨hcontrol, rfl, rfl⟩ := Move.covered?_prepared hcovered
    refine executes_prepared hpath ho params hcontrol hback fun after hafter => ?_
    obtain ⟨hv, hpassing⟩ := hvalue after hafter
    exact ⟨hv, hpassing _ params rfl⟩
  | openIgnore | closeIgnore | openPath | closePath | rest => cases hcovered

end Link

/-! ## Calls -/

namespace Client

variable {c : Client Backend}

/-- Whether a call succeeds. -/
def succeeds (c : Client Backend) (call : Call) : Bool :=
  (Act.result call.act c).1.toOption.isSome

theorem Acts.succeeds {act : Act (Client Backend) Unit} {ok : Bool} {l : Link Backend}
    (h : Acts act c ok l) : (Act.result act c).1.toOption.isSome = ok := by
  obtain ⟨r, j, hresult, hr⟩ := h
  rw [hresult]
  exact hr

/-- A call that sends a text of the caller's succeeds if its move does. -/
theorem succeeds_of_text (hopen : c.wire.isOpen) {call : Call} {text : String}
    (htext : (c.move call).text? = some text) :
    c.succeeds call = c.link.succeeds c.overrides (c.move call) := by
  have hprepared : ∀ {α : Type} (sql : String) (params : List String) (value : Answer → α)
      (outcome : α → Hook.Outcome),
      ((c.left sql params.length).elim Move.rest (Move.prepared · params)).text? = some text →
      (Act.result (do let _ ← prepared sql params value outcome) c).1.toOption.isSome =
        c.link.succeeds c.overrides
          ((c.left sql params.length).elim Move.rest (Move.prepared · params)) := by
    intro α sql params value outcome htext
    have hacts := acts_prepared hopen sql params value outcome
    cases hleft : c.left sql params.length with
    | none =>
      rw [hleft] at htext
      cases htext
    | some x =>
      rw [hleft] at hacts
      exact hacts.discard.succeeds
  cases call with
  | batch sql =>
    have hacts := acts_batch hopen sql
    rw [show c.move (.batch sql) = (c.left sql 0).elim .rest .batch from rfl] at htext ⊢
    cases hleft : c.left sql 0 with
    | none =>
      rw [hleft] at htext
      cases htext
    | some x =>
      rw [hleft] at hacts
      exact hacts.succeeds
  | query sql params =>
    exact hprepared sql params Answer.rows (fun rows => .rows rows.length) htext
  | execute sql params => exact hprepared sql params Answer.affected .affected htext
  | ignore registry uris =>
    by_cases hids : (registry.ignorable uris).toBool
    · rw [show c.move (.ignore registry uris) = .openIgnore from if_pos hids] at htext
      cases htext
    · rw [show c.move (.ignore registry uris) = .rest from if_neg hids] at htext
      cases htext
  | search schemas =>
    by_cases hnames : (schemas.mapM schemaName : Except Error _).toBool
    · rw [show c.move (.search schemas) = .openPath from if_pos hnames] at htext
      cases htext
    · rw [show c.move (.search schemas) = .rest from if_neg hnames] at htext
      cases htext
  | releaseIgnore | dropIgnore | releaseSchema | dropSchema | joinIgnore | leaveIgnore | joinPath
  | leavePath | elsewhere => cases htext

/-- The statements that go in front of what the dues of a call cover: the dues, and what opens a block
around them. -/
def front (c : Client Backend) (call : Call) : List (List Char) :=
  match (c.move call).covered? with
  | some (pre, _) => pre ++ c.session.dues c.overrides ((c.move call).isLocal c.session)
  | none => []

/-- What is executed behind them. -/
def behind (c : Client Backend) (call : Call) : List Execution :=
  (c.after call).wire.server.executed.drop
    (c.wire.server.executed.length + (c.front call).length)

/-- The statements that the dues of a call cover are executed, all of them if it succeeds; and until
one of them undoes it, with what the dues leave of a variable. -/
theorem behind_of_covered (hc : c.Composed) {call : Call} {target : String}
    {pre : List (List Char)} (hcovered : (c.move call).covered? = some (pre, target))
    (hback : c.session.holdsBack target = false) {x : Variable} {v : Content}
    (hvalue : ∀ after, Backend.Ran c.wire.server
      (pre ++ c.session.dues c.overrides ((c.move call).isLocal c.session)) true after →
        after.value x = v ∧ ∀ sql params, c.move call = .prepared sql params →
          after.phase = .idle → (after.holdings x).passing = none) :
    (c.behind call).map Execution.statement <+: Sql.statements target.toList ∧
      (c.succeeds call → (c.behind call).map Execution.statement = Sql.statements target.toList) ∧
      ∀ e ∈ (c.behind call).take (Backend.span x c.wire.server.conduct.savepointName []
        (Sql.statements target.toList)), e.values x = v := by
  have hfront : c.front call =
      pre ++ c.session.dues c.overrides ((c.move call).isLocal c.session) := by
    unfold front
    rw [hcovered]
  have hexecutes := c.link.executes_move hc.pathClosed hc.registered hcovered hback hvalue
  obtain ⟨text, htext, -⟩ := Move.text_of_covered hcovered
  rw [← server_after hc, ← succeeds_of_text hc.isOpen htext] at hexecutes
  unfold behind
  rw [hfront]
  exact hexecutes.behind

/-- So it is with the triggers to ignore and what their setting says that the dues leave. -/
theorem behind_after (hc : c.Composed) {call : Call} {target : String}
    {pre : List (List Char)} (hcovered : (c.move call).covered? = some (pre, target))
    (hback : c.session.holdsBack target = false) {v : Content}
    (hvalue : ∀ mid, Backend.Ran c.wire.server pre true mid →
      (c.session.ignore.heldAlong c.home ((c.move call).isLocal c.session)
        (some hc.registered.content) (mid.holdings .ignore)).value = v)
    (hrest : ∀ sql params, c.move call = .prepared sql params → c.wire.server.phase = .idle →
      (c.session.ignore.heldAlong c.home ((c.move call).isLocal c.session)
        (some hc.registered.content) (c.wire.server.holdings .ignore)).passing = none) :
    (c.behind call).map Execution.statement <+: Sql.statements target.toList ∧
      (c.succeeds call → (c.behind call).map Execution.statement = Sql.statements target.toList) ∧
      ∀ e ∈ (c.behind call).take (Backend.span .ignore c.wire.server.conduct.savepointName []
        (Sql.statements target.toList)), e.values .ignore = v := by
  refine behind_of_covered hc hcovered hback fun after hafter => ?_
  obtain ⟨mid, hmid, hphase, hheld⟩ :=
    Link.holdings_of_dues (l := c.link) (x := .ignore) hc.registered (fun _ => rfl) hafter
  refine ⟨?_, fun sql params hmove hidle => ?_⟩
  · show (after.holdings .ignore).value = v
    rw [hheld]
    exact hvalue mid hmid
  · -- a statement with parameters has nothing in front of its dues
    rw [hmove] at hcovered
    obtain ⟨-, rfl, -⟩ := Move.covered?_prepared hcovered
    cases hmid
    rw [hheld]
    exact hrest sql params hmove (hphase ▸ hidle)

end Client

end DeclaredTriggers
