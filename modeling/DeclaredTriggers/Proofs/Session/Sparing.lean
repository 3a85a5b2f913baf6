import DeclaredTriggers.Proofs.Backend.Remembered
import DeclaredTriggers.Proofs.Session.Events
import DeclaredTriggers.Proofs.Session.Rewriting

/-!
# Where the search path stays what it is

A client sets the search path for two reasons: a session on it is open and there are schemas to search,
or it undoes that, and then it sets what it was told. So as long as it sends nothing while there are
schemas to search, the path stays what it was told, and so does all that a rollback can bring back:

> `remembers_after`: a call that spares the path (`Client.Spares`) leaves a client that was told `w`, and
> whose server has nothing else on the path, as it is in both.

No discipline is needed for that: transactions may be controlled in any way, and requests may fail at any
statement.
-/

namespace DeclaredTriggers

open Sql (Control)

namespace Session

variable {s : Session} {o : Overrides} {P : Content → Prop}

/-! ## What a session says of the search path -/

/-- The reset of the triggers to ignore leaves the search path alone. -/
theorem leaves_resetIgnore : (Effect.ofStatement resetIgnore).Leaves .path P :=
  Effect.leaves_of_not_writes writes_resetIgnore

/-- What undoes the search path leaves what was told. -/
theorem leaves_undoPath {path : String}
    (h : ∀ hc : Sql.isClosed (Text.trimEnd path.toList), P ⟨Text.trimEnd path.toList, hc⟩) :
    (Effect.ofStatement (undoPathStatement path)).Leaves .path P := by
  unfold undoPathStatement
  rw [effect_set]
  exact Effect.leaves_set h

/-- What is due leaves what was told, if there is nothing to search. -/
theorem leaves_of_mem_dues
    (htold : ∀ path, s.initialPath = some path →
      ∀ hc : Sql.isClosed (Text.trimEnd path.toList), P ⟨Text.trimEnd path.toList, hc⟩)
    (hnone : s.path.sessions = 0 ∨ o.schemas = []) {isLocal : Bool} {d : List Char}
    (hd : d ∈ s.dues o isLocal) : (Effect.ofStatement d).Leaves .path P := by
  unfold dues undoings settings at hd
  simp only [List.mem_append] at hd
  -- the two undoings come first, and then the two settings
  rcases hd with (hd | hd) | hd | hd
  · split at hd
    next =>
      rw [List.mem_singleton.1 hd]
      exact leaves_resetIgnore
    next => cases hd
  · split at hd
    next =>
      cases hinitial : s.initialPath with
      | none =>
        rw [hinitial] at hd
        cases hd
      | some path =>
        rw [hinitial] at hd
        rw [List.mem_singleton.1 hd]
        exact leaves_undoPath (htold path hinitial)
    next => cases hd
  · split at hd
    next => cases hd
    next =>
      rw [List.mem_singleton.1 hd]
      exact Effect.leaves_of_not_writes (writes_setLead (by simp))
  · have hunsaid : (decide (s.path.sessions = 0) || o.schemas.isEmpty) = true := by
      rcases hnone with hnone | hnone <;> simp [hnone]
    rw [if_pos hunsaid] at hd
    cases hd

/-- What leads a statement with parameters is what is due. -/
theorem statements_lead (hpath : s.PathClosed) (ho : o.Registered) {sql text : String}
    (h : (s.lead o sql).1 = some text) :
    ∃ isLocal, Sql.statements text.toList = s.dues o isLocal := by
  unfold lead at h
  split at h
  next =>
    simp only at h
    split at h
    next htext =>
      cases h
      cases hback : s.holdsBack sql with
      | true =>
        rw [preamble_of_holdsBack hback] at htext
        exact absurd rfl htext
      | false => exact ⟨_, (announces_preamble false hback hpath ho).statements_eq⟩
    next => cases h
  next => cases h

theorem mem_of_owns {s' : Session} {text : Option String} {reqs : List Request} {ok : Bool}
    (h : s.Owns text reqs ok s') {q : Request} (hq : q ∈ reqs) : text = some q.sql := by
  cases h with
  | nothing => cases hq
  | done sql | failed sql =>
    rw [List.mem_singleton.1 hq]
    rfl

/-- What a move sends leaves what was told of the search path, if the caller's text does not set it and
there is nothing to search. -/
theorem Goes.leaves {m : Move} {reqs : List Request} {ok : Bool} {s' : Session}
    (h : s.Goes o m reqs ok s') (hpath : s.PathClosed) (ho : o.Registered)
    (htold : ∀ path, s.initialPath = some path →
      ∀ hc : Sql.isClosed (Text.trimEnd path.toList), P ⟨Text.trimEnd path.toList, hc⟩)
    (hspares : ∀ sql, m.text? = some sql → (s.path.sessions = 0 ∨ o.schemas = []) ∧
      ∀ st ∈ Sql.statements sql.toList, (Effect.ofStatement st).writes .path = false) :
    ∀ q ∈ reqs, ∀ st ∈ Sql.statements q.sql.toList, (Effect.ofStatement st).Leaves .path P := by
  have hlead : ∀ {sql : String} {reqs : List Request} {ok : Bool} {s' : Session},
      (s.path.sessions = 0 ∨ o.schemas = []) →
      (s.lead o sql).2.Owns (s.lead o sql).1 reqs ok s' → ∀ q ∈ reqs,
      ∀ st ∈ Sql.statements q.sql.toList, (Effect.ofStatement st).Leaves .path P := by
    intro sql reqs ok s' hnone howns q hq st hst
    obtain ⟨isLocal, hdues⟩ := statements_lead hpath ho (mem_of_owns howns hq)
    rw [hdues] at hst
    exact leaves_of_mem_dues htold hnone hst
  cases h with
  | batch sql =>
    obtain ⟨hnone, hsql⟩ := hspares sql rfl
    -- what is sent is the caller's text with some of the dues in it
    obtain ⟨block, hblock, pre, post, hmine, hsent, -⟩ := inserted_withPreamble hpath ho sql
    intro q hq st hst
    rw [List.mem_singleton.1 hq] at hst
    change st ∈ Sql.statements (s.withPreamble o sql).1.toList at hst
    rw [hsent, List.append_assoc, List.mem_append, List.mem_append] at hst
    rw [hmine] at hsql
    rcases hst with hst | hst | hst
    · exact Effect.leaves_of_not_writes (hsql st (List.mem_append_left _ hst))
    · exact leaves_of_mem_dues htold hnone (hblock.subset hst)
    · exact Effect.leaves_of_not_writes (hsql st (List.mem_append_right _ hst))
  | prepared _ howns =>
    rename_i sql params reqs s₁
    obtain ⟨hnone, hsql⟩ := hspares sql rfl
    intro q hq st hst
    rcases List.mem_append.1 hq with hq | hq
    · exact hlead hnone howns q hq st hst
    · rw [List.mem_singleton.1 hq] at hst
      exact Effect.leaves_of_not_writes (hsql st hst)
  | unled howns =>
    obtain ⟨hnone, -⟩ := hspares _ rfl
    exact hlead hnone howns
  | closeIgnore howns =>
    intro q hq st hst
    rw [eq_of_closeIgnore (mem_of_owns howns hq), announces_resetIgnore.statements_eq,
      List.mem_singleton] at hst
    rw [hst]
    exact leaves_resetIgnore
  | closePath howns =>
    intro q hq st hst
    obtain ⟨path, hinitial, hstatements⟩ :=
      statements_undoPath hpath (eq_of_closePath (mem_of_owns howns hq))
    rw [hstatements, List.mem_singleton] at hst
    rw [hst]
    exact leaves_undoPath (htold path hinitial)
  | captured | uncaptured =>
    intro q hq st hst
    rw [List.mem_singleton.1 hq] at hst
    exact Effect.leaves_of_not_writes (silent_showPath .path st hst).2
  | openIgnore | openPath | rest => exact fun q hq => (nomatch hq)

end Session

/-! ## Calls -/

namespace Client

variable {w : List Char} {c : Client Backend}

/-- A call that sends nothing of the caller's that sets the search path, and nothing at all while there
are schemas to search. -/
def Spares (c : Client Backend) (call : Call) : Prop :=
  ∀ sql, (c.move call).text? = some sql →
    (c.session.path.sessions = 0 ∨ c.overrides.schemas = []) ∧
      ∀ st ∈ Sql.statements sql.toList, (Effect.ofStatement st).writes .path = false

/-- The client was told that the search path is `w`, if it was told anything; and it is, and so is all
that it can come back to, but for blanks at the end, which nobody sees. -/
structure Remembers (w : List Char) (c : Client Backend) : Prop where
  told : ∀ path, c.session.initialPath = some path → Text.trimEnd path.toList = w
  server : (c.wire.server.ledger .path).All fun v => Text.trimEnd v.text = w

theorem Remembers.value (h : c.Remembers w) :
    Text.trimEnd (c.wire.server.value .path).text = w := h.server.held.value

/-- A call that spares the search path leaves it as it was told. -/
theorem remembers_after (hc : c.Composed) (h : c.Remembers w) {call : Call}
    (hcall : c.Spares call) : (c.after call).Remembers w := by
  refine ⟨fun path hinitial => ?_, ?_⟩
  · rcases initialPath_after hc call with hsame | ⟨-, -, hnow⟩
    · exact h.told path (hsame ▸ hinitial)
    · rw [hnow] at hinitial
      cases hinitial
      rw [String.toList_ofList]
      exact h.value
  · obtain ⟨reqs, ok, hgoes⟩ := c.goes_after call
    have hleaves := hgoes.session.leaves (P := fun v => Text.trimEnd v.text = w) hc.pathClosed
      hc.registered (fun path hinitial _ => (Text.trimEnd_trimEnd _).trans (h.told path hinitial)) hcall
    rw [hgoes.sent.server hc.isOpen]
    exact Backend.all_receives h.server hleaves

end Client

end DeclaredTriggers
