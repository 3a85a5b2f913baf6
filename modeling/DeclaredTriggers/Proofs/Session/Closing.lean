import DeclaredTriggers.Proofs.Session.Executions

/-!
# What a closed scope leaves

Once the last scope is closed, statements are to be executed with the triggers to ignore at home. This
file says when they are:

> `closed_executes_iff`: a statement that is sent while no scope is open is executed with the variable
> at home exactly if an undoing is pending or the variable is at home already; and after a disciplined
> run one of the two is so, unless a rollback to a savepoint has brought a setting back.

An undoing that goes out in a transaction is noted if the variable was set for good, so that it is
sent again if it is rolled back. It is not noted if the variable was only set for the transaction, and
a savepoint from before the undoing brings that setting back: nothing is pending then, and the
statements behind are executed without the triggers (`closed_executes_setting`).
-/

namespace DeclaredTriggers

namespace Books

variable {home : Content} {k : Books}

/-- Where nobody needs a variable, its books are quiet if an undoing is pending or the variable is at
home. -/
theorem Accounted.quiet_iff (h : k.Accounted home) (hst : k.status ≠ .inError)
    (hsessions : k.setting.sessions = 0) :
    k.Quiet home ↔ k.setting.pending ∨ k.ledger.held.value = home := by
  have hvalue := h.value_heldPaid hst hsessions
  unfold Setting.heldPaid at hvalue
  cases hpending : k.setting.pending with
  | true => exact ⟨fun _ => .inl rfl, fun _ _ hnot => by rw [hpending] at hnot; cases hnot⟩
  | false =>
    rw [hpending] at hvalue
    have hvalue : k.ledger.held.value = k.ledger.held.passing.getD home := hvalue
    rw [hvalue]
    constructor
    · intro hquiet
      refine .inr ?_
      cases hs : k.status with
      | inTransaction => exact hquiet hsessions hpending hs
      | inError => exact absurd hs hst
      | idle =>
        -- outside a transaction nothing is left of one
        rw [(h.tidy (h.tracks_idle hs)).1]
        rfl
    · rintro (hpending' | hhome)
      · cases hpending'
      · exact fun _ _ _ => hhome

end Books

namespace Client

variable {c : Client Backend}

/-- What is sent while no scope is open is executed with what is left of the variable once a pending
undoing was done. -/
theorem behind_of_closed (hc : c.Composed)
    (htidy : c.wire.server.phase = .idle → (c.wire.server.holdings .ignore).passing = none)
    (hclosed : c.session.ignore.sessions = 0) (herror : c.session.status ≠ .inError) {call : Call}
    {sql : String} (hcovered : (c.move call).covered? = some ([], sql)) (hsql : Plain sql)
    (hconcurrent : Sql.isConcurrent sql.toList = false) :
    (c.behind call).map Execution.statement <+: Sql.statements sql.toList ∧
      (c.succeeds call → (c.behind call).map Execution.statement = Sql.statements sql.toList) ∧
      ∀ e ∈ c.behind call, e.values .ignore =
        (c.session.ignore.heldPaid c.home (c.wire.server.holdings .ignore)).value := by
  have hback := Session.holdsBack_eq_false herror hconcurrent
  have halong : ∀ isLocal v held, c.session.ignore.heldAlong c.home isLocal (some v) held =
      c.session.ignore.heldPaid c.home held := fun _ _ _ => if_pos hclosed
  have hspan : Backend.span .ignore c.wire.server.conduct.savepointName []
      (Sql.statements sql.toList) = (Sql.statements sql.toList).length :=
    Backend.span_of_ordinary (fun st hst => hsql st hst) _ _
  obtain ⟨hpre, hall, hvalues⟩ := behind_after hc hcovered hback
    (v := (c.session.ignore.heldPaid c.home (c.wire.server.holdings .ignore)).value)
    (fun mid hmid => by
      cases hmid
      rw [halong])
    (fun _ _ _ hidle => by
      rw [halong]
      unfold Setting.heldPaid
      split
      next => rfl
      next => exact htidy hidle)
  refine ⟨hpre, hall, fun e he => hvalues e ?_⟩
  rw [hspan, List.take_of_length_le (Execution.length_le hpre)]
  exact he

/-- A statement that is sent while no scope is open, after whatever run, is executed with the variable
at home exactly if an undoing is pending or the variable is at home already. After a disciplined run
one of the two is so, unless a rollback to a savepoint has brought a setting back. -/
theorem closed_executes_iff {c : Client Backend} (hstart : c.Starts) {calls : List Call}
    (hclosed : (c.run calls).session.ignore.sessions = 0)
    (herror : (c.run calls).session.status ≠ .inError) {call : Call} {sql : String}
    (hcovered : ((c.run calls).move call).covered? = some ([], sql)) (hsql : Plain sql)
    (hconcurrent : Sql.isConcurrent sql.toList = false) :
    ((c.run calls).behind call).map Execution.statement <+: Sql.statements sql.toList ∧
      ((c.run calls).succeeds call →
        ((c.run calls).behind call).map Execution.statement = Sql.statements sql.toList) ∧
      (∀ e ∈ (c.run calls).behind call, e.values .ignore = c.home ↔
        (c.run calls).session.ignore.pending ∨
          (c.run calls).wire.server.value .ignore = c.home) ∧
      (Along (fun d other => d.Disciplined other ∧ ¬ d.Revives other) c calls →
        (c.run calls).session.ignore.pending ∨
          (c.run calls).wire.server.value .ignore = c.home) := by
  have hcomposed := composed_run hstart.fresh.composed calls
  have hhome : (c.run calls).home = c.home := home_run hstart.fresh.composed calls
  have hrest := rest_run hstart.fresh.composed (x := .ignore)
    (fun _ => by rw [hstart.untouched.held, hstart.untouched.outside]) calls
  -- no `SET LOCAL` gets over the end of a request where no transaction is open
  have htidy : (c.run calls).wire.server.phase = .idle →
      ((c.run calls).wire.server.holdings .ignore).passing = none := fun hidle => by rw [hrest hidle]
  obtain ⟨hpre, hall, hvalues⟩ :=
    behind_of_closed hcomposed htidy hclosed herror hcovered hsql hconcurrent
  refine ⟨hpre, hall, fun e he => ?_, fun hrun => ?_⟩
  · rw [hvalues e he, hhome]
    unfold Setting.heldPaid
    split
    next hpending => exact ⟨fun _ => .inl hpending, fun _ => rfl⟩
    next hpending => exact ⟨.inr, fun hor => hor.resolve_left hpending⟩
  · have hbooks := accounted_run hstart (hrun.imp fun _ _ hcall => hcall.1)
    exact (hbooks.quiet_iff herror hclosed).1 (quiet_run hstart hrun)

/-- A scope is released behind a savepoint that was taken while it was open: the next delete is
executed with the triggers back. -/
theorem closed_executes_after_release :
    let c : Client Backend := connectedTo { conduct := .cancelling none } .idle
    let call : Call := .execute "DELETE FROM library_book" []
    ((c.run releaseBehindSavepoint).behind call).map Execution.statement =
        ["DELETE FROM library_book".toList] ∧
      ∀ e ∈ (c.run releaseBehindSavepoint).behind call, e.values .ignore = c.home := by
  intro c call
  have hfacts : (c.run releaseBehindSavepoint).session.ignore.sessions = 0 ∧
      (c.run releaseBehindSavepoint).session.status ≠ .inError ∧
      ((c.run releaseBehindSavepoint).move call).covered? =
        some ([], "DELETE FROM library_book") ∧
      (c.run releaseBehindSavepoint).succeeds call ∧
      (c.run releaseBehindSavepoint).wire.server.value .ignore = c.home := by decide +kernel
  obtain ⟨hclosed, herror, hcovered, hsucceeds, hhome⟩ := hfacts
  have hstart : c.Starts := starts_connectedTo _
  obtain ⟨-, hall, hiff, -⟩ := closed_executes_iff hstart hclosed herror hcovered
    (by decide) (by decide)
  exact ⟨hall hsucceeds, fun e he => (hiff e he).2 (.inr hhome)⟩

/-- Rolled back to the savepoint, it is executed without them. -/
theorem closed_executes_setting :
    ¬ ∀ (c : Client Backend) (calls : List Call) (call : Call) (sql : String), c.Starts →
      Along Disciplined c calls → (c.run calls).session.ignore.sessions = 0 →
      (c.run calls).session.status ≠ .inError →
      ((c.run calls).move call).covered? = some ([], sql) → Plain sql →
      Sql.isConcurrent sql.toList = false →
      ∀ e ∈ (c.run calls).behind call, e.values .ignore = c.home := by
  intro hall
  let c : Client Backend := connectedTo { conduct := .cancelling none } .idle
  let calls := releaseBehindSavepoint ++ [.batch ("ROLLBACK TO SAVEPOINT " ++ Sql.quoteName "a")]
  let call : Call := .execute "DELETE FROM library_book" []
  have hcalls : ∀ call ∈ calls, call.Orderly := by
    intro call hcall
    rcases List.mem_append.1 hcall with hcall | hcall
    · exact orderly_releaseBehindSavepoint call hcall
    · rw [List.mem_singleton.1 hcall]
      exact .inr ⟨_, solo_rollbackTo "a"⟩
  have hstart : c.Starts := starts_connectedTo _
  have hfacts : (c.run calls).session.ignore.sessions = 0 ∧
      (c.run calls).session.status ≠ .inError ∧
      ((c.run calls).move call).covered? = some ([], "DELETE FROM library_book") ∧
      ¬ ∀ e ∈ (c.run calls).behind call, e.values .ignore = c.home := by decide +kernel
  obtain ⟨hclosed, herror, hcovered, haway⟩ := hfacts
  exact haway (hall c calls call _ hstart (along_of_unhooked hstart.fresh.composed rfl hcalls)
    hclosed herror hcovered (by decide) (by decide))

end Client

end DeclaredTriggers
