import DeclaredTriggers.Proofs.Session.Events

/-!
# The books of a client

What the events of the books keep holds along every run. For the triggers to ignore, a run begins on a
connection on which the variable was never set (`Client.Starts`), and is disciplined if its texts are
orderly and no call in it is blind:

> `accounted_run`: after every disciplined run the books are accounted.
>
> `quiet_run`: they are quiet too, if no rollback to a savepoint has made them otherwise.
-/

namespace DeclaredTriggers

open Sql (Control)

/-! ## Connections on which nothing was set -/

/-- A variable that holds something and nothing else, in a transaction or outside. -/
structure Backend.Still (b : Backend) (x : Variable) (v : Content) : Prop where
  outside : b.outside x = v
  held : b.holdings x = ⟨v, none⟩
  savepoints : ∀ p ∈ b.savepoints, p.2 x = ⟨v, none⟩
  tidy : b.phase = .idle → b.savepoints = []

/-- A variable that nobody has set yet, in a transaction or outside. -/
structure Backend.Untouched (b : Backend) (x : Variable) : Prop where
  outside : b.outside x = b.conduct.defaults x
  held : b.holdings x = ⟨b.conduct.defaults x, none⟩
  savepoints : ∀ p ∈ b.savepoints, p.2 x = ⟨b.conduct.defaults x, none⟩
  tidy : b.phase = .idle → b.savepoints = []

theorem Backend.Untouched.still {b : Backend} {x : Variable} (h : b.Untouched x) :
    b.Still x (b.conduct.defaults x) := ⟨h.outside, h.held, h.savepoints, h.tidy⟩

/-- Where a variable holds one thing and nothing is known to be set, the books are accounted. -/
theorem Link.accounted_of_still {l : Link Backend} {x : Variable} {home : Content}
    (h : l.server.Still x home) (htracks : l.Tracks) (hsetting : l.session.setting x = {}) :
    (l.booksOn x).Accounted home := by
  have hheld : (l.booksOn x).ledger.held = ⟨home, none⟩ := h.held
  have hnone : (l.booksOn x).setting = {} := hsetting
  refine ⟨htracks, ?_, ?_, ?_, ?_, ?_, ?_⟩
  · intro hidle
    have hmarks : (l.booksOn x).ledger.marks = [] := by
      show l.server.savepoints.map (·.2 x) = []
      rw [h.tidy hidle]
      rfl
    refine ⟨?_, hmarks⟩
    rw [hheld, show (l.booksOn x).ledger.outside = home from h.outside]
  · intro hu
    rw [hnone] at hu
    cases hu
  · intro _
    refine ⟨h.outside, by rw [hheld], fun m hm => ?_⟩
    obtain ⟨p, hp, rfl⟩ := List.mem_map.1 (show m ∈ l.server.savepoints.map _ from hm)
    rw [h.savepoints p hp]
  · intro _ _
    rw [hheld]
  · intro _
    rw [hnone]
  · intro _ hdirty
    rw [hnone] at hdirty
    cases hdirty

theorem Definition.nameFault?_protect_deletes : Definition.nameFault? "protect_deletes" = none := by decide

theorem Kind.fault?_protect : Kind.protect.fault? = none := rfl

/-- A trigger that forbids deletes, and the table that it is for. -/
def Trigger.specimen : Trigger where
  name := "protect_deletes"
  level := .row
  moment := .before
  operation := .delete
  condition := none
  tables := none
  declare := []
  timing := none
  kind := .protect
  named := Definition.nameFault?_protect_deletes
  sound := Kind.fault?_protect

def Entity.specimen : Entity := { label := "library.Book", table := "library_book" }

theorem pgid_specimen :
    Trigger.specimen.pgid .specimen = .ok "pgtrigger_protect_deletes_910fe" :=
  eq_ok_of_toOption (by decide +kernel)

def Entry.specimen : Entry := ⟨.specimen, .specimen, _, pgid_specimen⟩

/-- A registry of that trigger alone. -/
def Registry.specimen : Registry := Registry.put {} .specimen

/-! ## Runs -/

namespace Client

/-- What the triggers to ignore are where nobody has set them. -/
def home (c : Client Backend) : Content := c.wire.server.conduct.defaults .ignore

/-- The books of a client. -/
def books (c : Client Backend) : Books := c.link.books

/-- A client as it is made, on a connection on which nobody has set the triggers to ignore. -/
structure Starts (c : Client Backend) : Prop where
  fresh : c.Fresh
  tracks : c.Tracks
  untouched : c.wire.server.Untouched .ignore

/-- A call whose text, if it sends any, is orderly, and that is not blind. -/
def Disciplined (c : Client Backend) (call : Call) : Prop :=
  (c.move call).Orderly ∧ ¬ c.Blind call

/-- A call that brings back a setting with a savepoint, although nobody needs it and nothing is
pending. -/
def Revives (c : Client Backend) (call : Call) : Prop :=
  (c.move call).Returns ∧ ¬ (c.after call).books.Quiet c.home

variable {c : Client Backend}

/-! ### Runs without hooks -/

theorem hook_after (hopen : c.wire.isOpen) (call : Call) : (c.after call).hook = c.hook := by
  obtain ⟨j, o, hafter, -⟩ := after_eq hopen call
  rw [hafter]
  rfl

theorem left_of_unhooked (h : c.hook = none) (sql : String) (params : Nat) :
    c.left sql params = some sql := by
  unfold left
  rw [h]
  rfl

theorem disciplined_of_move {call : Call} {m : Move} (hmove : c.move call = m) (hm : m.Orderly)
    (hpath : m ≠ .openPath) : c.Disciplined call := by
  unfold Disciplined Blind
  rw [hmove]
  exact ⟨hm, fun hblind => hpath hblind.1⟩

theorem disciplined_of_unhooked (h : c.hook = none) {call : Call} (hcall : call.Orderly) :
    c.Disciplined call := by
  have hbatch : ∀ sql, (c.left sql 0).elim Move.rest Move.batch = .batch sql := by
    intro sql
    rw [left_of_unhooked h]
    rfl
  have hprepared : ∀ sql (params : List String),
      (c.left sql params.length).elim Move.rest (Move.prepared · params) = .prepared sql params := by
    intro sql params
    rw [left_of_unhooked h]
    rfl
  cases call with
  | batch sql => exact disciplined_of_move (hbatch sql) hcall (by simp)
  | query sql params | execute sql params =>
    exact disciplined_of_move (hprepared sql params) hcall (by simp)
  | ignore registry uris =>
    by_cases hids : (registry.ignorable uris).toBool
    · exact disciplined_of_move (m := .openIgnore) (if_pos hids) trivial (by simp)
    · exact disciplined_of_move (m := .rest) (if_neg hids) trivial (by simp)
  | releaseIgnore | dropIgnore | releaseSchema | dropSchema | joinIgnore | leaveIgnore | leavePath
  | elsewhere => exact disciplined_of_move rfl trivial fun hopens => (nomatch hopens)
  | search | joinPath => cases hcall

/-- Where nothing is hooked on, orderly calls are a disciplined run. -/
theorem along_of_unhooked (hc : c.Composed) (h : c.hook = none) {calls : List Call}
    (hcalls : ∀ call ∈ calls, call.Orderly) : Along Disciplined c calls := by
  induction calls generalizing c with
  | nil => trivial
  | cons call rest ih =>
    refine ⟨disciplined_of_unhooked h (hcalls call List.mem_cons_self), ?_⟩
    refine ih (composed_after hc call) ?_ fun other hother =>
      hcalls other (List.mem_cons_of_mem _ hother)
    rw [hook_after hc.isOpen]
    exact h

/-- Where nothing is hooked on, what is sent of the caller's is what was asked for. -/
theorem text_of_unhooked (h : c.hook = none) {call : Call} {sql : String}
    (hsql : (c.move call).text? = some sql) : call.text? = some sql := by
  have hleft : ∀ (text : String) (params : Nat) (m : String → Move),
      (∀ t, (m t).text? = some t) → ((c.left text params).elim Move.rest m).text? = some text := by
    intro text params m hm
    rw [left_of_unhooked h]
    exact hm text
  cases call with
  | batch text => exact (hleft text 0 .batch fun _ => rfl).symm.trans hsql
  | query text params | execute text params =>
    exact (hleft text params.length (.prepared · params) fun _ => rfl).symm.trans hsql
  | ignore registry uris =>
    by_cases hids : (registry.ignorable uris).toBool
    · rw [show c.move (.ignore registry uris) = .openIgnore from if_pos hids] at hsql
      cases hsql
    · rw [show c.move (.ignore registry uris) = .rest from if_neg hids] at hsql
      cases hsql
  | search schemas =>
    by_cases hnames : (schemas.mapM schemaName : Except Error _).toBool
    · rw [show c.move (.search schemas) = .openPath from if_pos hnames] at hsql
      cases hsql
    · rw [show c.move (.search schemas) = .rest from if_neg hnames] at hsql
      cases hsql
  | releaseIgnore | dropIgnore | releaseSchema | dropSchema | joinIgnore | leaveIgnore | joinPath
  | leavePath | elsewhere => cases hsql

/-- There, a run is orderly about a variable if what is asked for is. -/
theorem orderly_of_unhooked (hc : c.Composed) (h : c.hook = none) {x : Variable} {calls : List Call}
    (hcalls : ∀ call ∈ calls, ∀ sql, call.text? = some sql → Silent x sql ∨ ∃ k, Solo sql k) :
    Along (fun d call => (d.move call).OrderlyOn x) c calls := by
  induction calls generalizing c with
  | nil => trivial
  | cons call rest ih =>
    refine ⟨Move.orderlyOn_of_text fun sql hsql => ?_, ?_⟩
    · exact hcalls call List.mem_cons_self sql (text_of_unhooked h hsql)
    · refine ih (composed_after hc call) ?_ fun other hother =>
        hcalls other (List.mem_cons_of_mem _ hother)
      rw [hook_after hc.isOpen]
      exact h

/-- A delete in a transaction while the trigger that forbids it is ignored, a savepoint behind it,
and the scope released behind that. -/
def releaseBehindSavepoint : List Call :=
  [.batch "BEGIN", .ignore .specimen ["library.Book:protect_deletes"],
    .execute "DELETE FROM library_book" [], .batch "SAVEPOINT \"a\"",
    .releaseIgnore ⟨["pgtrigger_protect_deletes_910fe"]⟩]

theorem orderly_releaseBehindSavepoint : ∀ call ∈ releaseBehindSavepoint, call.Orderly := by
  simp only [releaseBehindSavepoint, List.forall_mem_cons]
  exact ⟨.inr ⟨_, solo_begin⟩, trivial, .inl (by decide), .inr ⟨_, solo_savepoint "a"⟩, trivial,
    by simp⟩

/-! ### What a run keeps -/

theorem home_after (hc : c.Composed) (call : Call) : (c.after call).home = c.home := by
  unfold home
  rw [server_after hc]
  refine Link.server_move (I := fun b : Backend => b.conduct.defaults .ignore = c.home) ?_ rfl _ _
  intro q b hb
  rw [Backend.server_receive, Backend.receive_conduct]
  exact hb

theorem home_run (hc : c.Composed) (calls : List Call) : (c.run calls).home = c.home := by
  induction calls generalizing c with
  | nil => rfl
  | cons call rest ih => exact (ih (composed_after hc call)).trans (home_after hc call)

/-- Where no transaction is open, a variable is what it was before the last one, whatever was done. -/
theorem rest_run (hc : c.Composed) {x : Variable}
    (h : c.wire.server.phase = .idle →
      c.wire.server.holdings x = ⟨c.wire.server.outside x, none⟩) (calls : List Call) :
    (c.run calls).wire.server.phase = .idle →
      (c.run calls).wire.server.holdings x = ⟨(c.run calls).wire.server.outside x, none⟩ := by
  induction calls generalizing c with
  | nil => exact h
  | cons call rest ih =>
    refine ih (composed_after hc call) ?_
    rw [server_after hc]
    refine Link.server_move (I := fun b : Backend =>
      b.phase = .idle → b.holdings x = ⟨b.outside x, none⟩) (fun q b _ hidle => ?_) h _ _
    rw [Backend.server_receive] at hidle ⊢
    rw [(Backend.tidy_receive q b).holdings hidle]

theorem starts_connectedTo (conduct : Conduct) : (connectedTo { conduct } .idle).Starts :=
  ⟨fresh_connectedTo _ (by simp), rfl, ⟨rfl, rfl, fun p hp => (nomatch hp), fun _ => rfl⟩⟩

theorem Starts.setting (h : c.Starts) : c.session.ignore = {} := h.fresh.setting .ignore

theorem Starts.accounted (h : c.Starts) : c.books.Accounted c.home :=
  c.link.accounted_of_still h.untouched.still h.tracks h.setting

theorem Starts.quiet (h : c.Starts) : c.books.Quiet c.home := by
  intro _ _ _
  rw [show c.books.ledger.held = ⟨c.home, none⟩ from h.untouched.held]
  rfl

theorem steps_after (hc : c.Composed) (h : c.books.Accounted c.home) {call : Call}
    (hcall : c.Disciplined call) :
    Relation.ReflTransGen (Books.Step c.home) c.books (c.after call).books ∨
      (c.move call).Returns ∧ Books.Returned c.books (c.after call).books := by
  unfold books
  rw [link_after hc call]
  exact Link.steps_move (x := .ignore) h.tracks hc.pathClosed hc.registered rfl hcall.1 hcall.2

theorem accounted_after (hc : c.Composed) (h : c.books.Accounted c.home) {call : Call}
    (hcall : c.Disciplined call) : (c.after call).books.Accounted c.home := by
  rcases steps_after hc h hcall with hsteps | ⟨-, hreturned⟩
  · exact h.steps hsteps
  · exact h.returned hreturned

/-- After every disciplined run the books are accounted. -/
theorem accounted_run (h : c.Starts) {calls : List Call} (hrun : Along Disciplined c calls) :
    (c.run calls).books.Accounted c.home := by
  have hkept := run_keeps (I := fun d => d.Composed ∧ d.home = c.home ∧ d.books.Accounted c.home)
    (fun d call ⟨hd, hhome, hbooks⟩ hcall => ⟨composed_after hd call,
      (home_after hd call).trans hhome, hhome ▸ accounted_after hd (hhome ▸ hbooks) hcall⟩)
    ⟨h.fresh.composed, rfl, h.accounted⟩ hrun
  exact hkept.2.2

/-- They are quiet too, unless a rollback to a savepoint has made them otherwise. -/
theorem quiet_run (h : c.Starts) {calls : List Call}
    (hrun : Along (fun d call => d.Disciplined call ∧ ¬ d.Revives call) c calls) :
    (c.run calls).books.Quiet c.home := by
  have hstep : ∀ (d : Client Backend) call, (d.Composed ∧ d.home = c.home ∧ d.books.Accounted c.home ∧
      d.books.Quiet c.home) → (d.Disciplined call ∧ ¬ d.Revives call) →
      (d.after call).Composed ∧ (d.after call).home = c.home ∧
        (d.after call).books.Accounted c.home ∧ (d.after call).books.Quiet c.home := by
    rintro d call ⟨hd, hhome, hbooks, hquiet⟩ ⟨hcall, hrevives⟩
    rw [← hhome] at hbooks hquiet ⊢
    refine ⟨composed_after hd call, home_after hd call, accounted_after hd hbooks hcall, ?_⟩
    rcases steps_after hd hbooks hcall with hsteps | ⟨hreturns, -⟩
    · exact hquiet.steps hbooks hsteps
    · exact Classical.not_not.1 fun hloud => hrevives ⟨hreturns, hloud⟩
  exact (run_keeps hstep ⟨h.fresh.composed, rfl, h.accounted, h.quiet⟩ hrun).2.2.2

end Client

end DeclaredTriggers
