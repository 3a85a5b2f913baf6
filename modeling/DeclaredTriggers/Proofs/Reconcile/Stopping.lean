import DeclaredTriggers.Proofs.Condition.Tree
import DeclaredTriggers.Proofs.Reconcile.Altering
import DeclaredTriggers.Proofs.Reconcile.Bulk
import DeclaredTriggers.Proofs.Registry.Places
import DeclaredTriggers.Proofs.Session.Savepoints

/-!
# Runs that stop

A run does a verb to its targets one after the other, and the first that fails ends it. What the texts in
front of that one did stays, the failed text does nothing, and nothing is sent behind it. This holds over any
connection that isolates texts (`Isolates`): a plain one outside a transaction, where the server undoes a
batch by itself, and that of a client in a transaction, where savepoints do it. In both cases the
proof follows the targets: one step takes one text (`takes_perform`), and the dispatches of the steps are put
together along the list (`takes_performAll`).

> `Reconciler.run_eq_error_iff`: a run fails if the search for targets does or at one of the targets.
>
> `Reconciler.failure_isolated`: a run that fails at some target leaves what the targets in front of it did and
> nothing else, and its savepoints are each closed once.
-/

namespace DeclaredTriggers

open Act (result)
open Channel

variable {κ : Type} [Channel κ]

/-! ## The search for targets -/

section

variable {P : κ → Prop} (hquery : ∀ params, Act.Keeps P (query statusSql params))

include hquery

/-- What every question about an entry keeps, the search for targets keeps. -/
theorem keeps_catalogEntry (table pgid : String) : Act.Keeps P <| catalogEntry? table pgid := by
  unfold catalogEntry?
  refine Act.Keeps.bind (Act.Keeps.attempt (Act.Keeps.bind (hquery _) fun _ => .pure _)) fun came => ?_
  rcases came with e | _ | row
  · dsimp only
    split
    next => exact .pure none
    next => exact .throw e
  · exact .pure none
  · exact .bind (.lift _) fun _ => .bind (.lift _) fun _ => .pure _

theorem keeps_statusOf (e : Entity) (t : Trigger) (s : Settings) : Act.Keeps P (statusOf e t s) := by
  unfold statusOf
  refine Act.Keeps.bind (.lift _) fun pgid => Act.Keeps.bind (keeps_catalogEntry hquery _ _) fun came => ?_
  rcases came with _ | ⟨installed, enabled⟩
  · exact .pure _
  · exact .bind (.lift _) fun _ => .pure _

theorem Reconciler.keeps_targets (R : Reconciler) (uris : List String) (needs : Status → Bool) :
    Act.Keeps P (R.targets uris needs) := by
  have hone : ∀ x, Act.Keeps P (R.isTarget uris.isEmpty needs x) := by
    intro x
    unfold isTarget status
    split
    next => exact .pure false
    next =>
      split
      next =>
        refine Act.Keeps.bind ?_ fun _ => .pure _
        split
        next => exact keeps_statusOf hquery _ _ _
        next => exact .pure _
      next => exact .pure true
  unfold targets
  exact .bind (.lift _) fun xs => .filterM hone xs

end

namespace Reconciler

variable {R : Reconciler} {verb : Verb} {uris : List String} {k k₁ k' : κ}

theorem mem_entries_of_entries {ys : List Entry} (h : R.entries uris = .ok ys) :
    ∀ y ∈ ys, y ∈ R.registry.entries := by
  intro y hy
  unfold entries at h
  split at h
  next hempty =>
    unfold Registry.select at h
    rw [if_pos hempty] at h
    obtain rfl := Except.ok.inj h
    exact (List.mem_filter.1 hy).1
  next =>
    obtain ⟨uri, -, hlookup⟩ := exists_of_mem_mapM h hy
    unfold Registry.lookup at hlookup
    split at hlookup
    next => cases hlookup
    next =>
      split at hlookup
      next z hz =>
        obtain rfl := Except.ok.inj hlookup
        exact Registry.mem_entries_iff.2 ⟨uri, hz⟩
      next => cases hlookup

/-- Targets are registered. -/
theorem mem_entries_of_targets {needs : Status → Bool} {xs : List Entry}
    (h : result (R.targets uris needs) k = (.ok xs, k')) : ∀ x ∈ xs, x ∈ R.registry.entries := by
  intro x hx
  unfold targets at h
  obtain ⟨ys, k₁, hlift, hfilter⟩ := Act.exists_ok_of_result_bind h
  rw [Act.result_lift] at hlift
  exact mem_entries_of_entries (congrArg Prod.fst hlift) x (Act.mem_of_filterM hfilter x hx)

/-- A run that fails at the target `x`, behind `done`: the channel that the targets were found over is left as
`k₁`, and the run leaves `k'`. -/
structure FailsAt (R : Reconciler) (verb : Verb) (uris : List String) (k k₁ : κ) (done : List Entry) (x : Entry)
    (e : Error) (k' : κ) : Prop where
  found : ∃ later, result (R.targets uris (needs verb)) k = (.ok (done ++ x :: later), k₁)
  failed : ∃ k₂, result (done.forM (R.perform verb)) k₁ = (.ok (), k₂) ∧
    result (R.perform verb x) k₂ = (.error e, k')

/-- A run fails if the search for targets does or at one of the targets. -/
theorem run_eq_error_iff {e : Error} : result (R.run verb uris) k = (.error e, k') ↔
    result (R.targets uris (needs verb)) k = (.error e, k') ∨ ∃ k₁ done x, R.FailsAt verb uris k k₁ done x e k' := by
  unfold run
  rw [Act.result_bind]
  cases hfound : result (R.targets uris (needs verb)) k with
  | mk came k₁ =>
    cases came with
    | error e' =>
      constructor
      · intro herror
        obtain ⟨he, rfl⟩ := Prod.mk.inj herror
        obtain rfl := Except.error.inj he
        exact .inl rfl
      · rintro (herror | ⟨k₂, done, x, ⟨later, hfound'⟩, -⟩)
        · obtain ⟨he, rfl⟩ := Prod.mk.inj herror
          obtain rfl := Except.error.inj he
          rfl
        · cases hfound.symm.trans hfound'
    | ok xs =>
      constructor
      · intro h
        obtain ⟨done, x, later, k₂, rfl, hdone, hfailed⟩ := Act.result_forM_eq_error_iff.1 h
        exact .inr ⟨k₁, done, x, ⟨later, hfound⟩, k₂, hdone, hfailed⟩
      · rintro (herror | ⟨k₂, done, x, ⟨later, hfound'⟩, k₃, hdone, hfailed⟩)
        · cases herror
        · obtain ⟨hxs, rfl⟩ := Prod.mk.inj (hfound.symm.trans hfound')
          obtain rfl := Except.ok.inj hxs
          exact Act.result_forM_eq_error_iff.2 ⟨done, x, later, k₃, rfl, hdone, hfailed⟩

/-- A run that fails at a target comes to the error of that target, and nothing is done behind it. -/
theorem FailsAt.result_runAndPrune {done : List Entry} {x : Entry} {e : Error}
    (h : R.FailsAt verb uris k k₁ done x e k') (pruning : Bool) :
    result (R.runAndPrune verb uris pruning) k = (.error e, k') :=
  Act.result_bind_error (run_eq_error_iff.2 (.inr ⟨k₁, done, x, h⟩)) _

end Reconciler

/-! ## Connections that isolate texts -/

theorem Line.After.takes {P : Passing} {l l₁ l' : Line Database} {text : String} {r : Except Error Unit}
    (h : l.After [] [] [] l₁) (htakes : l₁.Takes P text r l') : l.Takes P text r l' := by
  have hwork : l₁.wire.server.work = l.wire.server.work := h.work.trans (List.append_nil _)
  cases htakes with
  | kept d hkeeps hguarded hafter =>
    rw [h.rules, hwork] at hkeeps
    exact .kept d hkeeps hguarded (h.trans hafter)
  | undone d e hfails hguarded hafter =>
    rw [h.rules, hwork] at hfails
    exact .undone d e hfails hguarded (h.trans hafter)

/-- Over its line, a usable channel takes every text that controls nothing, and is usable afterwards. -/
structure Isolates (line : κ → Line Database) (usable : κ → Prop) (P : Passing) : Prop where
  ordinary : ∀ {text sql : String}, Ordinary text → P.sends text sql → Ordinary sql
  noted : ∀ (n : Notice) {k : κ}, usable k → usable (noted n k) ∧ (line k).After [] [] [] (line (noted n k))
  takes : ∀ {text : String} {k : κ}, usable k → Ordinary text →
    ∃ r k', result (runIsolated text) k = (r, k') ∧ usable k' ∧ (line k).Takes P text r (line k')

theorem Asks.ordinary {ch : Char} {sql : String} (h : Asks ch sql.toList) : Ordinary sql := by
  unfold Ordinary
  rw [h.statements]
  intro s hs
  rw [List.mem_singleton.1 hs]
  exact h.control

theorem Client.keeps_query {c₀ : Client Database} (hc : c₀.Composed) (hfair : c₀.Fair) (params : List String) :
    Act.Keeps c₀.Attends (query statusSql params) :=
  fun _ h => attends_query hc hfair h asks_statusSql.ordinary params

/-- A plain connection outside a transaction. -/
theorem Direct.isolates :
    Isolates Direct.toLine (fun c : Direct Database => c.Fit ∧ c.held = false) .plain where
  ordinary htext hsql := hsql ▸ htext
  noted n c h := ⟨⟨⟨h.1.isOpen, h.1.phase⟩, h.2⟩, .noted rfl rfl rfl⟩
  takes h htext := by
    obtain ⟨r, c', hresult, hfit, hheld, htakes⟩ := Direct.takes_isolated h.1 h.2 htext
    exact ⟨r, c', hresult, ⟨hfit, hheld⟩, htakes⟩

/-- A client knows that a transaction has not failed. -/
theorem Client.Attends.inTransaction {c₀ c : Client Database} (h : c₀.Attends c)
    (hphase : c.wire.server.phase = .inTransaction) : c.session.status = .inTransaction := by
  have htracks := h.tracks
  rw [hphase] at htracks
  cases hstatus : c.session.status with
  | idle => exact absurd hstatus h.isBusy
  | inTransaction => rfl
  | inError =>
    rw [hstatus] at htracks
    exact absurd rfl htracks

/-- A client in a transaction that has not failed. -/
theorem Client.isolates {c₀ : Client Database} (hc : c₀.Composed) (hfair : c₀.Fair)
    (hspares : c₀.wire.server.rules.SparesSavepoints) :
    Isolates Client.line (fun c => c₀.Attends c ∧ c.session.status = .inTransaction) c₀.passing where
  ordinary := by
    rintro text sql htext ⟨x, lead, ds, hleft, -, hstatements, hds⟩ st hst
    rw [hstatements] at hst
    exact (List.mem_append.1 hst).elim (hds st) (hfair.ordinary htext hleft st)
  noted n c h := ⟨⟨h.1.noting [.notice n], h.2⟩, .noted rfl rfl rfl⟩
  takes h htext := by
    obtain ⟨r, c', hresult, hattends, hstatus, htakes⟩ := takes_isolated hc hfair hspares h.1 h.2 htext
    exact ⟨r, c', hresult, ⟨hattends, hstatus⟩, htakes⟩

namespace Reconciler

variable {R : Reconciler} {verb : Verb} {line : κ → Line Database} {usable : κ → Prop} {P : Passing}
  {k k' : κ} {done : List Entry} {x : Entry} {e : Error}

/-- What went out for an entry that a verb was done to. -/
def Done (R : Reconciler) (verb : Verb) (P : Passing) (x : Entry) (d : Dispatch) : Prop :=
  ∃ text sql, R.text verb x = .ok text ∧ P.sends text sql ∧ d.text = some sql

/-- How a line is left by a run that stopped at the target `x`, behind `done`. -/
structure Stopped (R : Reconciler) (verb : Verb) (P : Passing) (l : Line Database) (done : List Entry)
    (x : Entry) (e : Error) (ds : List Dispatch) (last : Option Dispatch) (l' : Line Database) : Prop where
  /-- The text of each target in front went out. -/
  done : List.Forall₂ (R.Done verb P) done ds
  /-- The text of the last cannot be written, or it fails. -/
  failed : last.elim (R.text verb x = .error e) fun d => ∃ text, R.text verb x = .ok text ∧
    P.Fails l.wire.server.rules (l.wire.server.work ++ ds.flatMap Dispatch.work) text d e
  guarded : ∀ d ∈ ds ++ last.toList, d.number.isSome = P.guarded
  /-- What went out in front is in force, and nothing else was sent. -/
  after : l.After (ds.flatMap Dispatch.work)
    (ds.flatMap Dispatch.kept ++ last.toList.flatMap Dispatch.undone)
    ((ds ++ last.toList).flatMap (·.number.toList)) l'
  distinct : (((ds ++ last.toList).flatMap (·.number.toList)).map savepointName).Nodup
  /-- Each savepoint is released or gone back to, once. -/
  closed : ∀ n ∈ (ds ++ last.toList).flatMap (·.number.toList),
    (ds.flatMap Dispatch.kept ++ last.toList.flatMap Dispatch.undone).countP (closes n) = 1

/-- One target: its text is taken, unless it cannot be written. -/
theorem takes_perform (h : Isolates line usable P) (hk : usable k)
    (hordinary : ∀ text, R.text verb x = .ok text → Ordinary text) :
    ∃ r k', result (R.perform verb x) k = (r, k') ∧ usable k' ∧
      ((∃ e, R.text verb x = .error e ∧ r = .error e ∧ (line k).After [] [] [] (line k')) ∨
        ∃ text, R.text verb x = .ok text ∧ (line k).Takes P text r (line k')) := by
  obtain ⟨hnoted, hafter⟩ := h.noted (.reconciling verb x.uri x.trigger.name x.table R.database) hk
  generalize hk₁ : noted (.reconciling verb x.uri x.trigger.name x.table R.database) k = k₁ at hnoted hafter
  have hperform : result (R.perform verb x) k = result (do
      let text ← R.text verb x
      runIsolated text) k₁ := by
    rw [result_perform, ← hk₁]
    exact Act.result_bind_ok rfl _
  have hlift := Act.result_lift (R.text verb x) k₁
  rw [hperform]
  cases htext : R.text verb x with
  | error e =>
    rw [htext] at hlift
    exact ⟨_, k₁, Act.result_bind_error hlift _, hnoted, .inl ⟨e, rfl, rfl, hafter⟩⟩
  | ok text =>
    rw [htext] at hlift
    obtain ⟨r, k', hresult, hk', htakes⟩ := h.takes hnoted (hordinary text htext)
    exact ⟨r, k', (Act.result_bind_ok hlift _).trans hresult, hk', .inr ⟨text, rfl, hafter.takes htakes⟩⟩

/-- Targets that a verb is done to, one after the other: the work of all their texts is in force. -/
theorem takes_performAll (h : Isolates line usable P) (hk : usable k)
    (hordinary : ∀ x ∈ done, ∀ text, R.text verb x = .ok text → Ordinary text)
    (hresult : result (done.forM (R.perform verb)) k = (.ok (), k')) :
    usable k' ∧ ∃ ds, List.Forall₂ (R.Done verb P) done ds ∧
      (∀ d ∈ ds, d.Ordinary ∧ d.number.isSome = P.guarded) ∧
      (line k).After (ds.flatMap Dispatch.work) (ds.flatMap Dispatch.kept) (ds.flatMap (·.number.toList))
        (line k') := by
  induction done generalizing k with
  | nil =>
    obtain rfl := (Prod.mk.inj hresult).2
    exact ⟨hk, [], .nil, fun _ hd => absurd hd List.not_mem_nil, .refl _⟩
  | cons x done ih =>
    obtain ⟨⟨⟩, k₁, hone, hrest⟩ := Act.exists_ok_of_result_bind hresult
    obtain ⟨r, k₂, hone', hk₁, htaken⟩ := takes_perform h hk (hordinary x List.mem_cons_self)
    obtain ⟨rfl, rfl⟩ := Prod.mk.inj (hone'.symm.trans hone)
    obtain ⟨e, -, herror, -⟩ | ⟨text, htext, htakes⟩ := htaken
    · cases herror
    · cases htakes with
      | kept d hkeeps hguarded hafter =>
        obtain ⟨sql, clock, hsends, hsql, -⟩ := hkeeps
        obtain ⟨hk', ds, hds, hall, hafter'⟩ :=
          ih hk₁ (fun y hy => hordinary y (List.mem_cons_of_mem _ hy)) hrest
        refine ⟨hk', d :: ds, .cons ⟨text, sql, htext, hsends, hsql⟩ hds, ?_, hafter.trans hafter'⟩
        rintro d' (_ | ⟨_, hd'⟩)
        · refine ⟨fun sql' hsql' => ?_, hguarded⟩
          obtain rfl := Option.some.inj (hsql.symm.trans hsql')
          exact h.ordinary (hordinary x List.mem_cons_self text htext) hsends
        · exact hall d' hd'

/-- A text that fails goes out as one that controls nothing, if it goes out. -/
theorem ordinary_of_fails (h : Isolates line usable P) {rules : Rules} {work : Work} {text : String}
    {d : Dispatch} (htext : Ordinary text) (hfails : P.Fails rules work text d e) : d.Ordinary := by
  intro sql hsql
  cases hfails with
  | refused clock hsends _ =>
    obtain rfl := Option.some.inj hsql
    exact h.ordinary htext hsends
  | withheld _ => cases hsql

/-- A target that fails: what was sent for it leaves no work. -/
theorem takes_failing (h : Isolates line usable P) (hk : usable k)
    (hordinary : ∀ text, R.text verb x = .ok text → Ordinary text)
    (hresult : result (R.perform verb x) k = (.error e, k')) :
    usable k' ∧ ∃ last : Option Dispatch,
      (last.elim (R.text verb x = .error e) fun d => ∃ text, R.text verb x = .ok text ∧
        P.Fails (line k).wire.server.rules (line k).wire.server.work text d e) ∧
      (∀ d ∈ last.toList, d.Ordinary ∧ d.number.isSome = P.guarded) ∧
      (line k).After [] (last.toList.flatMap Dispatch.undone) (last.toList.flatMap (·.number.toList))
        (line k') := by
  obtain ⟨r, k₁, hone, hk', htaken⟩ := takes_perform h hk hordinary
  obtain ⟨rfl, rfl⟩ := Prod.mk.inj (hone.symm.trans hresult)
  refine ⟨hk', ?_⟩
  obtain ⟨e', htext, herror, hafter⟩ | ⟨text, htext, htakes⟩ := htaken
  · obtain rfl := Except.error.inj herror
    exact ⟨none, htext, fun _ hd => absurd hd List.not_mem_nil, hafter⟩
  · cases htakes with
    | undone d _ hfails hguarded hafter =>
      refine ⟨some d, ⟨text, htext, hfails⟩, fun d' hd' => ?_, ?_⟩
      · obtain rfl := List.mem_singleton.1 hd'
        exact ⟨ordinary_of_fails h (hordinary text htext) hfails, hguarded⟩
      · rwa [Option.toList_some, List.flatMap_singleton, List.flatMap_singleton]

/-- A run over a channel that isolates texts stops where a target fails. -/
theorem stopped_of_failed (h : Isolates line usable P) (hk : usable k)
    (hordinary : ∀ y ∈ done ++ [x], ∀ text, R.text verb y = .ok text → Ordinary text)
    {k₂ : κ} (hdone : result (done.forM (R.perform verb)) k = (.ok (), k₂))
    (hfailed : result (R.perform verb x) k₂ = (.error e, k')) :
    usable k' ∧ ∃ ds last, R.Stopped verb P (line k) done x e ds last (line k') := by
  obtain ⟨hk₂, ds, hds, hall, hafter⟩ :=
    takes_performAll h hk (fun y hy => hordinary y (List.mem_append_left _ hy)) hdone
  obtain ⟨hk', last, hlast, hall', hafter'⟩ :=
    takes_failing h hk₂ (hordinary x (List.mem_append_right _ (List.mem_singleton_self x))) hfailed
  -- the text fails where the texts in front of it are in force
  rw [hafter.rules, hafter.work] at hlast
  have hwhole := hafter.trans hafter'
  rw [List.append_nil, ← List.flatMap_append] at hwhole
  refine ⟨hk', ds, last, hds, hlast, fun d hd => ?_, hwhole,
    hwhole.nodup.map fun _ _ => savepointName_inj, fun n hn => ?_⟩
  · exact (List.mem_append.1 hd).elim (fun hd => (hall d hd).2) fun hd => (hall' d hd).2
  · -- as many batches close a savepoint of this number as savepoints have it
    have hkept : (ds.flatMap Dispatch.kept).countP (closes n) = (ds.flatMap (·.number.toList)).count n :=
      countP_closes_flatMap (fun d hd => (hall d hd).1) (closes_release n)
    have hundone : (last.toList.flatMap Dispatch.undone).countP (closes n) =
        (last.toList.flatMap (·.number.toList)).count n :=
      countP_closes_flatMap (fun d hd => (hall' d hd).1) (closes_rollbackTo n)
    rw [List.countP_append, hkept, hundone, ← List.count_append, ← List.flatMap_append]
    exact List.count_eq_one_of_mem hwhole.nodup hn

/-! ## Runs that fail -/

/-- A run that fails at a target comes to the error of that target. What the targets in front of it did is in
force, nothing else is, and nothing was sent for any target behind it or to prune. Over a client in a
transaction that its questions did not fail, the transaction can go on, and each savepoint was closed once. -/
theorem failure_isolated (R : Reconciler) (verb : Verb) (uris : List String)
    (hordinary : ∀ x ∈ R.registry.entries, ∀ text, R.text verb x = .ok text → Ordinary text) :
    (∀ (c c₁ c' : Direct Database) (done : List Entry) (x : Entry) (e : Error), c.Fit → c.held = false →
      R.FailsAt verb uris c c₁ done x e c' →
        (∀ pruning, result (R.runAndPrune verb uris pruning) c = (.error e, c')) ∧
        (∃ ds last, R.Stopped verb .plain c₁.toLine done x e ds last c'.toLine) ∧
        c'.Fit ∧ c'.held = false) ∧
    ∀ (c c₁ c' : Client Database) (done : List Entry) (x : Entry) (e : Error), c.Composed → c.Fair →
      c.wire.server.rules.SparesSavepoints → c.session.status = .inTransaction →
      c.wire.server.phase = .inTransaction → R.FailsAt verb uris c c₁ done x e c' →
      c₁.wire.server.phase = .inTransaction →
        (∀ pruning, result (R.runAndPrune verb uris pruning) c = (.error e, c')) ∧
        (∃ ds last, R.Stopped verb c.passing c₁.line done x e ds last c'.line) ∧
        c'.session.status = .inTransaction ∧ c'.wire.server.phase = .inTransaction := by
  have htexts : ∀ {κ : Type} [Channel κ] {k k₁ k' : κ} {done : List Entry} {x : Entry} {e : Error},
      R.FailsAt verb uris k k₁ done x e k' →
        ∀ y ∈ done ++ [x], ∀ text, R.text verb y = .ok text → Ordinary text := by
    intro κ _ k k₁ k' done x e h y hy
    obtain ⟨later, hfound⟩ := h.found
    have htarget : y ∈ done ++ x :: later := by
      rw [← List.singleton_append, ← List.append_assoc]
      exact List.mem_append_left _ hy
    exact hordinary y (mem_entries_of_targets hfound y htarget)
  constructor
  · intro c c₁ c' done x e hfit hheld h
    obtain ⟨later, hfound⟩ := h.found
    obtain ⟨c₂, hdone, hfailed⟩ := h.failed
    have hc₁ := R.keeps_targets (Direct.keeps_query asks_statusSql.ordinary) uris (needs verb) c ⟨hfit, hheld⟩
    rw [hfound] at hc₁
    obtain ⟨⟨hfit', hheld'⟩, hstopped⟩ := stopped_of_failed Direct.isolates hc₁ (htexts h) hdone hfailed
    exact ⟨h.result_runAndPrune, hstopped, hfit', hheld'⟩
  · intro c c₁ c' done x e hc hfair hspares hstatus hphase h hphase₁
    obtain ⟨later, hfound⟩ := h.found
    obtain ⟨c₂, hdone, hfailed⟩ := h.failed
    have hself : c.Attends c := ⟨hc.isOpen, rfl, rfl, rfl, .refl _, rfl, by rw [hstatus]; nofun,
      by rw [hstatus]; exact hphase⟩
    have hattends := R.keeps_targets (Client.keeps_query hc hfair) uris (needs verb) c hself
    rw [hfound] at hattends
    have hstatus₁ := hattends.inTransaction hphase₁
    obtain ⟨⟨hattends', hstatus'⟩, hstopped⟩ :=
      stopped_of_failed (Client.isolates hc hfair hspares) ⟨hattends, hstatus₁⟩ (htexts h) hdone hfailed
    have htracks := hattends'.tracks
    rw [hstatus'] at htracks
    exact ⟨h.result_runAndPrune, hstopped, hstatus', htracks⟩

/-! ## A trigger that is locked -/

def lockTimeout : Refusal := ⟨"55P03", "canceling statement due to lock timeout", none⟩

/-- The rules of a database where the trigger `title_thawed` cannot be dropped. -/
def locked : Rules where
  refusal? _ _ s :=
    if s = dropping Entry.titleThawed.pgid Entry.titleThawed.table then some lockTimeout else none

/-- A plain connection to it. -/
def lockedOutside : Direct Database where
  wire := { server := { rules := locked } }

/-- A client in a transaction of it. -/
def lockedInside : Client Database where
  wire := { server := { rules := locked, phase := .inTransaction } }
  session := { status := .inTransaction }

/-- Both triggers by their URIs. -/
def bothTitles : List String := ["library.Book:title_frozen", "library.Book:title_thawed"]

theorem ordinary_uninstall_titleThawed : ∀ x ∈ titleThawed.registry.entries, ∀ text,
    titleThawed.text .uninstall x = .ok text → Ordinary text := by
  rw [entries_titleThawed]
  simp only [List.mem_cons, List.not_mem_nil, or_false]
  rintro x (rfl | rfl) text htext
  all_goals
    obtain rfl := Except.ok.inj htext
    unfold Ordinary
    rw [statements_dropTriggerSql _ (by decide)]
    intro s hs
    rw [List.mem_singleton.1 hs]
    rfl

theorem sparesSavepoints_locked : locked.SparesSavepoints := by
  intro clock work s c hs hc
  refine if_neg ?_
  rintro rfl
  cases hs

theorem composed_lockedInside : lockedInside.Composed where
  isOpen := rfl
  pathClosed _ h := nomatch h
  registered _ h := absurd h List.not_mem_nil

/-- The first trigger is dropped, and the run fails at the second. -/
theorem failsAt_titleThawed {κ : Type} [Channel κ] {k : κ} {e : Error}
    (h : (result (do
      titleThawed.perform .uninstall .titleFrozen
      Act.attempt (titleThawed.perform .uninstall .titleThawed)) k).1 = .ok (.error e)) :
    ∃ k', titleThawed.FailsAt .uninstall bothTitles k k [.titleFrozen] .titleThawed e k' := by
  generalize hboth : result (do
    titleThawed.perform .uninstall .titleFrozen
    Act.attempt (titleThawed.perform .uninstall .titleThawed)) k = both at h
  obtain ⟨_, k'⟩ := both
  obtain rfl := h
  obtain ⟨u, k₁, hfrozen, hattempt⟩ := Act.exists_ok_of_result_bind hboth
  generalize hthawed : result (titleThawed.perform .uninstall .titleThawed) k₁ = came
  obtain ⟨came, k₂⟩ := came
  rw [Act.result_attempt hthawed] at hattempt
  obtain ⟨hcame, rfl⟩ := Prod.mk.inj hattempt
  obtain rfl := Except.ok.inj hcame
  exact ⟨k₂, ⟨[], rfl⟩, k₁, Act.result_bind_ok hfrozen _, hthawed⟩

/-- The second of two triggers is locked: the first is dropped for good, outside a transaction and inside. -/
theorem failure_isolated_titleThawed :
    (∃ c', result (titleThawed.uninstall bothTitles) lockedOutside = (.error (.query (.refused lockTimeout)), c') ∧
      ∃ ds last, titleThawed.Stopped .uninstall .plain lockedOutside.toLine [.titleFrozen] .titleThawed
        (.query (.refused lockTimeout)) ds last c'.toLine) ∧
    ∃ c', result (titleThawed.uninstall bothTitles) lockedInside = (.error (.query (.refused lockTimeout)), c') ∧
      (∃ ds last, titleThawed.Stopped .uninstall lockedInside.passing lockedInside.line [.titleFrozen]
        .titleThawed (.query (.refused lockTimeout)) ds last c'.line) ∧
      c'.session.status = .inTransaction := by
  obtain ⟨houtside, hinside⟩ :=
    failure_isolated titleThawed .uninstall bothTitles ordinary_uninstall_titleThawed
  constructor
  · obtain ⟨c', hfails⟩ := failsAt_titleThawed (k := lockedOutside)
      (e := .query (.refused lockTimeout)) (by decide +kernel)
    obtain ⟨hresult, hstopped, -⟩ := houtside _ _ _ _ _ _ ⟨rfl, rfl⟩ rfl hfails
    exact ⟨c', hresult _, hstopped⟩
  · obtain ⟨c', hfails⟩ := failsAt_titleThawed (k := lockedInside)
      (e := .query (.refused lockTimeout)) (by decide +kernel)
    obtain ⟨hresult, hstopped, hstatus, -⟩ := hinside _ _ _ _ _ _ composed_lockedInside
      (Client.fair_of_hookless rfl) sparesSavepoints_locked rfl rfl hfails rfl
    exact ⟨c', hresult _, hstopped, hstatus⟩

end Reconciler

end DeclaredTriggers
