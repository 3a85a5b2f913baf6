import DeclaredTriggers.Proofs.Reconcile.Pruning
import DeclaredTriggers.Proofs.Reconcile.Standing
import DeclaredTriggers.Proofs.Reconcile.Untouched

/-!
# Bulk runs

A bulk run does one verb to every entry of its database that needs it, and then prunes. Each entry's text
changes the row of its own trigger and no other, as long as every entry has an identifier of its own and what
is installed stays in its place in the script (`Reconciler.Plain`). Then the rows behind the run are what the
verb makes of those in front of it, entry by entry (`Plain.changes_performAll`):

> `Reconciler.bulk_converges`: a run that succeeds leaves every entry as the verb wants it, with pruning it
> leaves no trigger that no entry accounts for, and a second run does nothing.
>
> `Reconciler.bulk_undoes_titleFrozen`: an entry whose body leaves its function can undo another entry.
-/

namespace DeclaredTriggers

open Act (result)
open Channel

namespace Reconciler

variable (R : Reconciler) {d : Dialect} {m : Catalog} {c c' : Direct Database}

/-- What does a verb to all entries of the database that need it. -/
def bulk {κ : Type} [Channel κ] : Verb → Act κ Unit
  | .install => R.install []
  | .uninstall => R.uninstall []
  | .enable => R.enable []
  | .disable => R.disable []

/-- Whether such a run prunes. -/
def prunes : Verb → Bool
  | .install | .uninstall => R.settings.pruneOnInstall
  | .enable | .disable => false

/-- The text by which a verb is done to an entry. -/
def text : Verb → Entry → Except Error String
  | .install, x => x.trigger.installSql x.entity R.settings
  | .uninstall, x => .ok (dropTriggerSql x.pgid x.table)
  | .enable, x => .ok (enableTriggerSql x.pgid x.table)
  | .disable, x => .ok (disableTriggerSql x.pgid x.table)

/-- What becomes of the row of an entry's trigger. -/
def outcome : Verb → Entry → Option TriggerRow → Option TriggerRow
  | .install, x, _ => some ⟨(x.trigger.hash x.entity R.settings).toOption, true⟩
  | .uninstall, _, _ => none
  | .enable, _, row => row.map ({ · with enabled := true })
  | .disable, _, row => row.map ({ · with enabled := false })

/-- Each entry has an identifier of its own and a plain table name, and what is installed keeps to its
places. -/
structure Plain (verb : Verb) : Prop where
  distinct : (R.registry.entries.map (·.pgid)).Nodup
  tables : ∀ x ∈ R.registry.entries, '"' ∉ x.table.toList
  contained : verb = .install → ∀ x ∈ R.living, x.Contained R.settings

variable {R} {verb : Verb}

theorem result_bulk (c : Direct Database) :
    result (R.bulk verb) c = result (R.runAndPrune verb [] (R.prunes verb)) c := by
  cases verb with
  | install | uninstall => rfl
  | enable | disable =>
    show result (R.run _ []) c = result (do R.run _ []; pure ()) c
    rw [Act.result_bind]
    rcases result (R.run _ []) c with ⟨_ | ⟨⟩, c'⟩ <;> rfl

theorem result_perform {κ : Type} [Channel κ] (x : Entry) (k : κ) : result (R.perform verb x) k = result (do
    notify (.reconciling verb x.uri x.trigger.name x.table R.database)
    let text ← R.text verb x
    runIsolated text) k := by
  have hpgid : ∀ (f : String → Act κ Unit) (k : κ),
      result (do let pgid ← x.trigger.pgid x.entity; f pgid) k = result (f x.pgid) k := fun f k => by
    rw [Act.result_bind_ok ((Act.result_lift _ k).trans (by rw [x.pgid_eq]))]
  unfold perform
  rw [Act.result_bind, Act.result_bind]
  cases verb with
  | install => rfl
  | uninstall =>
    have hsql := x.uninstallSql_eq
    show result (do let sql ← x.trigger.uninstallSql x.entity; runIsolated sql) _ = _
    rw [hsql]
    rfl
  | enable => exact hpgid _ _
  | disable => exact hpgid _ _

/-- What a verb's text does to the catalog. -/
theorem Plain.lookup_after (h : R.Plain verb) {x : Entry} (hx : x ∈ R.living) {text : String}
    (htext : R.text verb x = .ok text) (M : Catalog) (k : TriggerKey) :
    (M.after (Sql.statements text.toList)).lookup k =
      if k = x.key then R.outcome verb x (M.lookup k) else M.lookup k := by
  have htable := h.tables x (R.mem_entries_of_living hx)
  cases verb with
  | install =>
    obtain ⟨hash, hhash, hlookup⟩ := (h.contained rfl x hx).lookup_after htext
    have houtcome : R.outcome .install x (M.lookup k) = some ⟨some hash, true⟩ := by
      show some (TriggerRow.mk (x.trigger.hash x.entity R.settings).toOption true) = _
      rw [hhash]
      rfl
    rw [hlookup, houtcome]
  | uninstall =>
    obtain rfl := Except.ok.inj htext
    exact Catalog.lookup_after_dropping M k x.pgid_ne_empty htable
  | enable =>
    obtain rfl := Except.ok.inj htext
    exact M.lookup_after_enabling k true x.pgid_ne_empty htable
  | disable =>
    obtain rfl := Except.ok.inj htext
    exact M.lookup_after_enabling k false x.pgid_ne_empty htable

/-- The script of a contained entry may change something and controls nothing. -/
theorem changing_of_contained {x : Entry} {s : Settings} (h : x.Contained s) {text : String}
    (htext : x.trigger.installSql x.entity s = .ok text) : Changing text := by
  refine ⟨h.control htext, fun hnone => ?_⟩
  -- a text of no statement would not put the trigger into an empty catalog
  obtain ⟨hash, -, hlookup⟩ := h.lookup_after htext
  have hthere := hlookup ∅ x.key
  rw [hnone, if_pos rfl] at hthere
  cases hthere

/-- A verb's text may change something and controls nothing. -/
theorem Plain.changing (h : R.Plain verb) {x : Entry} (hx : x ∈ R.living) {text : String}
    (htext : R.text verb x = .ok text) : Changing text := by
  have htable := h.tables x (R.mem_entries_of_living hx)
  have hone : ∀ {s : List Char}, Sql.statements text.toList = [s] →
      Sql.Control.ofStatement? s = none → Changing text := by
    intro s hs hcontrol
    refine ⟨fun t ht => ?_, hs ▸ List.cons_ne_nil _ _⟩
    rw [hs] at ht
    obtain rfl := List.mem_singleton.1 ht
    exact hcontrol
  cases verb with
  | install => exact changing_of_contained (h.contained rfl x hx) htext
  | uninstall =>
    obtain rfl := Except.ok.inj htext
    exact hone (statements_dropTriggerSql _ htable) rfl
  | enable =>
    obtain rfl := Except.ok.inj htext
    exact hone (statements_enablingSql true x.pgid_ne_empty htable) rfl
  | disable =>
    obtain rfl := Except.ok.inj htext
    exact hone (statements_enablingSql false x.pgid_ne_empty htable) rfl

/-! ## The entries one after the other -/

/-- A verb is done to an entry whose text can be written. -/
theorem perform_succeeds (hserves : d.Serves m c) {x : Entry} {text : String}
    (htext : R.text verb x = .ok text) (hchanging : Changing text) :
    ∃ c', result (R.perform verb x) c = (.ok (), c') ∧ c.Changes m [text] c' := by
  obtain ⟨c₁, hnoted, hchanges₁⟩ := Direct.Changes.noted c m
    (.reconciling verb x.uri x.trigger.name x.table R.database)
  obtain ⟨c', hdone, hchanges'⟩ := changes_isolated (hchanges₁.serves hserves) hchanging
  refine ⟨c', ?_, hchanges₁.nothing_trans hchanges'⟩
  rw [result_perform, Act.result_bind_ok hnoted,
    Act.result_bind_ok ((Act.result_lift _ c₁).trans (by rw [htext])), hdone]

/-- Only an entry whose text cannot be written is left out. -/
theorem Plain.changes_perform (h : R.Plain verb) (hserves : d.Serves m c) {x : Entry}
    (hx : x ∈ R.living) (hresult : result (R.perform verb x) c = (.ok (), c')) :
    ∃ text, R.text verb x = .ok text ∧ c.Changes m [text] c' := by
  cases htext : R.text verb x with
  | error e =>
    obtain ⟨c₁, hnoted, -⟩ := Direct.Changes.noted c m
      (.reconciling verb x.uri x.trigger.name x.table R.database)
    rw [result_perform, Act.result_bind_ok hnoted, Act.result_bind, Act.result_lift, htext] at hresult
    cases hresult
  | ok text =>
    obtain ⟨c₁, hdone, hchanges⟩ := perform_succeeds hserves htext (h.changing hx htext)
    obtain ⟨-, rfl⟩ := Prod.mk.inj (hdone.symm.trans hresult)
    exact ⟨text, rfl, hchanges⟩

theorem key_inj (hdistinct : (R.registry.entries.map (·.pgid)).Nodup) {x y : Entry}
    (hx : x ∈ R.registry.entries) (hy : y ∈ R.registry.entries) (h : x.key = y.key) : x = y :=
  List.inj_on_of_nodup_map hdistinct hx hy (congrArg Prod.snd h)

/-- A verb is done to some entries: the row of each becomes what the verb makes of it, and no other row
changes. -/
theorem Plain.changes_performAll (h : R.Plain verb) {xs : List Entry} (hserves : d.Serves m c)
    (hxs : ∀ x ∈ xs, x ∈ R.living) (hdistinct : (xs.map (·.key)).Nodup)
    (hresult : result (xs.forM (R.perform verb)) c = (.ok (), c')) :
    ∃ texts, c.Changes m texts c' ∧ (∀ text ∈ texts, ∃ x ∈ xs, R.text verb x = .ok text) ∧
      (∀ x ∈ xs, (∃ text, R.text verb x = .ok text) ∧
        (c'.catalog m).lookup x.key = R.outcome verb x ((c.catalog m).lookup x.key)) ∧
      ∀ k, (∀ x ∈ xs, k ≠ x.key) → (c'.catalog m).lookup k = (c.catalog m).lookup k := by
  induction xs generalizing c with
  | nil =>
    obtain rfl : c = c' := congrArg Prod.snd hresult
    exact ⟨[], .refl c m, by simp, by simp, fun _ _ => rfl⟩
  | cons x xs ih =>
    have hunfold : (x :: xs).forM (R.perform (κ := Direct Database) verb) =
        R.perform verb x >>= fun _ => xs.forM (R.perform verb) := rfl
    rw [hunfold, Act.result_bind] at hresult
    generalize hone : result (R.perform verb x) c = one at hresult
    obtain ⟨e | ⟨⟩, c₁⟩ := one
    · cases hresult
    · have hx := hxs x List.mem_cons_self
      obtain ⟨hnew, hdistinct⟩ := List.nodup_cons.1 hdistinct
      obtain ⟨text, htext, hchanges₁⟩ := h.changes_perform hserves hx hone
      obtain ⟨texts, hchanges, htexts, hrows, hothers⟩ := ih (hchanges₁.serves hserves)
        (fun y hy => hxs y (List.mem_cons_of_mem _ hy)) hdistinct hresult
      have hlookup : ∀ k, (c₁.catalog m).lookup k =
          if k = x.key then R.outcome verb x ((c.catalog m).lookup k) else (c.catalog m).lookup k := by
        intro k
        rw [hchanges₁.catalog]
        unfold workOf
        rw [List.flatMap_singleton]
        exact h.lookup_after hx htext _ k
      have hne : ∀ y ∈ xs, y.key ≠ x.key := fun y hy heq =>
        hnew (List.mem_map.2 ⟨y, hy, heq⟩)
      refine ⟨text :: texts, hchanges₁.trans hchanges, ?_, ?_, fun k hk => ?_⟩
      · intro t ht
        rcases List.mem_cons.1 ht with rfl | ht
        · exact ⟨x, List.mem_cons_self, htext⟩
        · obtain ⟨y, hy, hyt⟩ := htexts t ht
          exact ⟨y, List.mem_cons_of_mem _ hy, hyt⟩
      · intro y hy
        rcases List.mem_cons.1 hy with rfl | hy
        · refine ⟨⟨text, htext⟩, ?_⟩
          rw [hothers _ fun z hz => (hne z hz).symm, hlookup, if_pos rfl]
        · refine ⟨(hrows y hy).1, ?_⟩
          rw [(hrows y hy).2, hlookup, if_neg (hne y hy)]
      · rw [hothers k fun y hy => hk y (List.mem_cons_of_mem _ hy), hlookup,
          if_neg (hk x List.mem_cons_self)]

/-! ## How entries stand afterwards -/

/-- How an entry stands where a verb has nothing left to do about it. -/
def Met : Verb → Status → Prop
  | .install, st => st.state = .installed
  | .uninstall, st => st.state = .uninstalled
  | .enable, st => st.enabled ≠ some false
  | .disable, st => st.enabled ≠ some true

theorem needs_eq_false_iff {verb : Verb} {st : Status} : needs verb st = false ↔ Met verb st := by
  cases verb <;> simp [needs, Met]

/-- Where a verb was done to an entry, it has nothing left to do about it. -/
theorem standing_outcome {x : Entry} {row? : Option TriggerRow} {st : Status} {text : String}
    (hstanding : x.standing R.settings row? = .ok st) (htext : R.text verb x = .ok text) :
    ∃ st', x.standing R.settings (R.outcome verb x row?) = .ok st' ∧ Met verb st' := by
  have hrow : ∀ row enabled, row? = some row → ∃ st', x.standing R.settings
      (row?.map ({ · with enabled })) = .ok st' ∧ st'.enabled = some enabled := by
    rintro row enabled rfl
    unfold Entry.standing at hstanding
    show ∃ st', (x.trigger.hash x.entity R.settings).map _ = .ok st' ∧ _
    cases hhash : x.trigger.hash x.entity R.settings with
    | error e =>
      rw [hhash] at hstanding
      cases hstanding
    | ok hash => exact ⟨_, rfl, rfl⟩
  cases verb with
  | install =>
    obtain ⟨p, hparams, -⟩ := Trigger.exists_installParams htext
    have hhash := (Trigger.compiled_of_installParams hparams).2
    show ∃ st', (x.trigger.hash x.entity R.settings).map _ = .ok st' ∧ _
    rw [hhash]
    exact ⟨_, rfl, if_pos rfl⟩
  | uninstall => exact ⟨_, rfl, rfl⟩
  | enable =>
    cases hrow? : row? with
    | none => exact ⟨_, rfl, nofun⟩
    | some row =>
      obtain ⟨st', hst', henabled⟩ := hrow row true hrow?
      exact ⟨st', hrow? ▸ hst', by simp [Met, henabled]⟩
  | disable =>
    cases hrow? : row? with
    | none => exact ⟨_, rfl, nofun⟩
    | some row =>
      obtain ⟨st', hst', henabled⟩ := hrow row false hrow?
      exact ⟨st', hrow? ▸ hst', by simp [Met, henabled]⟩

/-- All entries of the database stand where a verb has nothing left to do. -/
def Settled (R : Reconciler) (verb : Verb) (M : Catalog) : Prop :=
  ∀ x ∈ R.living, ∃ st, x.standing R.settings (M.lookup x.key) = .ok st ∧ Met verb st

/-- No managed trigger is there that no entry accounts for. -/
def Pruned (R : Reconciler) (M : Catalog) : Prop :=
  ∀ k, R.registry.Unaccounted k → M.lookup k = none

/-! ## Whole runs -/

/-- What a verb is done to in bulk. -/
structure Runs (R : Reconciler) (verb : Verb) (M M' : Catalog) (texts : List String) : Prop where
  sent : ∀ text ∈ texts, ∃ x ∈ R.living, R.isDue verb M x ∧ R.text verb x = .ok text
  rows : ∀ x ∈ R.living, R.isDue verb M x → M'.lookup x.key = R.outcome verb x (M.lookup x.key)
  others : ∀ k, (∀ x ∈ R.living, R.isDue verb M x → k ≠ x.key) → M'.lookup k = M.lookup k
  settled : R.Settled verb M'

theorem Plain.nodup_keys (h : R.Plain verb) {xs : List Entry} (hxs : xs.Sublist R.registry.entries) :
    (xs.map (·.key)).Nodup := by
  have hpgids := h.distinct.sublist (hxs.map (·.pgid))
  refine List.Nodup.of_map Prod.snd ?_
  rwa [List.map_map]

/-- A bulk run before it prunes. -/
theorem Plain.changes_run (h : R.Plain verb) (hserves : d.Serves m c)
    (hresult : result (R.run verb []) c = (.ok (), c')) :
    ∃ texts, c.Changes m texts c' ∧ R.Runs verb (c.catalog m) (c'.catalog m) texts := by
  obtain ⟨c₁, hchanges₁, htargets⟩ := R.changes_targets verb hserves h.tables
  have hserves₁ := hchanges₁.serves hserves
  unfold run at hresult
  rcases htargets with ⟨htargets, hstanding⟩ | ⟨e, htargets, -⟩
  · rw [Act.result_bind_ok htargets] at hresult
    have hliving : ∀ x ∈ R.living.filter (R.isDue verb (c.catalog m)), x ∈ R.living :=
      fun x hx => (List.mem_filter.1 hx).1
    have hsub : (R.living.filter (R.isDue verb (c.catalog m))).Sublist R.registry.entries :=
      List.filter_sublist.trans (List.filter_sublist.trans List.filter_sublist)
    obtain ⟨texts, hchanges, hsent, hrows, hothers⟩ :=
      h.changes_performAll hserves₁ hliving (h.nodup_keys hsub) hresult
    rw [hchanges₁.catalog_eq] at hrows hothers
    refine ⟨texts, hchanges₁.nothing_trans hchanges, fun text ht => ?_, fun x hx hdue => ?_,
      fun k hk => ?_, fun x hx => ?_⟩
    · obtain ⟨x, hx, htext⟩ := hsent text ht
      exact ⟨x, hliving x hx, (List.mem_filter.1 hx).2, htext⟩
    · exact (hrows x (List.mem_filter.2 ⟨hx, hdue⟩)).2
    · exact hothers k fun x hx => hk x (hliving x hx) (List.mem_filter.1 hx).2
    · obtain ⟨st, hst⟩ := hstanding x hx
      by_cases hdue : R.isDue verb (c.catalog m) x
      · obtain ⟨⟨text, htext⟩, hrow⟩ := hrows x (List.mem_filter.2 ⟨hx, hdue⟩)
        rw [hrow]
        exact standing_outcome hst htext
      · -- an entry that is not due is left as it is
        have hsame : (c'.catalog m).lookup x.key = (c.catalog m).lookup x.key := by
          refine hothers x.key fun y hy heq => hdue ?_
          obtain ⟨hyl, hyd⟩ := List.mem_filter.1 hy
          rwa [key_inj h.distinct (R.mem_entries_of_living hx) (R.mem_entries_of_living hyl) heq]
        refine ⟨st, hsame ▸ hst, needs_eq_false_iff.1 ?_⟩
        unfold isDue at hdue
        rw [hst] at hdue
        exact Bool.eq_false_iff.2 hdue
  · cases (Act.result_bind_error htargets _).symm.trans hresult

/-- What a bulk run that succeeds has done. -/
structure Reconciled (R : Reconciler) (verb : Verb) (d : Dialect) (m : Catalog)
    (c c' : Direct Database) : Prop where
  /-- For each entry of the database, the verb has nothing left to do. -/
  met : ∀ x ∈ R.living, ∃ st c'', result (R.status x) c' = (.ok st, c'') ∧ Met verb st
  /-- Texts were sent for entries that were due and, with pruning, for triggers that no entry accounts for. -/
  sent : ∀ text ∈ c.changes c',
    (∃ x ∈ R.living, R.isDue verb (c.catalog m) x ∧ R.text verb x = .ok text) ∨
      (R.prunes verb = true ∧ ∃ k row, (c.catalog m).lookup k = some row ∧
        R.registry.Unaccounted k ∧ text = d.pruning k)
  /-- The rows of the entries that were due are what the verb makes of them. -/
  rows : ∀ x ∈ R.living, R.isDue verb (c.catalog m) x →
    (c'.catalog m).lookup x.key = R.outcome verb x ((c.catalog m).lookup x.key)
  /-- With pruning, nothing is left to be pruned. -/
  pruned : R.prunes verb = true → ∃ c'', result (prunable R.registry) c' = (.ok [], c'')
  /-- No other row changed. -/
  others : ∀ k, (∀ x ∈ R.living, R.isDue verb (c.catalog m) x → k ≠ x.key) →
    ¬ (R.prunes verb = true ∧ R.registry.Unaccounted k) →
      (c'.catalog m).lookup k = (c.catalog m).lookup k

theorem not_unaccounted {x : Entry} (hx : x ∈ R.living) : ¬ R.registry.Unaccounted x.key :=
  fun h => h.2 x (R.mem_entries_of_living hx) rfl

/-- A bulk run and what it prunes. -/
theorem Plain.changes_bulk (h : R.Plain verb) (hserves : d.Serves m c)
    (hresult : result (R.bulk verb) c = (.ok (), c')) :
    ∃ texts pruned, c.Changes m (texts ++ pruned) c' ∧
      (∃ M, R.Runs verb (c.catalog m) M texts ∧
        (∀ k, ¬ (R.prunes verb = true ∧ R.registry.Unaccounted k) →
          (c'.catalog m).lookup k = M.lookup k) ∧
        (R.prunes verb = true → R.Pruned (c'.catalog m))) ∧
      ∀ text ∈ pruned, R.prunes verb = true ∧ ∃ k row, (c.catalog m).lookup k = some row ∧
        R.registry.Unaccounted k ∧ text = d.pruning k := by
  rw [result_bulk] at hresult
  unfold runAndPrune at hresult
  rw [Act.result_bind] at hresult
  generalize hrun : result (R.run verb []) c = ran at hresult
  obtain ⟨e | ⟨⟩, c₁⟩ := ran
  · cases hresult
  · obtain ⟨texts, hchanges₁, hruns⟩ := h.changes_run hserves hrun
    cases hprunes : R.prunes verb with
    | false =>
      rw [hprunes] at hresult
      obtain rfl : c₁ = c' := congrArg Prod.snd hresult
      refine ⟨texts, [], by rwa [List.append_nil], ⟨_, hruns, fun _ _ => rfl, nofun⟩, ?_⟩
      exact fun _ ht => absurd ht List.not_mem_nil
    | true =>
      rw [hprunes] at hresult
      obtain ⟨candidates, pruned, c₂, hpruned, hchanges₂, hsent, hgone, hothers⟩ :=
        changes_prune R (hchanges₁.serves hserves) h.tables
      have hend : result (do let _ ← R.prune; pure ()) c₁ = (.ok (), c₂) := Act.result_bind_ok hpruned _
      obtain rfl : c₂ = c' := congrArg Prod.snd (hend.symm.trans hresult)
      refine ⟨texts, pruned, hchanges₁.trans hchanges₂, ⟨_, hruns, fun k hk => ?_, fun _ => hgone⟩,
        fun text ht => ?_⟩
      · exact hothers k fun hun => hk ⟨rfl, hun⟩
      · obtain ⟨k, row, hrow, hun, rfl⟩ := hsent text ht
        refine ⟨rfl, k, row, ?_, hun, rfl⟩
        -- the run left the row as it was, since no entry accounts for it
        rw [← hrow]
        refine (hruns.others k fun x hx _ => ?_).symm
        rintro rfl
        exact not_unaccounted hx hun

/-- A run that has nothing left to do does nothing. -/
theorem Plain.changes_nothing (h : R.Plain verb) (hserves : d.Serves m c)
    (hsettled : R.Settled verb (c.catalog m))
    (hpruned : R.prunes verb = true → R.Pruned (c.catalog m)) :
    ∃ c', result (R.bulk verb) c = (.ok (), c') ∧ c.Changes m [] c' := by
  have hnone : R.living.filter (R.isDue verb (c.catalog m)) = [] := by
    refine List.filter_eq_nil_iff.2 fun x hx => ?_
    obtain ⟨st, hst, hmet⟩ := hsettled x hx
    unfold isDue
    rw [hst]
    simp [needs_eq_false_iff.2 hmet]
  obtain ⟨c₁, hchanges₁, htargets⟩ := R.changes_targets verb hserves h.tables
  have hrun : result (R.run verb []) c = (.ok (), c₁) := by
    rcases htargets with ⟨htargets, -⟩ | ⟨e, -, x, hx, herror⟩
    · rw [hnone] at htargets
      unfold run
      rw [Act.result_bind_ok htargets]
      rfl
    · obtain ⟨st, hst, -⟩ := hsettled x hx
      cases hst.symm.trans herror
  rw [result_bulk]
  unfold runAndPrune
  rw [Act.result_bind_ok hrun]
  cases hprunes : R.prunes verb with
  | false => exact ⟨c₁, rfl, hchanges₁⟩
  | true =>
    obtain ⟨candidates, pruned, c₂, hresult, hchanges₂, hsent, -⟩ :=
      changes_prune R (hchanges₁.serves hserves) h.tables
    have hempty : pruned = [] := by
      refine List.eq_nil_iff_forall_not_mem.2 fun text ht => ?_
      obtain ⟨k, row, hrow, hun, -⟩ := hsent text ht
      rw [hchanges₁.catalog_eq, hpruned hprunes k hun] at hrow
      cases hrow
    rw [hempty] at hchanges₂
    exact ⟨c₂, Act.result_bind_ok hresult _, hchanges₁.nothing_trans hchanges₂⟩

/-- Where every entry of the database compiles, nothing stands in the way of a bulk run. -/
theorem Plain.bulk_succeeds (h : R.Plain verb) (hserves : d.Serves m c)
    (hcompiles : ∀ x ∈ R.living, ∃ p, x.trigger.installParams x.entity R.settings = .ok p) :
    ∃ c', result (R.bulk verb) c = (.ok (), c') := by
  have htexts : ∀ x ∈ R.living, ∃ text, R.text verb x = .ok text := by
    intro x hx
    obtain ⟨p, hp⟩ := hcompiles x hx
    cases verb with
    | install => exact ⟨_, (Trigger.compiled_of_installParams hp).1⟩
    | uninstall | enable | disable => exact ⟨_, rfl⟩
  have hall : ∀ (xs : List Entry) {c : Direct Database}, (∀ x ∈ xs, x ∈ R.living) → d.Serves m c →
      ∃ texts c', result (xs.forM (R.perform verb)) c = (.ok (), c') ∧ c.Changes m texts c' := by
    intro xs
    induction xs with
    | nil => exact fun {c} _ _ => ⟨[], c, rfl, .refl c m⟩
    | cons x xs ih =>
      intro c hxs hserves
      obtain ⟨text, htext⟩ := htexts x (hxs x List.mem_cons_self)
      obtain ⟨c₁, hone, hchanges₁⟩ :=
        perform_succeeds hserves htext (h.changing (hxs x List.mem_cons_self) htext)
      obtain ⟨texts, c', hrest, hchanges'⟩ := ih (fun y hy => hxs y (List.mem_cons_of_mem _ hy))
        (hchanges₁.serves hserves)
      exact ⟨text :: texts, c', (Act.result_bind_ok hone _).trans hrest, hchanges₁.trans hchanges'⟩
  obtain ⟨c₁, hchanges₁, htargets⟩ := R.changes_targets verb hserves h.tables
  rcases htargets with ⟨htargets, -⟩ | ⟨e, -, x, hx, herror⟩
  · obtain ⟨texts, c₂, hperformed, hchanges₂⟩ := hall (R.living.filter (R.isDue verb (c.catalog m)))
      (fun x hx => (List.mem_filter.1 hx).1) (hchanges₁.serves hserves)
    have hrun : result (R.run verb []) c = (.ok (), c₂) := by
      unfold run
      rw [Act.result_bind_ok htargets, hperformed]
    rw [result_bulk]
    unfold runAndPrune
    rw [Act.result_bind_ok hrun]
    cases R.prunes verb with
    | false => exact ⟨c₂, rfl⟩
    | true =>
      obtain ⟨candidates, pruned, c', hpruned, -⟩ :=
        changes_prune R (hchanges₂.serves (hchanges₁.serves hserves)) h.tables
      exact ⟨c', Act.result_bind_ok hpruned _⟩
  · -- how an entry that compiles stands can be told
    obtain ⟨p, hp⟩ := hcompiles x hx
    have hhash := (Trigger.compiled_of_installParams hp).2
    unfold Entry.standing at herror
    cases hrow : (c.catalog m).lookup x.key with
    | none =>
      rw [hrow] at herror
      cases herror
    | some row =>
      rw [hrow, hhash] at herror
      cases herror

/-- A bulk run that succeeds leaves every entry of the database as the verb wants it, and with pruning
nothing that no entry accounts for. It touches nothing else, and the same run behind it sends nothing that
changes anything. -/
theorem bulk_converges (R : Reconciler) (verb : Verb) (d : Dialect) (m : Catalog)
    {c c' : Direct Database} (h : R.Plain verb) (hserves : d.Serves m c)
    (hresult : result (R.bulk verb) c = (.ok (), c')) :
    R.Reconciled verb d m c c' ∧
      ∃ c'', result (R.bulk verb) c' = (.ok (), c'') ∧ c'.changes c'' = [] ∧
        c''.catalog m = c'.catalog m := by
  obtain ⟨texts, pruned, hchanges, ⟨M, hruns, hsame, hgone⟩, hsent⟩ := h.changes_bulk hserves hresult
  have hserves' := hchanges.serves hserves
  have hkept : ∀ x ∈ R.living, (c'.catalog m).lookup x.key = M.lookup x.key :=
    fun x hx => hsame x.key fun hun => not_unaccounted hx hun.2
  have hsettled : R.Settled verb (c'.catalog m) := by
    intro x hx
    obtain ⟨st, hst, hmet⟩ := hruns.settled x hx
    exact ⟨st, by rwa [hkept x hx], hmet⟩
  constructor
  · refine ⟨fun x hx => ?_, fun text ht => ?_, fun x hx hdue => ?_, fun hprunes => ?_, fun k hk hun => ?_⟩
    · obtain ⟨st, hst, hmet⟩ := hsettled x hx
      obtain ⟨c'', hstatus, -⟩ := R.changes_status_of_allowed hserves' (R.allows_of_living hx)
        (h.tables x (R.mem_entries_of_living hx))
      exact ⟨st, c'', hstatus.trans (by rw [hst]), hmet⟩
    · rw [hchanges.changes_eq] at ht
      rcases List.mem_append.1 ht with ht | ht
      · exact .inl (hruns.sent text ht)
      · exact .inr (hsent text ht)
    · rw [hkept x hx, hruns.rows x hx hdue]
    · obtain ⟨es, c'', hprunable, -, hes⟩ := changes_prunable (r := R.registry) hserves' h.tables
      have hempty : es = [] := by
        refine List.eq_nil_iff_forall_not_mem.2 fun e he => ?_
        obtain ⟨⟨row, hrow⟩, hun⟩ := (hes e.1).1 (List.mem_map_of_mem he)
        rw [hgone hprunes e.1 hun] at hrow
        cases hrow
      rw [hempty] at hprunable
      exact ⟨c'', hprunable⟩
    · rw [hsame k hun, hruns.others k hk]
  · obtain ⟨c'', hagain, hnothing⟩ := h.changes_nothing hserves' hsettled hgone
    exact ⟨c'', hagain, hnothing.changes_eq, hnothing.catalog_eq⟩

end Reconciler

/-! ## A trigger that is installed -/

/-- A database that prints small names without quotes. -/
def Dialect.small : Dialect where
  isBare := Sql.isPlainName
  bare_plain name h hquote := by
    have hplain := Sql.plain_character (List.all_eq_true.1 h '"' hquote)
    revert hplain
    decide
  arranged := id
  arranged_perm _ := .refl _

/-- A connection to a database without a trigger. -/
def emptyBookshop : Direct Database where
  wire := { server := { rules := Dialect.small.rules ∅ } }

theorem serves_emptyBookshop : Dialect.small.Serves ∅ emptyBookshop := ⟨⟨rfl, rfl⟩, rfl⟩

namespace Reconciler

/-- What brings a database into line with the trigger on the title. -/
def titleFrozen : Reconciler := { registry := .titleFrozen }

theorem plain_titleFrozen : titleFrozen.Plain .install where
  distinct := List.nodup_singleton _
  tables x hx := by
    obtain rfl := List.mem_singleton.1 hx
    decide
  contained _ x hx := by
    obtain rfl := List.mem_singleton.1 (titleFrozen.mem_entries_of_living hx)
    exact contained_titleFrozen

theorem compiles_titleFrozen : ∃ p, Trigger.titleFrozen.installParams .book {} = .ok p := by
  have hcompiles : (Trigger.titleFrozen.installParams .book {}).toOption.isSome := by decide +kernel
  cases hparams : Trigger.titleFrozen.installParams .book {} with
  | error e =>
    rw [hparams] at hcompiles
    cases hcompiles
  | ok p => exact ⟨p, rfl⟩

/-- The trigger is installed where there was none, and a second run finds nothing to do. -/
theorem bulk_converges_titleFrozen :
    ∃ c' hash, result (titleFrozen.bulk .install) emptyBookshop = (.ok (), c') ∧
      titleFrozen.Reconciled .install .small ∅ emptyBookshop c' ∧
      (c'.catalog ∅).lookup Entry.titleFrozen.key = some ⟨some hash, true⟩ ∧
      ∃ c'', result (titleFrozen.bulk .install) c' = (.ok (), c'') ∧ c'.changes c'' = [] := by
  obtain ⟨p, hp⟩ := compiles_titleFrozen
  have hliving : titleFrozen.living = [.titleFrozen] := rfl
  obtain ⟨c', hresult⟩ := plain_titleFrozen.bulk_succeeds serves_emptyBookshop fun x hx => by
    rw [hliving] at hx
    obtain rfl := List.mem_singleton.1 hx
    exact ⟨p, hp⟩
  obtain ⟨hreconciled, c'', hagain, hnothing, -⟩ :=
    bulk_converges titleFrozen .install .small ∅ plain_titleFrozen serves_emptyBookshop hresult
  refine ⟨c', p.ownHash, hresult, hreconciled, ?_, c'', hagain, hnothing⟩
  have hmem : Entry.titleFrozen ∈ titleFrozen.living := by
    rw [hliving]
    exact List.mem_singleton.2 rfl
  rw [hreconciled.rows _ hmem rfl]
  show some (TriggerRow.mk (Trigger.titleFrozen.hash .book {}).toOption true) = _
  rw [(Trigger.compiled_of_installParams hp).2]
  rfl

end Reconciler

/-! ## A script that undoes another -/

/-- A body that ends its function, drops the trigger on the title and begins a block of its own. -/
def thawing : String :=
  "RETURN NULL;\nEND;\n$$ LANGUAGE plpgsql;\n" ++
    (dropTriggerSql "pgtrigger_title_frozen_ddd05" "book" ++ "\nDO $$ BEGIN NULL;")

/-- A trigger with such a body. -/
def Trigger.titleThawed : Trigger where
  name := "title_thawed"
  level := .row
  moment := .after
  operation := .insert
  condition := none
  tables := none
  declare := []
  timing := none
  kind := .custom thawing
  named := by decide
  sound := by decide +kernel

theorem pgid_titleThawed : Trigger.titleThawed.pgid .book = .ok "pgtrigger_title_thawed_eb704" :=
  eq_ok_of_toOption (by decide +kernel)

def Entry.titleThawed : Entry := ⟨.book, .titleThawed, _, pgid_titleThawed⟩

theorem installParams_titleThawed : ∃ p, Trigger.titleThawed.installParams .book {} = .ok p ∧
    p.func = thawing ∧ (∀ text ∈ p.inTheOpen, Sql.isClosed text.toList) ∧
      Text.occurs ['$', '$'] (p.declare.getD "").toList = false ∧
      Text.occurs ['$', '$'] p.ignoring.toList = false := by
  have hall : (Trigger.titleThawed.installParams .book {}).toOption.any (fun p =>
      decide (p.func = thawing ∧ (∀ text ∈ p.inTheOpen, Sql.isClosed text.toList) ∧
        Text.occurs ['$', '$'] (p.declare.getD "").toList = false ∧
        Text.occurs ['$', '$'] p.ignoring.toList = false)) = true := by decide +kernel
  cases hparams : Trigger.titleThawed.installParams .book {} with
  | error e =>
    rw [hparams] at hall
    cases hall
  | ok p =>
    rw [hparams] at hall
    exact ⟨p, rfl, of_decide_eq_true hall⟩

/-- The body is not contained: it ends the function, and the next statement is the drop. -/
theorem announces_thawing {pgid declare ignoring : String} (hpgid : Sql.isClosed pgid.toList)
    (hdeclare : Text.occurs ['$', '$'] declare.toList = false)
    (hignoring : Text.occurs ['$', '$'] ignoring.toList = false) :
    ∃ r₁ r₂, (∀ c ∈ r₂.head?, Text.isBlank c) ∧
      Sql.Announces (InstallParams.triggerFunctionSql pgid declare ignoring thawing).toList
        ["CREATE OR REPLACE FUNCTION".toList ++ r₁, dropping "pgtrigger_title_frozen_ddd05" "book",
          "DO".toList ++ r₂] := by
  have hdrop := (announces_dropTriggerSql "pgtrigger_title_frozen_ddd05"
    (Sql.quote_of_plain (show '"' ∉ "book".toList by decide))).append
      (Sql.announces_blank (c := '\n') (by decide) (by decide))
  have hbody : thawing.toList = "RETURN NULL;\nEND;\n$$ LANGUAGE plpgsql;\n".toList ++
      ((dropTriggerSql "pgtrigger_title_frozen_ddd05" "book").toList ++ ['\n'] ++
        ("DO ".toList ++ "$$ BEGIN NULL;".toList)) := by
    have hend : "\nDO $$ BEGIN NULL;".toList = '\n' :: ("DO ".toList ++ "$$ BEGIN NULL;".toList) := by
      decide
    unfold thawing
    rw [String.toList_append, String.toList_append, hend, List.append_assoc]
    rfl
  exact InstallParams.announces_triggerFunctionSql_leaving hpgid hdeclare hignoring hbody
    (by decide +kernel) hdrop (by decide)

/-- Behind its script, the trigger on the title is gone. -/
theorem lookup_after_titleThawed : ∃ text, Trigger.titleThawed.installSql .book {} = .ok text ∧
    Changing text ∧
    ∀ M : Catalog, (M.after (Sql.statements text.toList)).lookup Entry.titleFrozen.key = none := by
  obtain ⟨p, hparams, hfunc, hclosed, hdeclare, hignoring⟩ := installParams_titleThawed
  have hfills := Trigger.fills_of_installParams hparams
  have hpgid : p.pgid = "pgtrigger_title_thawed_eb704" :=
    Except.ok.inj (hfills.pgid.symm.trans pgid_titleThawed)
  obtain ⟨s₁, s₂, hs₂, hfunction⟩ :=
    announces_thawing (Sql.isClosed_triggerName p.pgid) hdeclare hignoring
  rw [← hfunc] at hfunction
  have htable : '"' ∉ p.table.toList := by
    rw [hfills.table]
    decide
  obtain ⟨r₁, r₃, hr₃, hstatements⟩ :=
    InstallParams.statements_renderV1_of_function hclosed htable hfunction p.not_mem_ownHash
  have hne : p.pgid ≠ "" := by
    rw [hpgid]
    decide
  have hother : Entry.titleFrozen.key ≠ (p.table, p.pgid) := by
    intro h
    have hsame : Entry.titleFrozen.pgid = p.pgid := congrArg Prod.snd h
    rw [hpgid] at hsame
    exact absurd hsame (by decide)
  have hmoment : Sql.Inert p.moment.toList := by
    rw [hfills.moment]
    exact TriggerChange.inert_moment _
  have hoperation : Sql.Inert p.operation.toList := by
    rw [hfills.operation]
    exact Operation.inert_text _ _ fun _ hc => absurd hc List.not_mem_nil
  refine ⟨_, (Trigger.compiled_of_installParams hparams).1, ⟨?_, ?_⟩, fun M => ?_⟩
  · unfold Ordinary
    rw [hstatements]
    simp only [List.mem_cons, List.mem_append, List.not_mem_nil, or_false]
    rintro t (rfl | (rfl | rfl | rfl) | rfl | rfl | rfl) <;> rfl
  · rw [hstatements]
    exact List.cons_ne_nil _ _
  · have hdo : TriggerChange.of? ("DO".toList ++ s₂) = none := by
      have hword : Sql.Spells "DO".toList [.word "DO".toList] :=
        Sql.spells_word (by decide) (by decide)
      obtain ⟨more, hmore⟩ := hword.tokens_front hs₂
      exact TriggerChange.of?_other hmore (by decide) (by decide) (by decide) (by decide)
    rw [hstatements]
    simp only [List.cons_append, List.nil_append, Catalog.after_cons, Catalog.after_nil]
    rw [Catalog.lookup_next _ _ (TriggerChange.of?_commenting hne p.not_mem_ownHash), if_neg hother,
      Catalog.lookup_next _ _ (TriggerChange.of?_creating hne hfills.constraint hmoment hoperation hr₃),
      if_neg hother, Catalog.lookup_next _ _ (TriggerChange.of?_dropping hne p.table), if_neg hother,
      Catalog.next_of_none _ hdo,
      Catalog.lookup_next _ _ (TriggerChange.of?_dropping (by decide) "book")]
    exact (if_pos rfl).trans rfl

namespace Reconciler

/-- What brings a database into line with both triggers. -/
def titleThawed : Reconciler := { registry := Registry.titleFrozen.put .titleThawed }

theorem entries_titleThawed : titleThawed.registry.entries = [.titleFrozen, .titleThawed] := by
  have hafter : ¬ Entry.titleThawed.uri < Entry.titleFrozen.uri := by decide
  have hbehind : Entry.titleFrozen.uri < Entry.titleThawed.uri := by decide
  show (Keyed.insertEntry Entry.titleThawed.uri Entry.titleThawed
    [(Entry.titleFrozen.uri, Entry.titleFrozen)]).map (·.2) = _
  unfold Keyed.insertEntry
  rw [if_neg hafter, if_pos hbehind]
  rfl

/-- A bulk run that succeeds need not leave every entry of the database installed: the script of one entry
may be such that it undoes another. -/
theorem bulk_undoes_titleFrozen :
    ¬ ∀ (R : Reconciler) (d : Dialect) (m : Catalog) (c c' : Direct Database),
      (R.registry.entries.map (·.pgid)).Nodup → (∀ x ∈ R.registry.entries, '"' ∉ x.table.toList) →
      d.Serves m c → result (R.bulk .install) c = (.ok (), c') →
        ∀ x ∈ R.living, ∃ st c'', result (R.status x) c' = (.ok st, c'') ∧ st.state = .installed := by
  intro h
  have htables : ∀ x ∈ titleThawed.registry.entries, '"' ∉ x.table.toList := by
    rw [entries_titleThawed]
    simp only [List.mem_cons, List.not_mem_nil, or_false]
    rintro x (rfl | rfl) <;> decide
  have hpgids : (titleThawed.registry.entries.map (·.pgid)).Nodup := by
    rw [entries_titleThawed]
    decide
  have hliving : titleThawed.living = [.titleFrozen, .titleThawed] := by
    unfold living residents
    rw [entries_titleThawed]
    rfl
  have hdue : titleThawed.living.filter (titleThawed.isDue .install (emptyBookshop.catalog ∅)) =
      [.titleFrozen, .titleThawed] := by
    rw [hliving]
    rfl
  -- both triggers are due, and both scripts are done
  obtain ⟨p, hp⟩ := compiles_titleFrozen
  have hfrozen : titleThawed.text .install .titleFrozen = .ok _ := (Trigger.compiled_of_installParams hp).1
  obtain ⟨text, hthawed, hchanging, hgone⟩ := lookup_after_titleThawed
  obtain ⟨c₁, hchanges₁, ⟨htargets, -⟩ | ⟨e, -, x, -, herror⟩⟩ :=
    titleThawed.changes_targets .install serves_emptyBookshop htables
  · rw [hdue] at htargets
    have hserves₁ := hchanges₁.serves serves_emptyBookshop
    obtain ⟨c₂, hone, hchanges₂⟩ :=
      perform_succeeds hserves₁ hfrozen (changing_of_contained contained_titleFrozen hfrozen)
    have hserves₂ := hchanges₂.serves hserves₁
    have hthawed' : titleThawed.text .install .titleThawed = .ok text := hthawed
    obtain ⟨c₃, htwo, hchanges₃⟩ := perform_succeeds hserves₂ hthawed' hchanging
    have hserves₃ := hchanges₃.serves hserves₂
    obtain ⟨candidates, texts, c₄, hprune, hchanges₄, -, -, hkept⟩ :=
      changes_prune titleThawed hserves₃ htables
    have hrun : result (titleThawed.run .install []) emptyBookshop = (.ok (), c₃) := by
      unfold run
      rw [Act.result_bind_ok htargets]
      exact (Act.result_bind_ok hone _).trans (Act.result_bind_ok htwo _)
    have hbulk : result (titleThawed.bulk .install) emptyBookshop = (.ok (), c₄) := by
      rw [result_bulk]
      unfold runAndPrune
      rw [Act.result_bind_ok hrun]
      exact Act.result_bind_ok hprune _
    have hmem : Entry.titleFrozen ∈ titleThawed.living := by
      rw [hliving]
      exact List.mem_cons_self
    have hnone : (c₄.catalog ∅).lookup Entry.titleFrozen.key = none := by
      rw [hkept _ (not_unaccounted hmem), hchanges₃.catalog]
      unfold workOf
      rw [List.flatMap_singleton]
      exact hgone _
    obtain ⟨st, c'', hst, hinstalled⟩ :=
      h titleThawed .small ∅ emptyBookshop c₄ hpgids htables serves_emptyBookshop hbulk _ hmem
    obtain ⟨c₅, hstatus, -⟩ := titleThawed.changes_status_of_allowed (hchanges₄.serves hserves₃)
      (titleThawed.allows_of_living hmem) (htables _ (titleThawed.mem_entries_of_living hmem))
    rw [hnone] at hstatus
    obtain rfl : st = { state := .uninstalled } := by
      injection hst.symm.trans hstatus with hok
      exact Except.ok.inj hok
    cases hinstalled
  · -- nothing is in the catalog, so how an entry stands can be told
    cases herror

end Reconciler

end DeclaredTriggers
