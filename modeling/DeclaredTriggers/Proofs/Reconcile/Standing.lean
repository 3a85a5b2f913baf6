import DeclaredTriggers.Proofs.Database.Willing
import DeclaredTriggers.Reconcile.Basic

/-!
# How entries stand

How an entry stands is told from one row of the catalog: whether it is there, whether its comment is the hash
that the entry would leave, and whether the trigger is enabled (`Entry.standing`). Asking about an entry
changes nothing, so the targets of a bulk run are those that the catalog in front of it makes due:

> `changes_targets`: the targets of a run are the entries that are due, unless how one of them stands cannot
> be told.
-/

namespace DeclaredTriggers

open Act (result)
open Channel

/-- How an entry stands by the row of its trigger in the catalog. -/
def Entry.standing (x : Entry) (s : Settings) : Option TriggerRow → Except Error Status
  | none => .ok { state := .uninstalled }
  | some row => (x.trigger.hash x.entity s).map fun hash =>
    { state := if row.comment = some hash then .installed else .outdated, enabled := some row.enabled }

variable {d : Dialect} {m : Catalog} {c : Direct Database}

/-- What the catalog says about an entry's trigger. -/
theorem changes_catalogEntry? (h : d.Serves m c) (x : Entry) (htable : '"' ∉ x.table.toList) :
    ∃ c', (result <| catalogEntry? x.table x.pgid) c =
        (.ok (((c.catalog m).lookup x.key).map fun row => (row.comment, row.enabled)), c') ∧
      c.Changes m [] c' := by
  obtain ⟨c', hquery, hchanges⟩ := changes_status h x.pgid htable
  refine ⟨c', ?_, hchanges⟩
  have hfirst : result (queryFirst statusSql [x.pgid, Sql.quote x.table]) c =
      (.ok ((((c.catalog m).lookup x.key).map fun row => [row.comment, some row.mode])), c') := by
    unfold queryFirst
    rw [Act.result_bind_ok hquery]
    show (Except.ok (List.head? (List.map _ ((c.catalog m).lookup x.key).toList)), c') = _
    cases (c.catalog m).lookup x.key <;> rfl
  unfold catalogEntry?
  rw [Act.result_bind_ok (Act.result_attempt hfirst)]
  cases (c.catalog m).lookup x.key with
  | none => rfl
  | some row =>
    show (Except.ok (some (row.comment, isEnabledMode row.mode)), c') = _
    rw [row.isEnabledMode_mode]
    rfl

/-- How an entry stands is what its row says. -/
theorem changes_statusOf (h : d.Serves m c) (x : Entry) (s : Settings) (htable : '"' ∉ x.table.toList) :
    ∃ c', result (statusOf x.entity x.trigger s) c = (x.standing s ((c.catalog m).lookup x.key), c') ∧
      c.Changes m [] c' := by
  obtain ⟨c', hentry, hchanges⟩ := changes_catalogEntry? h x htable
  refine ⟨c', ?_, hchanges⟩
  have hpgid : result (liftM (x.trigger.pgid x.entity) : Act (Direct Database) String) c = (.ok x.pgid, c) := by
    rw [Act.result_lift, x.pgid_eq]
  unfold statusOf
  rw [Act.result_bind_ok hpgid, show x.entity.table = x.table from rfl, Act.result_bind_ok hentry]
  cases (c.catalog m).lookup x.key with
  | none => rfl
  | some row =>
    show result (do let hash ← x.trigger.hash x.entity s; _) c' = _
    rw [Act.result_bind, Act.result_lift]
    unfold Entry.standing
    cases x.trigger.hash x.entity s <;> rfl

namespace Reconciler

variable (R : Reconciler)

/-- The entries that live in the database. -/
def residents : List Entry := R.registry.entries.filter fun x => x.database R.router = R.database

/-- The entries that live in the database and may be installed there. -/
def living : List Entry := R.residents.filter R.allows

theorem mem_entries_of_living {x : Entry} (h : x ∈ R.living) : x ∈ R.registry.entries :=
  (List.mem_filter.1 (List.mem_filter.1 h).1).1

theorem allows_of_living {x : Entry} (h : x ∈ R.living) : R.allows x := (List.mem_filter.1 h).2

theorem entries_eq : R.entries [] = .ok R.residents := by
  unfold entries Registry.select residents
  show Except.ok (R.registry.entries.filter _) = _
  congr 2
  funext x
  simp only [List.isEmpty_cons, Bool.false_or, List.contains_cons, List.contains_nil, Bool.or_false]
  exact beq_eq_decide _ _

/-- Whether a verb has something to do about an entry where the catalog is this. -/
def isDue (verb : Verb) (M : Catalog) (x : Entry) : Bool :=
  match x.standing R.settings (M.lookup x.key) with
  | .ok st => needs verb st
  | .error _ => false

theorem changes_status_of_allowed (h : d.Serves m c) {x : Entry} (hallows : R.allows x)
    (htable : '"' ∉ x.table.toList) :
    ∃ c', result (R.status x) c = (x.standing R.settings ((c.catalog m).lookup x.key), c') ∧
      c.Changes m [] c' := by
  unfold status
  rw [if_pos hallows]
  exact changes_statusOf h x R.settings htable

/-- Whether a bulk run acts on an entry. -/
theorem changes_isTarget (h : d.Serves m c) (verb : Verb) {x : Entry} (htable : '"' ∉ x.table.toList) :
    ∃ c', c.Changes m [] c' ∧
      (result (R.isTarget true (needs verb) x) c =
          (.ok (R.allows x && R.isDue verb (c.catalog m) x), c') ∧
        (R.allows x → ∃ st, x.standing R.settings ((c.catalog m).lookup x.key) = .ok st) ∨
      ∃ e, result (R.isTarget true (needs verb) x) c = (.error e, c') ∧ R.allows x ∧
        x.standing R.settings ((c.catalog m).lookup x.key) = .error e) := by
  unfold isTarget
  cases hallows : R.allows x with
  | false => exact ⟨c, .refl c m, .inl ⟨rfl, nofun⟩⟩
  | true =>
    obtain ⟨c', hstatus, hchanges⟩ := R.changes_status_of_allowed h hallows htable
    refine ⟨c', hchanges, ?_⟩
    show (result (do let status ← R.status x; pure (needs verb status)) c = _ ∧ _) ∨
      ∃ e, result (do let status ← R.status x; pure (needs verb status)) c = _ ∧ _
    unfold isDue
    cases hstanding : x.standing R.settings ((c.catalog m).lookup x.key) with
    | ok st =>
      rw [hstanding] at hstatus
      exact .inl ⟨Act.result_bind_ok hstatus _, fun _ => ⟨st, rfl⟩⟩
    | error e =>
      rw [hstanding] at hstatus
      exact .inr ⟨e, Act.result_bind_error hstatus _, rfl, rfl⟩

/-- The search for targets among some entries finds those that are due, unless how one of them stands cannot
be told. -/
theorem changes_filterAuxM (verb : Verb) {xs : List Entry} (acc : List Entry) (h : d.Serves m c)
    (htables : ∀ x ∈ xs, '"' ∉ x.table.toList) :
    ∃ c', c.Changes m [] c' ∧
      (result (xs.filterAuxM (R.isTarget true (needs verb)) acc) c =
          (.ok ((xs.filter fun x => R.allows x && R.isDue verb (c.catalog m) x).reverse ++ acc), c') ∧
        (∀ x ∈ xs, R.allows x → ∃ st, x.standing R.settings ((c.catalog m).lookup x.key) = .ok st) ∨
      ∃ e, result (xs.filterAuxM (R.isTarget true (needs verb)) acc) c = (.error e, c') ∧
        ∃ x ∈ xs, R.allows x ∧ x.standing R.settings ((c.catalog m).lookup x.key) = .error e) := by
  induction xs generalizing acc c with
  | nil => exact ⟨c, .refl c m, .inl ⟨rfl, fun _ hx => absurd hx List.not_mem_nil⟩⟩
  | cons x xs ih =>
    have hunfold : (x :: xs).filterAuxM (R.isTarget (κ := Direct Database) true (needs verb)) acc =
        R.isTarget true (needs verb) x >>= fun b =>
          xs.filterAuxM (R.isTarget true (needs verb)) (cond b (x :: acc) acc) := rfl
    rw [hunfold]
    obtain ⟨c₁, hchanges₁, hone⟩ := R.changes_isTarget h verb (htables x List.mem_cons_self)
    rcases hone with ⟨hresult, hstanding⟩ | ⟨e, hresult, hallows, hstanding⟩
    · obtain ⟨c', hchanges, hrest⟩ := ih
        (cond (R.allows x && R.isDue verb (c.catalog m) x) (x :: acc) acc)
        (hchanges₁.serves h) (fun y hy => htables y (List.mem_cons_of_mem _ hy))
      rw [Act.result_bind_ok hresult]
      rw [hchanges₁.catalog_eq] at hrest
      refine ⟨c', hchanges₁.nothing_trans hchanges, ?_⟩
      rcases hrest with ⟨hresult, hall⟩ | ⟨e, hresult, y, hy, herror⟩
      · refine .inl ⟨?_, fun y hy => ?_⟩
        · rw [hresult, List.filter_cons]
          cases R.allows x && R.isDue verb (c.catalog m) x <;> simp
        · rcases List.mem_cons.1 hy with rfl | hy
          · exact hstanding
          · exact hall y hy
      · exact .inr ⟨e, hresult, y, List.mem_cons_of_mem _ hy, herror⟩
    · rw [Act.result_bind_error hresult]
      exact ⟨c₁, hchanges₁, .inr ⟨e, rfl, x, List.mem_cons_self, hallows, hstanding⟩⟩

/-- The targets of a bulk run are the entries that are due, unless how one of them stands cannot be told. -/
theorem changes_targets (verb : Verb) (h : d.Serves m c)
    (htables : ∀ x ∈ R.registry.entries, '"' ∉ x.table.toList) :
    ∃ c', c.Changes m [] c' ∧
      (result (R.targets [] (needs verb)) c = (.ok (R.living.filter (R.isDue verb (c.catalog m))), c') ∧
        (∀ x ∈ R.living, ∃ st, x.standing R.settings ((c.catalog m).lookup x.key) = .ok st) ∨
      ∃ e, result (R.targets [] (needs verb)) c = (.error e, c') ∧
        ∃ x ∈ R.living, x.standing R.settings ((c.catalog m).lookup x.key) = .error e) := by
  have hresidents : ∀ x ∈ R.residents, '"' ∉ x.table.toList :=
    fun x hx => htables x (List.mem_filter.1 hx).1
  obtain ⟨c', hchanges, hall⟩ := R.changes_filterAuxM verb [] h hresidents
  have htargets : result (R.targets [] (needs verb)) c = result (do
      let found ← R.residents.filterAuxM (R.isTarget true (needs verb)) []
      pure found.reverse) c := by
    unfold targets
    rw [Act.result_bind_ok ((Act.result_lift _ c).trans (by rw [R.entries_eq]))]
    rfl
  rw [htargets]
  refine ⟨c', hchanges, ?_⟩
  rcases hall with ⟨hresult, hstanding⟩ | ⟨e, hresult, x, hx, hallows, hstanding⟩
  · have hfilter : R.living.filter (R.isDue verb (c.catalog m)) =
        R.residents.filter fun x => R.allows x && R.isDue verb (c.catalog m) x := by
      unfold living
      rw [List.filter_filter]
      congr 1
      funext x
      exact Bool.and_comm _ _
    refine .inl ⟨?_, fun x hx => hstanding x (List.mem_filter.1 hx).1 (List.mem_filter.1 hx).2⟩
    rw [Act.result_bind_ok hresult, List.append_nil, List.reverse_reverse, hfilter]
    rfl
  · exact .inr ⟨e, Act.result_bind_error hresult _, x, List.mem_filter.2 ⟨hx, hallows⟩, hstanding⟩

end Reconciler

end DeclaredTriggers
