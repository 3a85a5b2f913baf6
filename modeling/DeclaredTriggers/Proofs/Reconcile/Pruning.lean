import DeclaredTriggers.Proofs.Database.Willing
import DeclaredTriggers.Proofs.Keyed
import DeclaredTriggers.Reconcile.Basic

/-!
# Pruning

Pruning drops the managed triggers that no entry of the registry accounts for, and nothing else. An entry
accounts for a trigger by its table and identifier, whichever way the database prints the table's name.

> `Registry.mem_installedPairs`: the pairs that are compared with are those of the entries.
>
> `changes_prune`: what is dropped, and that no other row changes.
-/

namespace DeclaredTriggers

open Act (result)
open Channel

/-! ## What the entries account for -/

namespace Registry

variable {r : Registry}

/-- The names under a key. -/
def namesAt (m : Keyed Names) (table : String) : Names := (m.find? table).getD Keyed.empty

theorem mem_namesAt_update {m : Keyed Names} {table table' pgid pgid' : String} :
    pgid' ∈ (namesAt (m.update table Keyed.empty (Names.add · pgid)) table').keys ↔
      table = table' ∧ pgid = pgid' ∨ pgid' ∈ (namesAt m table').keys := by
  unfold namesAt Keyed.update
  rw [Keyed.find?_insert]
  by_cases h : table' = table
  · subst h
    rw [if_pos rfl, Option.getD_some]
    unfold Names.add
    rw [Keyed.mem_keys_insert, eq_comm]
    simp
  · rw [if_neg h]
    exact (or_iff_right fun h' => h h'.1.symm).symm

theorem mem_namesAt_foldl {xs : List Entry} {m : Keyed Names} {table pgid : String} :
    pgid ∈ (namesAt (xs.foldl
        (fun m x => m.update (Sql.quote x.table) Keyed.empty (Names.add · x.pgid)) m) table).keys ↔
      (∃ x ∈ xs, Sql.quote x.table = table ∧ x.pgid = pgid) ∨ pgid ∈ (namesAt m table).keys := by
  induction xs generalizing m with
  | nil => simp
  | cons x xs ih =>
    rw [List.foldl_cons, ih, mem_namesAt_update, ← or_assoc]
    simp only [List.mem_cons, exists_eq_or_imp]
    rw [or_comm (a := ∃ x ∈ xs, _)]

/-- The pairs that are compared with are those of the entries. -/
theorem mem_installedPairs {table pgid : String} :
    (table, pgid) ∈ r.installedPairs ↔ ∃ x ∈ r.entries, Sql.quote x.table = table ∧ x.pgid = pgid := by
  have hpairs : ∀ m : Keyed Names, (table, pgid) ∈
      (m.entries.flatMap fun p => p.2.keys.map (p.1, ·)) ↔
        pgid ∈ (namesAt m table).keys := by
    intro m
    rw [List.mem_flatMap]
    constructor
    · rintro ⟨⟨table', pgids⟩, hmem, hpair⟩
      obtain ⟨pgid', hpgid, heq⟩ := List.mem_map.1 hpair
      obtain ⟨rfl, rfl⟩ := Prod.mk.inj heq
      unfold namesAt
      rwa [Keyed.mem_entries_iff.1 hmem]
    · intro hmem
      unfold namesAt at hmem
      cases hfind : m.find? table with
      | none =>
        rw [hfind] at hmem
        exact absurd hmem List.not_mem_nil
      | some pgids =>
        rw [hfind] at hmem
        exact ⟨(table, pgids), Keyed.mem_entries_iff.2 hfind, List.mem_map.2 ⟨pgid, hmem, rfl⟩⟩
  refine (hpairs _).trans ?_
  rw [mem_namesAt_foldl]
  exact or_iff_left List.not_mem_nil

/-- A managed trigger that no entry accounts for. -/
def Unaccounted (r : Registry) (k : TriggerKey) : Prop := isManaged k.2 ∧ ∀ x ∈ r.entries, x.key ≠ k

/-- Whether an entry accounts for a trigger. -/
def accounts (r : Registry) (k : TriggerKey) : Bool := r.entries.any fun x => x.key = k

theorem unaccounted_iff {k : TriggerKey} : r.Unaccounted k ↔ isManaged k.2 ∧ r.accounts k = false := by
  simp [Unaccounted, accounts]

end Registry

theorem Sql.quoteName_inj {a b : String} (h : Sql.quoteName a = Sql.quoteName b) : a = b := by
  have ha := (Sql.spells_quoteName a).tokens
  rw [h, (Sql.spells_quoteName b).tokens] at ha
  injection ha with hname
  injection hname with hlist
  exact (String.toList_injective hlist).symm

/-- A row is compared with the entries as what it is, whichever way its relation is printed. -/
theorem Registry.contains_installedPairs {r : Registry} (d : Dialect)
    (htables : ∀ x ∈ r.entries, '"' ∉ x.table.toList) (k : TriggerKey) :
    r.installedPairs.contains (Sql.quote (d.printed k.1), k.2) = r.accounts k := by
  rw [Bool.eq_iff_iff, List.contains_iff_mem, d.quote_printed, mem_installedPairs, accounts, List.any_eq_true]
  refine exists_congr fun x => and_congr_right fun hx => ?_
  rw [Sql.quote_of_plain (htables x hx), decide_eq_true_eq]
  exact ⟨fun ⟨htable, hpgid⟩ => Prod.ext (Sql.quoteName_inj htable) hpgid,
    fun hkey => hkey ▸ ⟨rfl, rfl⟩⟩

/-! ## Dropping what nobody accounts for -/

/-- A row as a candidate for pruning. -/
def Dialect.candidate (d : Dialect) (e : TriggerKey × TriggerRow) : PruneCandidate :=
  ⟨d.printed e.1.1, e.1.2, e.2.enabled⟩

/-- The text that drops a candidate. -/
def Dialect.pruning (d : Dialect) (k : TriggerKey) : String := dropTriggerSql k.2 (d.printed k.1)

variable {d : Dialect} {m : Catalog} {c : Direct Database} {r : Registry}

theorem candidateOf_managedRow (e : TriggerKey × TriggerRow) :
    candidateOf (d.managedRow e) = .ok (d.candidate e) := by
  show Except.ok (⟨d.printed e.1.1, e.1.2, isEnabledMode e.2.mode⟩ : PruneCandidate) = _
  rw [e.2.isEnabledMode_mode]
  rfl

/-- The candidates are the managed triggers that no entry accounts for. -/
theorem changes_prunable (h : d.Serves m c) (htables : ∀ x ∈ r.entries, '"' ∉ x.table.toList) :
    ∃ (es : List (TriggerKey × TriggerRow)) (c' : Direct Database),
      result (prunable r) c = (.ok (es.map d.candidate), c') ∧ c.Changes m [] c' ∧
      ∀ k, k ∈ es.map (·.1) ↔ (∃ row, (c.catalog m).lookup k = some row) ∧ r.Unaccounted k := by
  obtain ⟨c', hquery, hchanges⟩ := changes_managed h
  refine ⟨(d.managed (c.catalog m)).filter (!r.accounts ·.1), c', ?_, hchanges, fun k => ?_⟩
  · have hrows : ((d.managed (c.catalog m)).map d.managedRow).mapM candidateOf =
        .ok ((d.managed (c.catalog m)).map d.candidate) := by
      induction d.managed (c.catalog m) with
      | nil => rfl
      | cons e es ih =>
        rw [List.map_cons, List.mapM_cons, candidateOf_managedRow, ih]
        rfl
    unfold prunable
    rw [Act.result_bind_ok hquery, Act.result_bind_ok ((Act.result_lift _ _).trans (by rw [hrows]))]
    show (Except.ok _, c') = _
    rw [List.filter_map]
    congr 3
    refine List.filter_congr fun e _ => ?_
    show (!r.installedPairs.contains (Sql.quote (d.printed e.1.1), e.1.2)) = _
    rw [Registry.contains_installedPairs d htables]
  · rw [List.mem_map, Registry.unaccounted_iff]
    constructor
    · rintro ⟨⟨k, row⟩, hmem, rfl⟩
      obtain ⟨hmanaged, haccounts⟩ := List.mem_filter.1 hmem
      obtain ⟨hlookup, hname⟩ := d.mem_managed.1 hmanaged
      exact ⟨⟨row, hlookup⟩, hname, by simpa using haccounts⟩
    · rintro ⟨⟨row, hlookup⟩, hname, haccounts⟩
      exact ⟨(k, row), List.mem_filter.2 ⟨d.mem_managed.2 ⟨hlookup, hname⟩, by simp [haccounts]⟩, rfl⟩

theorem ne_empty_of_isManaged {trigger : String} (h : isManaged trigger) : trigger ≠ "" := by
  rintro rfl
  revert h
  decide

theorem statements_pruning (k : TriggerKey) :
    Sql.statements (d.pruning k).toList = [dropping k.2 k.1] :=
  (announces_dropTriggerSql _ (d.quote_printed k.1)).statements_eq

theorem changing_pruning (k : TriggerKey) : Changing (d.pruning k) where
  ordinary := by
    unfold Ordinary
    rw [statements_pruning]
    intro s hs
    obtain rfl := List.mem_singleton.1 hs
    rfl
  nonempty := by
    rw [statements_pruning]
    exact List.cons_ne_nil _ _

/-- Candidates are dropped, one after the other. -/
theorem changes_dropCandidates (R : Reconciler) (es : List (TriggerKey × TriggerRow))
    (h : d.Serves m c) : ∃ c', result ((es.map d.candidate).forM R.dropCandidate) c = (.ok (), c') ∧
      c.Changes m ((es.map (·.1)).map d.pruning) c' := by
  induction es generalizing c with
  | nil => exact ⟨c, rfl, .refl c m⟩
  | cons e es ih =>
    obtain ⟨c₁, hnoted, hchanges₁⟩ := Direct.Changes.noted c m
      (.pruning e.1.2 (d.printed e.1.1) R.database)
    obtain ⟨c₂, hdropped, hchanges₂⟩ := changes_isolated (hchanges₁.serves h) (changing_pruning (d := d) e.1)
    have hone := hchanges₁.nothing_trans hchanges₂
    obtain ⟨c', hrest, hchanges'⟩ := ih (hone.serves h)
    have hfirst : result (R.dropCandidate (d.candidate e)) c = (.ok (), c₂) := by
      unfold Reconciler.dropCandidate
      exact (Act.result_bind_ok hnoted _).trans hdropped
    refine ⟨c', (Act.result_bind_ok hfirst _).trans hrest, ?_⟩
    exact hone.trans hchanges'

/-- Where some triggers are dropped, they are gone, and nothing else is. -/
theorem lookup_after_pruning (M : Catalog) {ks : List TriggerKey} (hks : ∀ k ∈ ks, k.2 ≠ "")
    (k : TriggerKey) :
    (M.after (workOf (ks.map d.pruning))).lookup k = if k ∈ ks then none else M.lookup k := by
  induction ks generalizing M with
  | nil => rfl
  | cons k' ks ih =>
    have hone : M.after (workOf ((k' :: ks).map d.pruning)) =
        (M.next (dropping k'.2 k'.1)).after (workOf (ks.map d.pruning)) := by
      unfold workOf
      rw [List.map_cons, List.flatMap_cons, statements_pruning]
      rfl
    rw [hone, ih _ fun k hk => hks k (List.mem_cons_of_mem _ hk),
      M.lookup_next k (TriggerChange.of?_dropping (hks k' List.mem_cons_self) k'.1)]
    by_cases hk : k = k'
    · simp [hk, Deed.apply]
    · simp [hk]

/-- Pruning drops the managed triggers that no entry accounts for, and nothing else. -/
theorem changes_prune (R : Reconciler) (h : d.Serves m c)
    (htables : ∀ x ∈ R.registry.entries, '"' ∉ x.table.toList) :
    ∃ candidates texts c', result R.prune c = (.ok candidates, c') ∧ c.Changes m texts c' ∧
      (∀ text ∈ texts, ∃ k row, (c.catalog m).lookup k = some row ∧ R.registry.Unaccounted k ∧
        text = d.pruning k) ∧
      (∀ k, R.registry.Unaccounted k → (c'.catalog m).lookup k = none) ∧
      ∀ k, ¬ R.registry.Unaccounted k → (c'.catalog m).lookup k = (c.catalog m).lookup k := by
  obtain ⟨es, c₁, hprunable, hchanges₁, hes⟩ := changes_prunable (r := R.registry) h htables
  obtain ⟨c', hdropped, hchanges'⟩ := changes_dropCandidates R es (hchanges₁.serves h)
  have hall := hchanges₁.nothing_trans hchanges'
  have hlookup := fun k => lookup_after_pruning (d := d) (c.catalog m)
    (fun k hk => ne_empty_of_isManaged ((hes k).1 hk).2.1) k
  refine ⟨es.map d.candidate, _, c', ?_, hall, ?_, fun k hk => ?_, fun k hk => ?_⟩
  · unfold Reconciler.prune
    rw [Act.result_bind_ok hprunable, Act.result_bind_ok hdropped]
    rfl
  · intro text htext
    obtain ⟨k, hk, rfl⟩ := List.mem_map.1 htext
    obtain ⟨⟨row, hrow⟩, hunaccounted⟩ := (hes k).1 hk
    exact ⟨k, row, hrow, hunaccounted, rfl⟩
  · rw [hall.catalog, hlookup]
    split
    next => rfl
    next hnot =>
      -- it was not there to begin with
      cases hrow : (c.catalog m).lookup k with
      | none => rfl
      | some row => exact absurd ((hes k).2 ⟨⟨row, hrow⟩, hk⟩) hnot
  · rw [hall.catalog, hlookup, if_neg fun hmem => hk ((hes k).1 hmem).2]

end DeclaredTriggers
