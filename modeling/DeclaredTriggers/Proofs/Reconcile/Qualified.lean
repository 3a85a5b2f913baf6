import DeclaredTriggers.Connection.Script
import DeclaredTriggers.Proofs.Database.Namespace
import DeclaredTriggers.Proofs.Reconcile.Pruning
import DeclaredTriggers.Proofs.Reconcile.Untouched

/-!
# Labels that name a schema

The catalog says on which table a trigger is by the text that is printed for it, and only tables that are found
by their name alone are asked about. That text is compared with the label of each entry, both quoted. An entry
whose label names no schema is recognised by that whatever way it is written, and one whose label names the
schema never is: its trigger is taken for one that nobody registered, and is dropped.

> `prunable_spares_iff`: what pruning drops, and that it spares the triggers of all entries exactly if each
> that is asked about belongs to an entry whose label names no schema.
>
> `prunable_takes_qualified`: a bulk install that drops the trigger it has just installed.
-/

namespace DeclaredTriggers

open Act (result)
open Channel

/-- A trigger that is there. -/
structure CatalogTrigger (N : Namespace) where
  table : Table
  there : N.has table
  name : String
  mode : String
  /-- Whether it is that of a partition, which goes with its parent's. -/
  inherited : Bool := false

namespace Namespace

variable {N : Namespace}

/-- Whether a trigger is asked about: a managed one on a table that is printed as one name. -/
def isListed (t : CatalogTrigger N) : Bool :=
  isManaged t.name && !t.inherited &&
    (Sql.Identifier.parse (N.printed t.table)).toOption.any (·.parts.length = 1)

/-- A trigger as a row of the answer. -/
def row (t : CatalogTrigger N) : ResultRow := [some (N.printed t.table), some t.name, some t.mode]

/-- The answer to the question about managed triggers, if some triggers are there. -/
def answer (ts : List (CatalogTrigger N)) : List ResultRow := (ts.filter isListed).map row

/-- A trigger as a candidate for pruning. -/
def candidate (t : CatalogTrigger N) : PruneCandidate :=
  ⟨N.printed t.table, t.name, isEnabledMode t.mode⟩

/-- Only triggers on visible tables are asked about. -/
theorem isVisible_of_isListed {t : CatalogTrigger N} (h : isListed t) : N.IsVisible t.table := by
  unfold isListed at h
  rw [N.parse_printed t.there, Bool.and_eq_true] at h
  by_contra hhidden
  have hparts := h.2
  unfold identifier at hparts
  rw [if_neg hhidden] at hparts
  cases hparts

theorem mapM_candidateOf (ts : List (CatalogTrigger N)) :
    (ts.map row).mapM candidateOf = .ok (ts.map candidate) := by
  induction ts with
  | nil => rfl
  | cons t ts ih =>
    rw [List.map_cons, List.mapM_cons, ih]
    rfl

end Namespace

open Namespace (isListed answer candidate)

variable {N : Namespace}

namespace Entry

/-- The table that the label of an entry names. -/
def table? (N : Namespace) (x : Entry) : Option Table := (TableName.ofLabel? x.table).bind N.resolve

/-- Whether a trigger that is there is an entry's. -/
def owns (x : Entry) (t : CatalogTrigger N) : Bool := x.table? N = some t.table && x.pgid = t.name

/-- Whether the label of an entry names a table by its name alone. -/
def isUnqualified (x : Entry) : Bool := (TableName.ofLabel? x.table).any (·.schema = none)

/-- A label without a schema that names a visible table. -/
theorem quote_table_iff {t : Table} (h : N.IsVisible t) (x : Entry) :
    Sql.quote x.table = Sql.quote (N.printed t) ↔ x.isUnqualified ∧ x.table? N = some t := by
  rw [N.quote_printed_iff h]
  unfold isUnqualified table?
  cases TableName.ofLabel? x.table with
  | none => simp
  | some n => simp

end Entry

/-- Rows are compared with the entries whose labels name no schema. -/
theorem Registry.contains_installedPairs_of_isListed {r : Registry} {t : CatalogTrigger N} (h : isListed t) :
    r.installedPairs.contains (Sql.quote (N.printed t.table), t.name) =
      r.entries.any fun x => x.isUnqualified && x.owns t := by
  rw [Bool.eq_iff_iff, List.contains_iff_mem, mem_installedPairs, List.any_eq_true]
  refine exists_congr fun x => and_congr_right fun _ => ?_
  rw [x.quote_table_iff (Namespace.isVisible_of_isListed h), Bool.and_eq_true, Entry.owns, Bool.and_eq_true,
    decide_eq_true_eq, decide_eq_true_eq, and_assoc]

/-- The triggers that are asked about and belong to no entry whose label names no schema. -/
def Registry.unrecognised (r : Registry) (ts : List (CatalogTrigger N)) : List (CatalogTrigger N) :=
  (ts.filter isListed).filter fun t => !r.entries.any fun x => x.isUnqualified && x.owns t

/-- The triggers that are asked about and belong to no entry. -/
def Registry.unowned (r : Registry) (ts : List (CatalogTrigger N)) : List (CatalogTrigger N) :=
  (ts.filter isListed).filter fun t => !r.entries.any (·.owns t)

theorem result_prunable_of_answer {κ : Type} [Channel κ] {k k' : κ} {ts : List (CatalogTrigger N)}
    (r : Registry) (hquery : result (query prunableSql []) k = (.ok (answer ts), k')) :
    result (prunable r) k = (.ok ((r.unrecognised ts).map candidate), k') := by
  have hrows : (answer ts).mapM candidateOf = .ok ((ts.filter isListed).map candidate) :=
    Namespace.mapM_candidateOf _
  unfold prunable
  rw [Act.result_bind_ok hquery, Act.result_bind_ok ((Act.result_lift _ _).trans (by rw [hrows]))]
  show (Except.ok _, k') = _
  rw [List.filter_map, Registry.unrecognised]
  congr 3
  refine List.filter_congr fun t ht => ?_
  rw [← Registry.contains_installedPairs_of_isListed (List.mem_filter.1 ht).2]
  rfl

/-- The two are the same exactly if every owned trigger has an owner whose label names no schema. -/
theorem Registry.unrecognised_eq_iff (r : Registry) (ts : List (CatalogTrigger N)) :
    r.unrecognised ts = r.unowned ts ↔
      ∀ t ∈ ts, isListed t → ∀ x ∈ r.entries, x.owns t → ∃ y ∈ r.entries, y.isUnqualified ∧ y.owns t := by
  constructor
  · intro h t ht hlisted x hx howns
    have hnot : t ∉ r.unrecognised ts := by
      rw [h]
      intro hmem
      have hnobody := (List.mem_filter.1 hmem).2
      rw [List.any_eq_true.2 ⟨x, hx, howns⟩] at hnobody
      cases hnobody
    by_contra hnone
    refine hnot (List.mem_filter.2 ⟨List.mem_filter.2 ⟨ht, hlisted⟩, ?_⟩)
    rw [Bool.not_eq_true', List.any_eq_false]
    intro y hy hboth
    rw [Bool.and_eq_true] at hboth
    exact hnone ⟨y, hy, hboth.1, hboth.2⟩
  · intro h
    refine List.filter_congr fun t ht => ?_
    obtain ⟨ht, hlisted⟩ := List.mem_filter.1 ht
    congr 1
    rw [Bool.eq_iff_iff, List.any_eq_true, List.any_eq_true]
    constructor
    · rintro ⟨y, hy, hboth⟩
      rw [Bool.and_eq_true] at hboth
      exact ⟨y, hy, hboth.2⟩
    · rintro ⟨x, hx, howns⟩
      obtain ⟨y, hy, hplain, hsame⟩ := h t ht hlisted x hx howns
      exact ⟨y, hy, by rw [hplain, hsame]; rfl⟩

namespace Reconciler

/-- What is prunable, and what pruning drops: each trigger that was asked about and is of no entry whose label
names no schema, by a text that names its table. That spares the triggers of all entries, and takes every other,
exactly if each that was asked about and is of an entry is of one whose label names no schema. -/
theorem prunable_spares_iff (R : Reconciler) {κ : Type} [Channel κ] {k k' : κ} (ts : List (CatalogTrigger N))
    (hquery : result (query prunableSql []) k = (.ok (answer ts), k')) :
    let dropped := R.registry.unrecognised ts
    result (prunable R.registry) k = (.ok (dropped.map candidate), k') ∧
      (result R.prune k = result (do
        (dropped.map candidate).forM R.dropCandidate
        pure (dropped.map candidate)) k') ∧
      (∀ t ∈ dropped, (TableName.ofLabel? (candidate t).table).bind N.resolve = some t.table) ∧
      (dropped = R.registry.unowned ts ↔ ∀ t ∈ ts, isListed t → ∀ x ∈ R.registry.entries, x.owns t →
        ∃ y ∈ R.registry.entries, y.isUnqualified ∧ y.owns t) := by
  intro dropped
  have hprunable := result_prunable_of_answer R.registry hquery
  refine ⟨hprunable, ?_, fun t ht => ?_, R.registry.unrecognised_eq_iff ts⟩
  · unfold prune
    rw [Act.result_bind_ok hprunable]
  · have hlisted := (List.mem_filter.1 (List.mem_filter.1 ht).1).2
    exact N.resolve_printed (Namespace.isVisible_of_isListed hlisted)

end Reconciler

/-! ## A label with a schema -/

/-- A database whose only schema is searched and holds one table. -/
def Namespace.shop : Namespace where
  has t := t = ⟨"public", "book"⟩
  named t h := by
    obtain rfl := of_decide_eq_true h
    decide
  path := ["public"]
  reserved _ := false

/-- The trigger on that table, under a name. -/
def Namespace.onBook (name : String) : CatalogTrigger Namespace.shop where
  table := ⟨"public", "book"⟩
  there := by decide
  name
  mode := "O"

/-- The trigger on the title, on a table under some label. -/
def Entry.titleFrozenOn (label : String) : Entry :=
  ⟨{ Entity.book with table := label }, .titleFrozen, _, pgid_titleFrozen⟩

/-- A registry of that trigger alone. -/
def Reconciler.titleFrozenOn (label : String) : Reconciler :=
  { registry := Registry.put {} (.titleFrozenOn label) }

/-- A server that knows of some triggers. -/
def Script.knowing (ts : List (CatalogTrigger Namespace.shop)) : Direct Script where
  wire := { server := [{ reply := .done (answer ts) 0 }] }

theorem query_knowing (ts : List (CatalogTrigger Namespace.shop)) (sql : String) :
    ∃ c', result (query sql []) (Script.knowing ts) = (.ok (answer ts), c') := by
  have hempty : Text.includes sql "" = true := by
    unfold Text.includes Text.occurs
    cases sql.toList with
    | nil => rfl
    | cons d s => rfl
  have happlies : Rule.applies { reply := .done (answer ts) 0 } (.prepared sql []) := by
    unfold Rule.applies
    show (Text.includes sql "" && _ && _) = true
    rw [hempty]
    rfl
  have hreceive : Server.receive (.prepared sql []) (Script.knowing ts).wire.server =
      (.done (answer ts) 0, (Script.knowing ts).wire.server) := if_pos happlies
  exact ⟨_, Act.result_bind_ok (Direct.send_of_done rfl hreceive) _⟩

/-- Under a label with quotes and no schema, the registered trigger is spared and the other one is not. -/
theorem prunable_spares_quoted :
    let R := Reconciler.titleFrozenOn "\"book\""
    let ts := [Namespace.onBook "pgtrigger_title_frozen_ddd05", Namespace.onBook "pgtrigger_gone_00000"]
    ∃ c', result (query prunableSql []) (Script.knowing ts) = (.ok (answer ts), c') ∧
      result (prunable R.registry) (Script.knowing ts) = (.ok [⟨"book", "pgtrigger_gone_00000", true⟩], c') ∧
      R.registry.unrecognised ts = R.registry.unowned ts := by
  intro R ts
  obtain ⟨c', hquery⟩ := query_knowing ts prunableSql
  obtain ⟨hprunable, -, -, hspares⟩ := Reconciler.prunable_spares_iff R ts hquery
  have hdropped : (R.registry.unrecognised ts).map candidate = [⟨"book", "pgtrigger_gone_00000", true⟩] := by
    decide +kernel
  rw [hdropped] at hprunable
  refine ⟨c', hquery, hprunable, hspares.2 fun t _ _ x hx howns => ⟨x, hx, ?_, howns⟩⟩
  obtain rfl := List.mem_singleton.1 hx
  decide +kernel

/-- Under a label that names the schema too, the registered trigger is prunable, and pruning drops it. -/
theorem prunable_takes_qualified :
    let R := Reconciler.titleFrozenOn "\"public\".\"book\""
    let c := Script.knowing [Namespace.onBook "pgtrigger_title_frozen_ddd05"]
    (¬ ∀ (N : Namespace) (ts : List (CatalogTrigger N)) (r : Registry),
      (∀ x ∈ r.entries, (TableName.ofLabel? x.table).isSome) → ∀ c c' : Direct Script,
        result (query prunableSql []) c = (.ok (answer ts), c') →
          result (prunable r) c = (.ok ((r.unowned ts).map candidate), c')) ∧
      (∀ x ∈ R.registry.entries, x.owns (Namespace.onBook "pgtrigger_title_frozen_ddd05")) ∧
      (result R.prune c).2.journal.sent.map (·.2.sql) =
        [prunableSql, "DROP TRIGGER IF EXISTS pgtrigger_title_frozen_ddd05 ON \"book\";"] := by
  intro R c
  have howns : ∀ x ∈ R.registry.entries, x.owns (Namespace.onBook "pgtrigger_title_frozen_ddd05") := by
    decide +kernel
  refine ⟨fun h => ?_, howns, by decide +kernel⟩
  let ts := [Namespace.onBook "pgtrigger_title_frozen_ddd05"]
  obtain ⟨c', hquery⟩ := query_knowing ts prunableSql
  have hvalid : ∀ x ∈ R.registry.entries, (TableName.ofLabel? x.table).isSome := by decide +kernel
  have hspared := h Namespace.shop ts R.registry hvalid _ _ hquery
  rw [result_prunable_of_answer R.registry hquery] at hspared
  have hsame := congrArg List.length (Except.ok.inj (congrArg Prod.fst hspared))
  rw [List.length_map, List.length_map] at hsame
  revert hsame
  decide +kernel

end DeclaredTriggers
