import DeclaredTriggers.Proofs.Act
import DeclaredTriggers.Proofs.Condition.Keys

/-!
# Parts of a condition

A condition is a tree, and what is said of it is said of its parts (`Condition.parts`): the leaves, and the
groups with their members. It can be written where every leaf can be and no group is empty, which is said
node by node:

> `Condition.exists_sql_iff`: a condition has a text if and only if each of its parts is writable.
>
> `Change.sql_eq`: a change predicate is one comparison or a group of comparisons.
-/

namespace DeclaredTriggers

open Sql.Expression

/-- Conditions that are joined. -/
def Sql.Expression.Connective.condition : Connective → List Condition → Condition
  | .and => .all
  | .or => .any

namespace Condition

/-- What holds of the leaves, and of a node whose members it holds of, holds of every condition. -/
theorem induct {P : Condition → Prop} (raw : ∀ s, P (.raw s)) (lookup : ∀ l, P (.lookup l))
    (change : ∀ c, P (.change c))
    (group : ∀ (k : Connective) (cs : List Condition), (∀ c ∈ cs, P c) → P (k.condition cs))
    (not : ∀ c, P c → P (.not c)) : ∀ c, P c := by
  intro c
  refine @Condition.rec P (fun cs => ∀ c ∈ cs, P c) raw lookup change (fun cs => group .and cs)
    (fun cs => group .or cs) (fun c => not c) (by simp) ?_ c
  intro c cs hc hcs d hd
  rcases List.mem_cons.1 hd with rfl | hd
  · exact hc
  · exact hcs d hd

mutual

/-- A condition and all that it is made of. -/
def parts : Condition → List Condition
  | .raw s => [.raw s]
  | .lookup l => [.lookup l]
  | .change c => [.change c]
  | .all cs => .all cs :: partsEach cs
  | .any cs => .any cs :: partsEach cs
  | .not c => .not c :: parts c

/-- The parts of several conditions. -/
def partsEach : List Condition → List Condition
  | [] => []
  | c :: cs => parts c ++ partsEach cs

end

variable (k : Connective)

theorem parts_group (cs : List Condition) : (k.condition cs).parts = k.condition cs :: partsEach cs := by
  cases k <;> rw [Connective.condition, parts]

theorem mem_partsEach {p : Condition} {cs : List Condition} : p ∈ partsEach cs ↔ ∃ c ∈ cs, p ∈ c.parts := by
  induction cs with
  | nil => simp [partsEach]
  | cons c cs ih => simp [partsEach, ih]

theorem mem_parts_self (c : Condition) : c ∈ c.parts := by cases c <;> simp [parts]

/-- A part of a member is a part of the group. -/
theorem mem_parts_of_mem {p c : Condition} {cs : List Condition} (hc : c ∈ cs) (hp : p ∈ c.parts) :
    p ∈ (k.condition cs).parts := by
  rw [parts_group]
  exact List.mem_cons_of_mem _ (mem_partsEach.2 ⟨c, hc, hp⟩)

/-- What is said of a group and of its members. -/
theorem forall_parts_group {P : Condition → Prop} {cs : List Condition} :
    (∀ p ∈ (k.condition cs).parts, P p) ↔ P (k.condition cs) ∧ ∀ c ∈ cs, ∀ p ∈ c.parts, P p := by
  rw [parts_group, List.forall_mem_cons]
  simp only [mem_partsEach]
  exact and_congr_right fun _ =>
    ⟨fun h c hc p hp => h p ⟨c, hc, hp⟩, fun h p ⟨c, hc, hp⟩ => h c hc p hp⟩

/-- Whether a leaf can be written for an entity, and a group has members. -/
def IsWritable (e : Entity) : Condition → Prop
  | .raw s => ¬ Text.isBlankText s
  | .lookup l => ∃ text, l.sql e = .ok text
  | .change c => ∃ text, c.sql e = .ok text
  | .all cs | .any cs => cs ≠ []
  | .not _ => True

theorem isWritable_group {e : Entity} {cs : List Condition} : (k.condition cs).IsWritable e ↔ cs ≠ [] := by
  cases k <;> exact Iff.rfl

theorem sqlEach_eq (e : Entity) (cs : List Condition) : sqlEach e cs = cs.mapM (sql e) := by
  induction cs with
  | nil => rw [sqlEach, List.mapM_nil]
  | cons c cs ih => rw [sqlEach, List.mapM_cons, ih]

/-- Conditions that are joined are the group of their texts. -/
theorem sql_group {e : Entity} {cs : List Condition} (h : cs ≠ []) :
    (k.condition cs).sql e = (do pure (grouped k.joiner (← cs.mapM (sql e)))) := by
  obtain ⟨c, cs, rfl⟩ := List.exists_cons_of_ne_nil h
  cases k with
  | and =>
    rw [Connective.condition, sql, sqlEach_eq]
    · rfl
    · simp
  | or =>
    rw [Connective.condition, sql, sqlEach_eq]
    · rfl
    · simp

/-- A group that has a text has members, and these have texts. -/
theorem sql_group_eq {e : Entity} {cs : List Condition} {text : String} (h : (k.condition cs).sql e = .ok text) :
    cs ≠ [] ∧ ∃ texts, cs.mapM (sql e) = .ok texts ∧ text = grouped k.joiner texts := by
  have hne : cs ≠ [] := by
    rintro rfl
    cases k <;>
      · rw [Connective.condition, sql] at h
        cases h
  rw [sql_group k hne] at h
  obtain ⟨texts, htexts, htext⟩ := exists_ok_of_bind h
  exact ⟨hne, texts, htexts, (Except.ok.inj htext).symm⟩

/-- A condition has a text if and only if each of its parts is writable. -/
theorem exists_sql_iff (e : Entity) (c : Condition) :
    (∃ text, c.sql e = .ok text) ↔ ∀ p ∈ c.parts, p.IsWritable e := by
  induction c using induct with
  | raw s =>
    rw [parts, List.forall_mem_singleton, sql, IsWritable]
    split
    next h => exact ⟨nofun, fun hs => absurd h hs⟩
    next h => exact ⟨fun _ => h, fun _ => ⟨s, rfl⟩⟩
  | lookup l => rw [parts, List.forall_mem_singleton, sql, IsWritable]
  | change c => rw [parts, List.forall_mem_singleton, sql, IsWritable]
  | group k cs ih =>
    rw [forall_parts_group, isWritable_group]
    constructor
    · rintro ⟨text, h⟩
      obtain ⟨hne, texts, htexts, -⟩ := sql_group_eq k h
      exact ⟨hne, fun c hc => (ih c hc).1 (exists_mapM_iff.1 ⟨texts, htexts⟩ c hc)⟩
    · rintro ⟨hne, hmembers⟩
      obtain ⟨texts, htexts⟩ := exists_mapM_iff.2 fun c hc => (ih c hc).2 (hmembers c hc)
      exact ⟨grouped k.joiner texts, by rw [sql_group k hne, htexts]; rfl⟩
  | not c ih =>
    rw [parts, List.forall_mem_cons, IsWritable, ← ih, sql]
    constructor
    · rintro ⟨text, h⟩
      obtain ⟨part, hpart, -⟩ := exists_ok_of_bind h
      exact ⟨trivial, part, hpart⟩
    · rintro ⟨-, part, hpart⟩
      exact ⟨_, by rw [hpart]; rfl⟩

end Condition

/-! ## Change predicates -/

/-- What joins the comparisons of a change predicate. -/
def ChangeKind.connective : ChangeKind → Connective
  | .any | .anyNot => .or
  | .all | .allNot => .and

/-- What a change predicate asks of each field. -/
def ChangeKind.relation : ChangeKind → Relation
  | .any | .all => .distinct
  | .anyNot | .allNot => .notDistinct

/-- The key of a comparison that a change predicate makes says which. -/
theorem Lookup.decode_old (kind : ChangeKind) (name : String) :
    Lookup.decode ("old__" ++ name ++ "__" ++ kind.suffix) = .ok (.old, name, .relation kind.relation) := by
  have hmem : (kind.suffix, .relation kind.relation) ∈ LookupKind.table := by
    cases kind <;> decide
  exact decode_eq_ok_iff.2 (.long hmem)

theorem Row.split_new (name : String) : Row.split ("new__" ++ name) = .ok (.new, name) :=
  split_lead .new name

namespace Change

/-- The comparison of a column between the rows. -/
def columnComparison (kind : ChangeKind) (name : String) : Comparison :=
  .relation kind.relation (.column .old name) (.column .new name)

/-- The text for a field is read as the comparison of its column between the rows. -/
theorem reads_comparison {c : Change} {e : Entity} {field text : String} (h : c.comparison e field = .ok text) :
    ∃ us name, e.column? field = some name ∧ Compares text.toList us (columnComparison c.kind name) := by
  obtain ⟨us, comparison, hcomparison, hus⟩ := Lookup.reads h
  unfold Lookup.comparison? at hcomparison
  rw [Lookup.decode_old] at hcomparison
  obtain ⟨name, hname, hrest⟩ := Option.bind_eq_some_iff.1 hcomparison
  rw [LookupKind.comparison?_relation (by simp)] at hrest
  simp only [Operand.side?, Row.split_new, hname, Option.map_some, Option.some.injEq] at hrest
  subst hrest
  exact ⟨us, name, hname, hus⟩

/-- The fields that a predicate compares are those that it selects, and it selects some. -/
theorem fieldNames_eq {c : Change} {e : Entity} {fields : List String} (h : c.fieldNames e = .ok fields) :
    fields = (e.fields.filter c.selects).map (·.name) ∧ fields ≠ [] := by
  unfold fieldNames at h
  split at h
  next => cases h
  next =>
    simp only at h
    split at h
    next => cases h
    next hempty =>
      obtain rfl := Except.ok.inj h
      exact ⟨rfl, fun hnil => hempty (by rw [hnil]; rfl)⟩

/-- Whether a predicate on some fields compares the rows as wholes. -/
def isWhole (c : Change) (e : Entity) (fields : List String) : Bool :=
  c.kind = .any && fields.length = e.fields.length

/-- A change predicate compares the rows as wholes, or it is the group of the comparisons of its fields'
columns. -/
theorem sql_eq {c : Change} {e : Entity} {text : String} (h : c.sql e = .ok text) :
    ∃ fields, c.fieldNames e = .ok fields ∧ fields ≠ [] ∧
      ((c.isWhole e fields = true ∧ ∃ us, Compares text.toList us .rowsDistinct) ∨
        (c.isWhole e fields = false ∧ ∃ parts, text = grouped c.kind.connective.joiner parts ∧
          List.Forall₂ (fun field (part : String) => ∃ us name, e.column? field = some name ∧
            Compares part.toList us (columnComparison c.kind name)) fields parts)) := by
  obtain ⟨fields, hfields, hrest⟩ := exists_ok_of_bind h
  refine ⟨fields, hfields, (fieldNames_eq hfields).2, ?_⟩
  split at hrest
  next hwhole =>
    obtain rfl := Except.ok.inj hrest
    refine .inl ⟨hwhole, [.leaf (.word "OLD".toList), .leaf (.mark '.'), .leaf (.operator ['*']),
      .leaf (.word "IS".toList), .leaf (.word "DISTINCT".toList), .leaf (.word "FROM".toList),
      .leaf (.word "NEW".toList), .leaf (.mark '.'), .leaf (.operator ['*'])], ?_, rfl, rfl, 'O', _, rfl, rfl⟩
    exact ⟨[.word "OLD".toList, .mark '.', .operator ['*'], .word "IS".toList, .word "DISTINCT".toList,
      .word "FROM".toList, .word "NEW".toList, .mark '.', .operator ['*']], ⟨by decide, by decide⟩, rfl, rfl⟩
  next hwhole =>
    obtain ⟨parts, hparts, htext⟩ := exists_ok_of_bind hrest
    have hjoiner : c.kind.joiner = c.kind.connective.joiner := by cases c.kind <;> rfl
    refine .inr ⟨by simpa [isWhole] using hwhole, parts, hjoiner ▸ (Except.ok.inj htext).symm, ?_⟩
    exact (forall₂_of_mapM hparts).imp fun field part hpart => reads_comparison hpart

end Change

end DeclaredTriggers
