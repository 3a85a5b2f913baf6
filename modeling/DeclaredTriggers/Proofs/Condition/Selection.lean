import DeclaredTriggers.Proofs.Condition.Meaning

/-!
# The columns that a change predicate compares

A change predicate selects fields, and its text compares columns: the name of each field is put into a key, the
key is read again, and the name is looked up. So a name has to survive the key, which one with a double
underscore does not, and it has to lead back to the column of its field, which it does not if it is `pk`, the
word for the key column, or the name of an earlier field as well. The comparison of the whole rows needs none
of this.

> `Change.compares_selected_iff`: when a change predicate has a text and this says of the selected fields'
> columns what the predicate asks.
-/

namespace DeclaredTriggers

open Sql.Expression
open Text (occurs)

/-! ## What is asked of columns -/

/-- Whether two data, or nothing in their places, are distinct. -/
def Data.isDistinct {D : Type} (data : Data D) : Option D → Option D → Bool
  | some a, some b => !data.compare .equal a b
  | none, none => false
  | some _, none | none, some _ => true

/-- What a change predicate asks of columns, given which of them are distinct. -/
def ChangeKind.Holds (kind : ChangeKind) (distinct : String → Bool) (columns : List String) : Prop :=
  match kind with
  | .any => ∃ x ∈ columns, distinct x = true
  | .all => ∀ x ∈ columns, distinct x = true
  | .anyNot => ∃ x ∈ columns, distinct x = false
  | .allNot => ∀ x ∈ columns, distinct x = false

/-- What is asked of the members of two lists is the same, whichever are distinct, only if the lists have the
same members. -/
theorem ChangeKind.holds_congr_iff (kind : ChangeKind) {as bs : List String} :
    (∀ distinct, kind.Holds distinct as ↔ kind.Holds distinct bs) ↔ ∀ x, x ∈ as ↔ x ∈ bs := by
  constructor
  · intro h x
    -- one column is unlike all others
    cases kind with
    | any => simpa [Holds] using h fun y => y = x
    | all => simpa [Holds] using not_congr (h fun y => y ≠ x)
    | anyNot => simpa [Holds] using h fun y => y ≠ x
    | allNot => simpa [Holds] using not_congr (h fun y => y = x)
  · intro h distinct
    cases kind <;> simp only [Holds, h]

theorem Sql.Expression.Truth.any_eq_yes_iff {ts : List Truth} : Truth.any ts = .yes ↔ ∃ t ∈ ts, t = .yes := by
  induction ts with
  | nil => simp [Truth.any]
  | cons t ts ih =>
    rw [List.exists_mem_cons_iff, ← ih]
    show t.or (Truth.any ts) = .yes ↔ _
    cases t <;> cases Truth.any ts <;> simp [Truth.or]

theorem Sql.Expression.Truth.all_eq_yes_iff {ts : List Truth} : Truth.all ts = .yes ↔ ∀ t ∈ ts, t = .yes := by
  induction ts with
  | nil => simp [Truth.all]
  | cons t ts ih =>
    rw [List.forall_mem_cons, ← ih]
    show t.and (Truth.all ts) = .yes ↔ _
    cases t <;> cases Truth.all ts <;> simp [Truth.and]

section

variable {D : Type} {data : Data D} {rows : Rows D}

theorem Data.truth_distinct (a b : Option D) : data.truth .distinct a b = .ofBool (data.isDistinct a b) := by
  cases a <;> cases b <;> rfl

theorem Data.truth_notDistinct (a b : Option D) :
    data.truth .notDistinct a b = .ofBool (!data.isDistinct a b) := by
  cases a <;> cases b <;> simp [truth, isDistinct]

/-- A change predicate is true of two rows if what it asks holds of its columns. -/
theorem Change.value_eq_yes_iff {c : Change} {e : Entity} :
    c.value data rows e = .yes ↔
      c.kind.Holds (fun x => data.isDistinct (rows .old x) (rows .new x)) (c.columns e) := by
  have hyes : ∀ b, Truth.ofBool b = .yes ↔ b = true := by decide
  unfold value ChangeKind.Holds
  cases c.kind <;>
    simp [ChangeKind.connective, ChangeKind.relation, Connective.truth, Truth.any_eq_yes_iff,
      Truth.all_eq_yes_iff, Data.truth_distinct, Data.truth_notDistinct, hyes]

end

/-- Every choice of distinct columns is that of some two rows. -/
theorem exists_rows (distinct : String → Bool) : ∃ (data : Data Bool) (rows : Rows Bool),
    ∀ x, data.isDistinct (rows .old x) (rows .new x) = distinct x := by
  let data : Data Bool :=
    { bool := id, number := fun _ => true, text := fun _ => true, compare := fun _ a b => a = b,
      like := fun _ _ => true, likeAnyCase := fun _ _ => true }
  refine ⟨data, fun r x => some (if r = .old then true else !distinct x), fun x => ?_⟩
  simp [data, Data.isDistinct]

/-! ## From fields to columns -/

/-- A field is found under its name, if not always this one. -/
theorem Entity.exists_column? {e : Entity} {f : Field} (hf : f ∈ e.fields) :
    ∃ x, e.column? f.name = some x := by
  unfold column?
  split
  · exact ⟨_, rfl⟩
  · have hfind : (e.fields.find? (·.name = f.name)).isSome := List.find?_isSome.2 ⟨f, hf, by simp⟩
    obtain ⟨g, hg⟩ := Option.isSome_iff_exists.1 hfind
    exact ⟨g.column, by rw [field?, hg]; rfl⟩

theorem Lookup.comparison_field {e : Entity} {key left reference : String} {r : Relation} :
    Lookup.comparison e key left (.relation r) (.field reference) =
      (do pure (left ++ " " ++ r.sql ++ " " ++ (← Lookup.operandSql e key (.field reference)))) := by
  cases r <;> rfl

namespace Change

variable {c : Change} {e : Entity} {fields : List String}

/-- The fields that a predicate selects. -/
def selected (c : Change) (e : Entity) : List Field := e.fields.filter c.selects

/-- Whether the names of the selected fields lead back to their columns. -/
def LeadsBack (c : Change) (e : Entity) : Prop :=
  ∀ x, (∃ f ∈ c.selected e, e.column? f.name = some x) ↔ ∃ f ∈ c.selected e, f.column = x

theorem exists_column?_of_mem (h : c.fieldNames e = .ok fields) {name : String} (hname : name ∈ fields) :
    ∃ x, e.column? name = some x := by
  obtain ⟨rfl, -⟩ := fieldNames_eq h
  obtain ⟨f, hf, rfl⟩ := List.mem_map.1 hname
  exact Entity.exists_column? (List.mem_of_mem_filter hf)

/-- A field that is found is compared between the rows, unless its name has a double underscore: then it is
said not to be a field. -/
theorem comparison_eq {name column : String} (h : e.column? name = some column) :
    c.comparison e name =
      if occurs ['_', '_'] name.toList then .error (.unknownField e.label name)
      else .ok (Row.old.sql ++ "." ++ Sql.quoteName column ++ " " ++ c.kind.relation.sql ++ " " ++
        (Row.new.sql ++ "." ++ Sql.quoteName column)) := by
  have hcolumn : ∀ r : Row, r.column e name = .ok (r.sql ++ "." ++ Sql.quoteName column) := by
    intro r
    unfold Row.column Entity.column
    rw [h]
    rfl
  have hright : ∀ key, Lookup.operandSql e key (.field ("new__" ++ name)) =
      .ok (Row.new.sql ++ "." ++ Sql.quoteName column) := by
    intro key
    show (Row.split ("new__" ++ name) >>= _) = _
    rw [Row.split_new]
    exact hcolumn .new
  unfold comparison Lookup.sql
  rw [Lookup.decode_old]
  simp only [bind, Except.bind]
  split
  next => rfl
  next =>
    rw [hcolumn]
    show Lookup.comparison _ _ _ _ _ = _
    rw [Lookup.comparison_field, hright]
    rfl

/-- A predicate that selects some fields has a text if it compares the rows as wholes, or if none of their
names has a double underscore. -/
theorem exists_text_iff (h : c.fieldNames e = .ok fields) :
    (∃ text, c.sql e = .ok text) ↔
      c.isWhole e fields = true ∨ ∀ name ∈ fields, occurs ['_', '_'] name.toList = false := by
  -- each of the names is a field's, so that only a double underscore can keep it from being compared
  have hparts : (∃ parts, fields.mapM (c.comparison e) = .ok parts) ↔
      ∀ name ∈ fields, occurs ['_', '_'] name.toList = false := by
    rw [exists_mapM_iff]
    refine forall₂_congr fun name hname => ?_
    obtain ⟨column, hcolumn⟩ := exists_column?_of_mem h hname
    rw [comparison_eq hcolumn]
    cases occurs ['_', '_'] name.toList
    · exact ⟨fun _ => rfl, fun _ => ⟨_, rfl⟩⟩
    · exact ⟨nofun, nofun⟩
  have hsql : c.sql e = if c.isWhole e fields then pure "OLD.* IS DISTINCT FROM NEW.*"
      else fields.mapM (c.comparison e) >>= fun parts => pure (grouped c.kind.joiner parts) := by
    unfold sql
    rw [h]
    rfl
  rw [hsql, ← hparts]
  cases c.isWhole e fields with
  | true => exact ⟨fun _ => .inl rfl, fun _ => ⟨_, rfl⟩⟩
  | false =>
    constructor
    · rintro ⟨text, htext⟩
      obtain ⟨parts, hmapM, -⟩ := exists_ok_of_bind htext
      exact .inr ⟨parts, hmapM⟩
    · rintro (hwhole | ⟨parts, hmapM⟩)
      · cases hwhole
      · exact ⟨_, by rw [if_neg Bool.false_ne_true, hmapM]; rfl⟩

/-! ## What the text says -/

/-- The comparison of the rows as wholes is of the columns of the selected fields, which are all. -/
theorem columns_eq_of_isWhole (h : c.fieldNames e = .ok fields) (hwhole : c.isWhole e fields = true) :
    c.columns e = (c.selected e).map (·.column) := by
  unfold columns
  simp only [h, hwhole, if_true]
  obtain ⟨rfl, -⟩ := fieldNames_eq h
  simp only [isWhole, Bool.and_eq_true, decide_eq_true_eq, List.length_map] at hwhole
  rw [selected, List.filter_eq_self.2 fun f hf => List.length_filter_eq_length_iff.1 hwhole.2 f hf]

/-- Other comparisons are of the columns that the names of the selected fields lead to. -/
theorem mem_columns_iff (h : c.fieldNames e = .ok fields) (hwhole : c.isWhole e fields = false) {x : String} :
    x ∈ c.columns e ↔ ∃ f ∈ c.selected e, e.column? f.name = some x := by
  -- the columns are looked up all or not at all, and here none is missing
  have hmapM : ∀ names : List String, (∀ name ∈ names, ∃ y, e.column? name = some y) →
      ∃ ys, names.mapM e.column? = some ys ∧ ∀ y, y ∈ ys ↔ ∃ name ∈ names, e.column? name = some y := by
    intro names hnames
    induction names with
    | nil => exact ⟨[], rfl, by simp⟩
    | cons name names ih =>
      obtain ⟨⟨y, hy⟩, hnames⟩ := List.forall_mem_cons.1 hnames
      obtain ⟨ys, hys, hmem⟩ := ih hnames
      exact ⟨y :: ys, by rw [List.mapM_cons, hy, hys]; rfl, fun z => by simp [hmem, hy, eq_comm]⟩
  obtain ⟨ys, hys, hmem⟩ := hmapM fields fun _ hname => exists_column?_of_mem h hname
  have hcolumns : c.columns e = ys := by
    unfold columns
    simp only [h, hwhole, Bool.false_eq_true, if_false, hys, Option.getD_some]
  rw [hcolumns, hmem, (fieldNames_eq h).1]
  simp [selected]

/-- The text of a predicate says of some columns what the predicate asks only if these are the columns it
compares. -/
theorem says_iff {text : String} (h : c.sql e = .ok text) (columns : List String) :
    (∃ f, read? Comparison.ofTrees? text.toList = some f ∧ ∀ (D : Type) (data : Data D) (rows : Rows D),
      f.value (Comparison.value data rows (e.fields.map (·.column))) = .yes ↔
        c.kind.Holds (fun x => data.isDistinct (rows .old x) (rows .new x)) columns) ↔
      ∀ x, x ∈ c.columns e ↔ x ∈ columns := by
  obtain ⟨f, hf, hreads⟩ := reads_formula h
  have hread : read? Comparison.ofTrees? text.toList = some f := read?_eq_some_iff.2 ⟨_, hreads, rfl⟩
  have hvalue : ∀ (D : Type) (data : Data D) (rows : Rows D),
      f.value (Comparison.value data rows (e.fields.map (·.column))) = .yes ↔
        c.kind.Holds (fun x => data.isDistinct (rows .old x) (rows .new x)) (c.columns e) := fun D data rows => by
    rw [value_formula hf, value_eq_yes_iff]
  rw [← c.kind.holds_congr_iff]
  constructor
  · -- the rows can differ in any columns, so no other list of them would do
    rintro ⟨f', hread', hsays⟩ distinct
    obtain rfl := Option.some.inj (hread.symm.trans hread')
    obtain ⟨data, rows, hrows⟩ := exists_rows distinct
    obtain rfl : (fun x => data.isDistinct (rows .old x) (rows .new x)) = distinct := funext hrows
    rw [← hvalue, hsays]
  · intro hsame
    exact ⟨f, hread, fun D data rows => by rw [hvalue, hsame]⟩

/-- A change predicate that selects some fields has a text, and this holds of two rows exactly if what the
predicate asks holds of the selected fields' columns, if and only if it compares the rows as wholes, or no
selected name has a double underscore and the names lead back to the columns of their fields. -/
theorem compares_selected_iff (h : c.fieldNames e = .ok fields) :
    (∃ text f, c.sql e = .ok text ∧ read? Comparison.ofTrees? text.toList = some f ∧
      ∀ (D : Type) (data : Data D) (rows : Rows D),
        f.value (Comparison.value data rows (e.fields.map (·.column))) = .yes ↔
          c.kind.Holds (fun x => data.isDistinct (rows .old x) (rows .new x))
            ((c.selected e).map (·.column))) ↔
      c.isWhole e fields = true ∨
        (∀ name ∈ fields, occurs ['_', '_'] name.toList = false) ∧ c.LeadsBack e := by
  have hcolumns : c.isWhole e fields = false →
      ((∀ x, x ∈ c.columns e ↔ x ∈ (c.selected e).map (·.column)) ↔ c.LeadsBack e) := fun hwhole =>
    forall_congr' fun x => by rw [mem_columns_iff h hwhole, List.mem_map]
  constructor
  · rintro ⟨text, f, htext, hf⟩
    refine (c.isWhole e fields).eq_false_or_eq_true.imp_right fun hwhole => ?_
    refine ⟨((exists_text_iff h).1 ⟨text, htext⟩).resolve_left (by simp [hwhole]), ?_⟩
    exact (hcolumns hwhole).1 ((says_iff htext _).1 ⟨f, hf⟩)
  · intro hgood
    obtain ⟨text, htext⟩ := (exists_text_iff h).2 (hgood.imp_right And.left)
    have hsame : ∀ x, x ∈ c.columns e ↔ x ∈ (c.selected e).map (·.column) := by
      cases hwhole : c.isWhole e fields with
      | true => exact fun x => by rw [columns_eq_of_isWhole h hwhole]
      | false => exact (hcolumns hwhole).2 (hgood.resolve_left (by simp [hwhole])).2
    obtain ⟨f, hf⟩ := (says_iff htext _).2 hsame
    exact ⟨text, f, htext, hf⟩

/-- Parcels, with names and columns that differ. -/
def parcels : Entity :=
  { label := "depot.Parcel", table := "parcel",
    fields := [{ name := "_weight_", column := "weight" }, { name := "is__draft" }, { name := "pk", column := "code" },
      Field.reference "owner"] }

/-- An underscore at either end of a name is no matter, next to those of the key. -/
theorem compares_selected_edges :
    ∃ text f, ({ kind := .allNot, fields := ["_weight_", "owner_id"] } : Change).sql parcels = .ok text ∧
      read? Comparison.ofTrees? text.toList = some f ∧
      ∀ (D : Type) (data : Data D) (rows : Rows D),
        f.value (Comparison.value data rows (parcels.fields.map (·.column))) = .yes ↔
          ∀ x ∈ ["weight", "owner_id"], data.isDistinct (rows .old x) (rows .new x) = false := by
  let c : Change := { kind := .allNot, fields := ["_weight_", "owner_id"] }
  have hselected : c.selected parcels = [{ name := "_weight_", column := "weight" }, Field.reference "owner"] := by
    decide +kernel
  have hback : c.LeadsBack parcels := fun x => by
    rw [hselected]
    have hweight : parcels.column? "_weight_" = some "weight" := by decide +kernel
    have howner : parcels.column? (Field.reference "owner").name = some (Field.reference "owner").column := by
      decide +kernel
    simp [hweight, howner]
  have hfields : c.fieldNames parcels = .ok ["_weight_", "owner"] := by decide +kernel
  have hsays := (compares_selected_iff hfields).2 (.inr ⟨by decide +kernel, hback⟩)
  rwa [hselected] at hsays

/-- A change of one field. -/
def ofField (name : String) : Change := { kind := .any, fields := [name] }

/-- A field with a double underscore in its name is selected, and said not to be one; for a field that is
called `pk` the key column is compared. -/
theorem compares_selected_not :
    ((ofField "is__draft").fieldNames parcels = .ok ["is__draft"] ∧
      (ofField "is__draft").sql parcels = .error (.unknownField "depot.Parcel" "is__draft")) ∧
    (ofField "pk").fieldNames parcels = .ok ["pk"] ∧
      ((ofField "pk").selected parcels).map (·.column) = ["code"] ∧
      (ofField "pk").sql parcels = .ok "OLD.\"id\" IS DISTINCT FROM NEW.\"id\"" := by
  decide +kernel

end Change

end DeclaredTriggers
