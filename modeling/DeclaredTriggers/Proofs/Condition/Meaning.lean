import DeclaredTriggers.Proofs.Condition.Tree
import Mathlib.Data.List.Nodup

/-!
# What the text of a condition says

A condition has a value for two rows (`Condition.value`): that of its comparisons, joined as the tree joins
them. Its text, read as an expression, is the tree with the comparisons at its leaves, where a group of one
member is that member; so the text has the value of the tree.

> `Condition.sql_faithful`: a condition has a text if all its parts are writable, the text is read as the
> condition's formula, and that formula has the condition's value.
>
> `Condition.value_and`, `Condition.value_or`: joined conditions have the joined value.
-/

namespace DeclaredTriggers

open Sql.Expression

/-! ## Texts of groups -/

section

variable {α : Type} {atom? : List Tree → Option α} (k : Connective)

/-- The clauses of a group: those of its only member, or a single operand. -/
def groupClauses : List (List (List (Formula α))) → List (List (Formula α))
  | [cs] => cs
  | css => [[ofClauses (css.foldr k.glue [])]]

/-- A group of several texts is read as one operand. -/
theorem reads_grouped {parts : List String} {css : List (List (List (Formula α)))}
    (h : List.Forall₂ (fun (part : String) cs => Reads atom? part.toList cs) parts css) (hne : parts ≠ []) :
    Reads atom? (grouped k.joiner parts).toList (groupClauses k css) := by
  have hparens : Reads atom? ("(" ++ k.joiner.intercalate parts ++ ")").toList
      [[ofClauses (css.foldr k.glue [])]] := by
    rw [String.toList_append, String.toList_append]
    exact (Reads.joined k h hne).parenthesised
  match h with
  | .nil => exact hparens
  | .cons hpart .nil => exact hpart
  | .cons _ (.cons _ _) => exact hparens

/-- Operands that are joined are the group of these operands. -/
theorem ofClauses_operands {fs : List (Formula α)} (h : fs ≠ []) :
    ofClauses ((fs.map fun f => [[f]]).foldr k.glue []) = k.groupOf fs := by
  cases k with
  | and =>
    have hone : (fs.map fun f => [[f]]).foldr glued [] = [fs] := by
      induction fs with
      | nil => exact absurd rfl h
      | cons f fs ih =>
        cases fs with
        | nil => rfl
        | cons f' fs => rw [List.map_cons, List.foldr_cons, ih (by simp)]; rfl
    exact congrArg ofClauses hone
  | or =>
    have hall : (fs.map fun f => [[f]]).foldr (· ++ ·) [] = fs.map fun f => [f] := by
      clear h
      induction fs with
      | nil => rfl
      | cons f fs ih => rw [List.map_cons, List.foldr_cons, ih]; rfl
    show ofClauses (List.foldr (· ++ ·) [] _) = _
    rw [hall, ofClauses, List.map_map]
    exact congrArg _ (List.map_id fs)

/-- A group of operands is their group, as an operand. -/
theorem reads_operands {parts : List String} {fs : List (Formula α)}
    (h : List.Forall₂ (fun (part : String) f => Reads atom? part.toList [[f]]) parts fs) (hne : parts ≠ []) :
    Reads atom? (grouped k.joiner parts).toList [[k.groupOf fs]] := by
  have hread := reads_grouped k (List.forall₂_map_right_iff.2 h) hne
  match fs with
  | [] =>
    cases h
    exact absurd rfl hne
  | [f] => exact hread
  | f :: f' :: fs => rwa [← ofClauses_operands k (by simp)]

end

/-! ## Formulas -/

/-- The formula of a change predicate. -/
def Change.formula? (c : Change) (e : Entity) : Option (Formula Comparison) :=
  match c.fieldNames e with
  | .ok fields =>
    if c.isWhole e fields then some (.atom .rowsDistinct)
    else (fields.mapM e.column?).map fun names =>
      c.kind.connective.groupOf (names.map fun name => .atom (columnComparison c.kind name))
  | .error _ => none

namespace Condition

mutual

/-- The formula of a condition without free SQL: the tree with comparisons at its leaves. -/
def formula? (e : Entity) : Condition → Option (Formula Comparison)
  | .raw _ => none
  | .lookup l => (l.comparison? e).map .atom
  | .change c => c.formula? e
  | .all cs => (formulas? e cs).map Connective.and.groupOf
  | .any cs => (formulas? e cs).map Connective.or.groupOf
  | .not c => (formula? e c).map .not

/-- The formulas of several conditions. -/
def formulas? (e : Entity) : List Condition → Option (List (Formula Comparison))
  | [] => some []
  | c :: cs => (formula? e c).bind fun f => (formulas? e cs).map (f :: ·)

end

end Condition

/-- The text of a change predicate is read as its formula. -/
theorem Change.reads_formula {c : Change} {e : Entity} {text : String} (h : c.sql e = .ok text) :
    ∃ f, c.formula? e = some f ∧ Reads Comparison.ofTrees? text.toList [[f]] := by
  obtain ⟨fields, hfields, hne, hwhole | hparts⟩ := Change.sql_eq h
  · obtain ⟨hwhole, us, hus⟩ := hwhole
    refine ⟨_, ?_, .atom hus.balanced hus.whole hus.comparison⟩
    rw [formula?, hfields]
    exact if_pos hwhole
  · obtain ⟨hwhole, parts, rfl, hparts⟩ := hparts
    have hnames : ∃ names, fields.mapM e.column? = some names ∧
        List.Forall₂ (fun (part : String) f => Reads Comparison.ofTrees? part.toList [[f]]) parts
          (names.map fun name => .atom (columnComparison c.kind name)) := by
      clear hne hfields hwhole h
      induction hparts with
      | nil => exact ⟨[], rfl, .nil⟩
      | cons hpart hrest ih =>
        obtain ⟨us, name, hname, hus⟩ := hpart
        obtain ⟨names, hnames, hreads⟩ := ih
        refine ⟨name :: names, ?_, .cons (.atom hus.balanced hus.whole hus.comparison) hreads⟩
        rw [List.mapM_cons, hname, hnames]
        rfl
    obtain ⟨names, hnames, hreads⟩ := hnames
    have hsome : parts ≠ [] := by
      rintro rfl
      cases hparts
      exact hne rfl
    refine ⟨c.kind.connective.groupOf (names.map fun name => .atom (columnComparison c.kind name)), ?_, ?_⟩
    · rw [formula?, hfields]
      show (if c.isWhole e fields = true then _ else (fields.mapM e.column?).map _) = _
      rw [hwhole, if_neg Bool.false_ne_true, hnames]
      rfl
    · exact reads_operands _ hreads hsome

namespace Condition

theorem formula?_group (k : Connective) (e : Entity) (cs : List Condition) :
    formula? e (k.condition cs) = (formulas? e cs).map k.groupOf := by
  cases k <;> rw [Connective.condition, formula?]

/-- Texts of conditions that are read as formulas, one for each condition. -/
theorem formulas?_of_forall₂ {e : Entity} {cs : List Condition} {parts : List String}
    (hparts : List.Forall₂ (fun c part => sql e c = .ok part) cs parts)
    (h : ∀ c ∈ cs, ∀ text, c.sql e = .ok text →
      ∃ f, c.formula? e = some f ∧ Reads Comparison.ofTrees? text.toList [[f]]) :
    ∃ fs, formulas? e cs = some fs ∧
      List.Forall₂ (fun (part : String) f => Reads Comparison.ofTrees? part.toList [[f]]) parts fs := by
  induction hparts with
  | nil => exact ⟨[], rfl, .nil⟩
  | cons hpart _ ih =>
    obtain ⟨f, hf, hreads⟩ := h _ List.mem_cons_self _ hpart
    obtain ⟨fs, hfs, hrest⟩ := ih fun c hc => h c (List.mem_cons_of_mem _ hc)
    refine ⟨f :: fs, ?_, .cons hreads hrest⟩
    rw [formulas?, hf, hfs]
    rfl

theorem toList_not (part : String) :
    ("NOT (" ++ part ++ ")").toList = "NOT ".toList ++ ('(' :: part.toList ++ [')']) := by
  have hopen : "NOT (".toList = "NOT ".toList ++ ['('] := by decide
  have hclose : ")".toList = [')'] := by decide
  rw [String.toList_append, String.toList_append, hopen, hclose]
  simp only [List.append_assoc, List.cons_append, List.nil_append]

/-- The text of a condition without free SQL is read as its formula. -/
theorem reads_formula {e : Entity} {c : Condition} (hraw : ∀ s, .raw s ∉ c.parts) :
    ∀ text, c.sql e = .ok text → ∃ f, c.formula? e = some f ∧ Reads Comparison.ofTrees? text.toList [[f]] := by
  induction c using induct with
  | raw s => exact absurd (mem_parts_self _) (hraw s)
  | lookup l =>
    intro text h
    rw [sql] at h
    obtain ⟨us, c, hc, hus⟩ := Lookup.reads h
    refine ⟨.atom c, ?_, .atom hus.balanced hus.whole hus.comparison⟩
    rw [formula?, hc]
    rfl
  | change c =>
    intro text h
    rw [sql] at h
    rw [formula?]
    exact Change.reads_formula h
  | group k cs ih =>
    intro text h
    obtain ⟨hne, texts, htexts, rfl⟩ := sql_group_eq k h
    have hall := forall₂_of_mapM htexts
    obtain ⟨fs, hfs, hreads⟩ := formulas?_of_forall₂ hall fun c hc =>
      ih c hc fun s hs => hraw s (mem_parts_of_mem k hc hs)
    refine ⟨k.groupOf fs, by rw [formula?_group, hfs]; rfl, reads_operands k hreads ?_⟩
    rintro rfl
    cases hall
    exact hne rfl
  | not c ih =>
    intro text h
    rw [sql] at h
    obtain ⟨part, hpart, htext⟩ := exists_ok_of_bind h
    obtain rfl := Except.ok.inj htext
    obtain ⟨f, hf, hreads⟩ := ih (fun s hs => hraw s (by rw [parts]; exact List.mem_cons_of_mem _ hs)) part hpart
    refine ⟨.not f, by rw [formula?, hf]; rfl, ?_⟩
    rw [toList_not]
    exact hreads.negated

end Condition

/-! ## Values -/

section

variable {D : Type} (data : Data D) (rows : Rows D)

/-- The value of a lookup; one that asks for nothing has none. -/
def Lookup.value (l : Lookup) (e : Entity) : Truth :=
  ((l.comparison? e).map (Comparison.value data rows (e.fields.map (·.column)))).getD .unknown

/-- The columns that a change predicate on some fields compares; all of them where it compares the rows as
wholes. -/
def Change.columns (c : Change) (e : Entity) : List String :=
  match c.fieldNames e with
  | .ok fields => if c.isWhole e fields then e.fields.map (·.column) else (fields.mapM e.column?).getD []
  | .error _ => []

/-- The value of a change predicate: whether any or all of its columns are distinct or not. -/
def Change.value (c : Change) (e : Entity) : Truth :=
  c.kind.connective.truth ((c.columns e).map fun name =>
    data.truth c.kind.relation (rows .old name) (rows .new name))

namespace Condition

mutual

/-- The value of a condition for two rows; nothing is said of free SQL. -/
def value (e : Entity) : Condition → Truth
  | .raw _ => .unknown
  | .lookup l => l.value data rows e
  | .change c => c.value data rows e
  | .all cs => .all (values e cs)
  | .any cs => .any (values e cs)
  | .not c => (value e c).not

/-- The values of several conditions. -/
def values (e : Entity) : List Condition → List Truth
  | [] => []
  | c :: cs => value e c :: values e cs

end

end Condition

end

section

variable {D : Type} {data : Data D} {rows : Rows D} {e : Entity}

theorem Change.value_formula {c : Change} {f : Formula Comparison} (h : c.formula? e = some f) :
    f.value (Comparison.value data rows (e.fields.map (·.column))) = c.value data rows e := by
  unfold formula? at h
  split at h
  next fields hfields =>
    split at h
    next hwhole =>
      obtain rfl := Option.some.inj h
      have hkind : c.kind = .any := by
        simp only [isWhole, Bool.and_eq_true, decide_eq_true_eq] at hwhole
        exact hwhole.1
      unfold value columns
      simp only [hfields, hwhole, if_true, hkind]
      rfl
    next hwhole =>
      obtain ⟨names, hnames, rfl⟩ := Option.map_eq_some_iff.1 h
      have hcolumns : c.columns e = names := by
        unfold columns
        simp only [hfields, if_neg hwhole, hnames, Option.getD_some]
      rw [value, hcolumns, Connective.value_groupOf, List.map_map]
      rfl
  next => cases h

namespace Condition

theorem values_eq (cs : List Condition) : values data rows e cs = cs.map (value data rows e) := by
  induction cs with
  | nil => rw [values, List.map_nil]
  | cons c cs ih => rw [values, List.map_cons, ih]

theorem value_group (k : Connective) (cs : List Condition) :
    (k.condition cs).value data rows e = k.truth (cs.map (value data rows e)) := by
  cases k <;> rw [Connective.condition, value, values_eq] <;> rfl

/-- The formula of a condition has its value. -/
theorem value_formula {c : Condition} :
    ∀ f, c.formula? e = some f →
      f.value (Comparison.value data rows (e.fields.map (·.column))) = c.value data rows e := by
  have hall : ∀ cs : List Condition, (∀ c ∈ cs, ∀ f, c.formula? e = some f →
      f.value (Comparison.value data rows (e.fields.map (·.column))) = c.value data rows e) →
      ∀ fs, formulas? e cs = some fs →
        fs.map (Formula.value (Comparison.value data rows (e.fields.map (·.column)))) =
          cs.map (value data rows e) := by
    intro cs h
    induction cs with
    | nil =>
      intro fs hfs
      rw [formulas?] at hfs
      obtain rfl := Option.some.inj hfs
      rfl
    | cons c cs ih =>
      intro fs hfs
      rw [formulas?] at hfs
      obtain ⟨f, hf, hfs⟩ := Option.bind_eq_some_iff.1 hfs
      obtain ⟨fs, hrest, rfl⟩ := Option.map_eq_some_iff.1 hfs
      rw [List.map_cons, List.map_cons, h c List.mem_cons_self f hf,
        ih (fun c hc => h c (List.mem_cons_of_mem _ hc)) fs hrest]
  induction c using induct with
  | raw s =>
    intro f hf
    rw [formula?] at hf
    cases hf
  | lookup l =>
    intro f hf
    rw [formula?] at hf
    obtain ⟨c, hc, rfl⟩ := Option.map_eq_some_iff.1 hf
    rw [value, Lookup.value, hc]
    rfl
  | change c =>
    intro f hf
    rw [formula?] at hf
    rw [value]
    exact Change.value_formula hf
  | group k cs ih =>
    intro f hf
    rw [formula?_group] at hf
    obtain ⟨fs, hfs, rfl⟩ := Option.map_eq_some_iff.1 hf
    rw [value_group, Connective.value_groupOf, hall cs ih fs hfs]
  | not c ih =>
    intro f hf
    rw [formula?] at hf
    obtain ⟨g, hg, rfl⟩ := Option.map_eq_some_iff.1 hf
    rw [value, Formula.value, ih g hg]

/-- A condition that a group takes as its last member is joined with the group. -/
theorem value_append (k : Connective) (cs : List Condition) (d : Condition) :
    (k.condition (cs ++ [d])).value data rows e =
      k.truth [(k.condition cs).value data rows e, d.value data rows e] := by
  rw [value_group, value_group, List.map_append, k.truth_append, List.map_singleton, k.truth_singleton]

/-- Two conditions joined by *and* have the joined value. -/
theorem value_and (c d : Condition) :
    (c.and d).value data rows e = (c.value data rows e).and (d.value data rows e) := by
  have hpair : ∀ t u, Connective.and.truth [t, u] = t.and u := fun t u =>
    congrArg t.and (Truth.and_yes u)
  rw [← hpair]
  cases c with
  | all cs => exact value_append .and cs d
  | raw _ | lookup _ | change _ | any _ | not _ => exact value_group .and [_, d]

/-- Two conditions joined by *or* have the joined value. -/
theorem value_or (c d : Condition) :
    (c.or d).value data rows e = (c.value data rows e).or (d.value data rows e) := by
  have hpair : ∀ t u, Connective.or.truth [t, u] = t.or u := fun t u =>
    congrArg t.or (Truth.or_no u)
  rw [← hpair]
  cases c with
  | any cs => exact value_append .or cs d
  | raw _ | lookup _ | change _ | all _ | not _ => exact value_group .or [_, d]

end Condition

end

/-- A condition without free SQL has a text if and only if each of its leaves has one and no group is empty;
the text, read as an expression, is the condition's formula and has its value; and joined conditions have
the joined value. -/
theorem Condition.sql_faithful {e : Entity} {c : Condition} (h : ∀ s, .raw s ∉ c.parts) :
    ((∃ text, c.sql e = .ok text) ↔ ∀ p ∈ c.parts, p.IsWritable e) ∧
      (∀ text, c.sql e = .ok text → ∃ f, c.formula? e = some f ∧
        read? Comparison.ofTrees? text.toList = some f ∧
        ∀ (D : Type) (data : Data D) (rows : Rows D),
          f.value (Comparison.value data rows (e.fields.map (·.column))) = c.value data rows e) ∧
      ∀ (d : Condition) (D : Type) (data : Data D) (rows : Rows D),
        (c.and d).value data rows e = (c.value data rows e).and (d.value data rows e) ∧
          (c.or d).value data rows e = (c.value data rows e).or (d.value data rows e) := by
  refine ⟨exists_sql_iff e c, fun text htext => ?_, fun d D data rows => ⟨value_and c d, value_or c d⟩⟩
  obtain ⟨f, hf, hreads⟩ := reads_formula h text htext
  exact ⟨f, hf, read?_eq_some_iff.2 ⟨_, hreads, rfl⟩, fun D data rows => value_formula f hf⟩

/-- An order that is not paid and has a name with a parenthesis and a keyword, or a change of what is paid. -/
def Condition.specimen : Condition :=
  .all [.not (.any [.lookup ⟨"old__paid", .value (.bool true)⟩]),
    .any [.lookup ⟨"new__name", .value (.text "O') OR ('")⟩, .change { kind := .any, fields := ["paid"] }]]

/-- Orders with whether they are paid and a name. -/
def Entity.orders : Entity :=
  { label := "Order", table := "order", fields := [{ name := "paid" }, { name := "name" }] }

def Condition.specimenText : String :=
  "(NOT (OLD.\"paid\" = true) AND (NEW.\"name\" = 'O'') OR (''' OR " ++
    "OLD.\"paid\" IS DISTINCT FROM NEW.\"paid\"))"

/-- A value that looks like a parenthesis and a keyword joins nothing. -/
theorem Condition.sql_faithful_specimen :
    specimen.sql .orders = .ok specimenText ∧
      ∃ f, specimen.formula? .orders = some f ∧
        read? Comparison.ofTrees? specimenText.toList = some f := by
  have hsql : specimen.sql .orders = .ok specimenText := by decide +kernel
  have hraw : ∀ s, .raw s ∉ specimen.parts := fun s => by
    simp [specimen, Condition.parts, Condition.partsEach]
  obtain ⟨f, hf, hread, -⟩ := (sql_faithful hraw).2.1 _ hsql
  exact ⟨hsql, f, hf, hread⟩

end DeclaredTriggers
