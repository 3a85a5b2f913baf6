import DeclaredTriggers.Proofs.Sql.Identifiers

/-!
# Names of tables

A table has a name within a schema. A label names one by both, or by its own name alone, and then the schemas
of the search path are asked in their order. The database prints a table without its schema where that is
enough to find it, and a name without quotes where that is enough to read it. So one table has many labels,
while it is printed in one way; what a label is quoted to tells them apart:

> `quote_printed_iff`: a label is quoted to the name of a visible table exactly if it names that table and
> names no schema.
-/

namespace DeclaredTriggers

open Sql (Identifier Part)

/-- A table, by its schema and its name in it. -/
structure Table where
  schema : String
  name : String
  deriving DecidableEq

/-- How many bytes of a name a database keeps. -/
def maxNameBytes : Nat := 63

/-- Whether a text is a name that a database keeps as it is. -/
def IsName (name : String) : Prop := name ≠ "" ∧ '\x00' ∉ name.toList ∧ name.utf8ByteSize ≤ maxNameBytes

instance (name : String) : Decidable (IsName name) := inferInstanceAs (Decidable (_ ∧ _ ∧ _))

/-! ## Labels -/

/-- How a label names a table: in a schema or in whichever is searched. -/
structure TableName where
  schema : Option String
  name : String
  deriving DecidableEq

namespace TableName

/-- The name that a part of an identifier stands for: a bare one is read in small letters. -/
def ofPart : Part → String
  | .bare name => Sql.folded name
  | .quoted name => name

/-- What a label names in a statement, where it stands quoted. A name that is too long is no name. -/
def ofLabel? (label : String) : Option TableName :=
  match Identifier.parse (Sql.quote label) with
  | .ok ⟨[part]⟩ => if IsName (ofPart part) then some ⟨none, ofPart part⟩ else none
  | .ok ⟨[schema, part]⟩ =>
    if IsName (ofPart schema) ∧ IsName (ofPart part) then some ⟨some (ofPart schema), ofPart part⟩ else none
  | _ => none

end TableName

/-! ## Namespaces -/

/-- Whether a name can do without quotes by its characters. -/
def isSmallName (name : String) : Bool :=
  match name.toList with
  | [] => false
  | c :: rest => (c = '_' || c.isLower) && rest.all fun d => d = '_' || d.isLower || d.isDigit

/-- The tables of a database and how they are found and printed. -/
structure Namespace where
  has : Table → Bool
  named : ∀ t, has t → IsName t.schema ∧ IsName t.name
  /-- The schemas that are searched, in this order. -/
  path : List String
  /-- Names that need quotes for another reason than their characters. -/
  reserved : String → Bool

namespace Namespace

variable (N : Namespace) {t : Table}

/-- The table that a name finds. -/
def find? (name : String) : Option Table := (N.path.map (Table.mk · name)).find? N.has

/-- Whether a table is found by its name alone. -/
def IsVisible (t : Table) : Prop := N.find? t.name = some t

instance (t : Table) : Decidable (N.IsVisible t) := inferInstanceAs (Decidable (_ = _))

/-- The table that a label names. -/
def resolve (n : TableName) : Option Table :=
  match n.schema with
  | none => N.find? n.name
  | some schema => if N.has ⟨schema, n.name⟩ then some ⟨schema, n.name⟩ else none

/-- A name as it is printed, with quotes only if it needs them. -/
def part (name : String) : Part :=
  if isSmallName name && !N.reserved name then .bare name else .quoted name

/-- A table as it is printed, with its schema only if it needs it. -/
def identifier (t : Table) : Identifier :=
  if N.IsVisible t then ⟨[N.part t.name]⟩ else ⟨[N.part t.schema, N.part t.name]⟩

/-- The text that is printed for a table. -/
def printed (t : Table) : String := (N.identifier t).sql

theorem name_of_find? {name : String} (h : N.find? name = some t) : t.name = name := by
  obtain ⟨schema, -, htable⟩ := List.mem_map.1 (List.mem_of_find?_eq_some h)
  exact (congrArg Table.name htable).symm

theorem has_of_find? {name : String} (h : N.find? name = some t) : N.has t := List.find?_some h

/-! ## What is printed -/

theorem isNameStart_of_small {c : Char} (h : c = '_' || c.isLower) : Sql.isNameStart c := by
  unfold Sql.isNameStart Char.isAlpha
  simp only [Bool.or_eq_true, decide_eq_true_eq] at h ⊢
  exact h.imp_right .inr

theorem isNameRest_of_small {c : Char} (h : c = '_' || c.isLower || c.isDigit) : Sql.isNameRest c := by
  unfold Sql.isNameRest Char.isAlphanum Char.isAlpha
  simp only [Bool.or_eq_true, decide_eq_true_eq] at h ⊢
  obtain (h | h) | h := h
  · exact .inl (.inl h)
  · exact .inr (.inl (.inr h))
  · exact .inr (.inr h)

theorem not_mem_of_isSmallName {name : String} (h : isSmallName name) : '"' ∉ name.toList := by
  unfold isSmallName at h
  split at h
  next => cases h
  next c rest hlist =>
    rw [Bool.and_eq_true] at h
    rw [hlist, List.mem_cons, not_or]
    refine ⟨?_, fun hmem => ?_⟩
    · rintro rfl
      exact absurd h.1 (by decide)
    · exact absurd (List.all_eq_true.1 h.2 _ hmem) (by decide)

theorem spelled_part {name : String} (h : name ≠ "") : (N.part name).Spelled := by
  unfold part
  split
  next hbare =>
    rw [Bool.and_eq_true] at hbare
    have hsmall := hbare.1
    unfold isSmallName at hsmall
    split at hsmall
    next => cases hsmall
    next c rest hlist =>
      rw [Bool.and_eq_true] at hsmall
      exact ⟨c, rest, hlist, isNameStart_of_small hsmall.1,
        fun d hd => isNameRest_of_small (List.all_eq_true.1 hsmall.2 d hd)⟩
  next => exact h

theorem mem_toList_part {name : String} {c : Char} (h : c ∈ (N.part name).sql.toList) :
    c ∈ name.toList ∨ c = '"' := by
  unfold part at h
  split at h
  next => exact .inl h
  next =>
    exact Sql.mem_quoteName h

/-- What is printed is read as what it was printed for. -/
theorem parse_printed (h : N.has t) : Identifier.parse (N.printed t) = .ok (N.identifier t) := by
  obtain ⟨⟨hschema, hschemaNul, -⟩, hname, hnameNul, -⟩ := N.named t h
  have hnul : ∀ name, '\x00' ∉ name.toList → '\x00' ∉ (N.part name).sql.toList := by
    intro name hname hmem
    obtain hmem | hmem := N.mem_toList_part hmem
    · exact hname hmem
    · cases hmem
  unfold printed
  unfold identifier
  split
  next =>
    refine Identifier.parse_sql (List.cons_ne_nil _ _) ?_ ?_
    · intro p hp
      obtain rfl := List.mem_singleton.1 hp
      exact N.spelled_part hname
    · unfold Identifier.sql
      rw [List.map_cons, List.map_nil, String.intercalate_singleton]
      exact hnul _ hnameNul
  next =>
    refine Identifier.parse_sql (List.cons_ne_nil _ _) ?_ ?_
    · intro p hp
      obtain rfl | hp := List.mem_cons.1 hp
      · exact N.spelled_part hschema
      · obtain rfl := List.mem_singleton.1 hp
        exact N.spelled_part hname
    · unfold Identifier.sql
      rw [List.map_cons, List.map_cons, List.map_nil, String.intercalate_cons_cons,
        String.intercalate_singleton, String.toList_append, String.toList_append, List.mem_append,
        List.mem_append, not_or, not_or]
      exact ⟨⟨hnul _ hschemaNul, by decide⟩, hnul _ hnameNul⟩

/-- Either way of printing a name is quoted to the same. -/
theorem quote_part (name : String) : Sql.quote (N.part name).sql = Sql.quoteName name := by
  unfold part
  split
  next hbare =>
    rw [Bool.and_eq_true] at hbare
    exact Sql.quote_of_plain (not_mem_of_isSmallName hbare.1)
  next =>
    show Sql.quote (Sql.quoteName name) = _
    unfold Sql.quote
    have hbegins : Text.begins ['"'] (Sql.quoteName name).toList = true := by
      rw [Sql.quoteName_eq]
      rfl
    rw [hbegins]
    rfl

/-- A visible table is quoted to its name. -/
theorem quote_printed (h : N.IsVisible t) : Sql.quote (N.printed t) = Sql.quoteName t.name := by
  unfold printed identifier
  rw [if_pos h]
  unfold Identifier.sql
  rw [List.map_cons, List.map_nil, String.intercalate_singleton]
  exact N.quote_part t.name

/-! ## What labels are quoted to -/

theorem ofLabel?_of_quote {label name : String} (h : Sql.quote label = Sql.quoteName name) (hname : IsName name) :
    TableName.ofLabel? label = some ⟨none, name⟩ := by
  have hparse := Sql.parse_quoteName hname.1 hname.2.1
  unfold TableName.ofLabel?
  rw [h, hparse]
  exact if_pos hname

theorem quote_eq_of_ofLabel? {label name : String} (h : TableName.ofLabel? label = some ⟨none, name⟩) :
    Sql.quote label = Sql.quoteName name := by
  unfold TableName.ofLabel? at h
  split at h
  next part hparse =>
    split at h
    next =>
      obtain rfl := (TableName.mk.inj (Option.some.inj h)).2
      cases part with
      | bare name => exact absurd (Sql.mem_quote label) (Sql.not_mem_of_parse_bare hparse)
      | quoted name => exact Sql.eq_sql_of_parse hparse
    next => cases h
  next =>
    split at h
    next => cases h
    next => cases h
  next => cases h

/-- A label is quoted to the name of a visible table exactly if it names that table and no schema. -/
theorem quote_printed_iff (h : N.IsVisible t) (label : String) :
    Sql.quote label = Sql.quote (N.printed t) ↔
      ∃ n, TableName.ofLabel? label = some n ∧ n.schema = none ∧ N.resolve n = some t := by
  rw [N.quote_printed h]
  constructor
  · intro hquote
    exact ⟨_, ofLabel?_of_quote hquote (N.named t (N.has_of_find? h)).2, rfl, h⟩
  · rintro ⟨⟨schema, name⟩, hlabel, rfl, hresolve⟩
    obtain rfl := N.name_of_find? hresolve
    exact quote_eq_of_ofLabel? hlabel

/-- What is printed for a visible table names it. -/
theorem resolve_printed (h : N.IsVisible t) :
    (TableName.ofLabel? (N.printed t)).bind N.resolve = some t := by
  obtain ⟨n, hlabel, -, hresolve⟩ := (N.quote_printed_iff h (N.printed t)).1 rfl
  rw [hlabel]
  exact hresolve

end Namespace

end DeclaredTriggers
