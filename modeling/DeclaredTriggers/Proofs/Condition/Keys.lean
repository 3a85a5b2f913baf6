import DeclaredTriggers.Proofs.Condition.Comparison
import DeclaredTriggers.Proofs.Sql.Concurrent

/-!
# Keys of lookups

A key is written row first: `old__` or `new__`, a field, and mostly a suffix behind another double underscore. It is
read from both ends. The row is a fixed text, so that it comes off in one way whatever the field begins with; and no
suffix holds an underscore, so that the last double underscore in front of one is its own whatever the field ends
with. What is left is the field, even if it is called like a suffix.

> `Lookup.decode_eq_ok_iff`: a key is read as exactly what it was written for.
>
> `Lookup.key_exact`: and then the comparison is one of the field's column in that row, or the field is said not to
> be one, whatever the operand.
-/

namespace DeclaredTriggers

open Sql.Expression

/-! ## The last place where a text occurs -/

namespace Text

variable {sep : List Char}

theorem eq_of_splitLast? {s before rest : List Char} (h : splitLast? sep s = some (before, rest)) :
    s = before ++ (sep ++ rest) := by
  induction s generalizing before with
  | nil =>
    obtain ⟨r, hr, he⟩ := Option.map_eq_some_iff.1 h
    cases he
    rw [List.nil_append]
    exact eq_append_of_strip? hr
  | cons c s ih =>
    rw [splitLast?] at h
    split at h
    next before' rest' hsplit =>
      cases h
      rw [ih hsplit, List.cons_append]
    next =>
      obtain ⟨r, hr, he⟩ := Option.map_eq_some_iff.1 h
      cases he
      rw [List.nil_append]
      exact eq_append_of_strip? hr

/-- The last place where a text occurs does not move if something is put in front. -/
theorem splitLast?_append {a b x y : List Char} (h : splitLast? sep b = some (x, y)) :
    splitLast? sep (a ++ b) = some (a ++ x, y) := by
  induction a with
  | nil => exact h
  | cons c a ih =>
    rw [List.cons_append, splitLast?, ih]
    rfl

theorem splitLast?_eq_none {s : List Char} (h : ¬sep <:+: s) : splitLast? sep s = none := by
  cases hsplit : splitLast? sep s with
  | none => rfl
  | some parts =>
    have hs := eq_of_splitLast? hsplit
    exact absurd ⟨parts.1, parts.2, by rw [hs, List.append_assoc]⟩ h

/-- A text is split at the last `sep` where none begins behind it. -/
theorem splitLast?_append_cons {c : Char} {b : List Char} (h : ¬c :: sep <:+: sep ++ b) (a : List Char) :
    splitLast? (c :: sep) (a ++ (c :: sep ++ b)) = some (a, b) := by
  have hlast : splitLast? (c :: sep) (c :: sep ++ b) = some ([], b) := by
    rw [List.cons_append, splitLast?, splitLast?_eq_none h, ← List.cons_append, strip?_append]
    rfl
  rw [splitLast?_append hlast, List.append_nil]

end Text

/-! ## Rows -/

theorem Row.split_lead (row : Row) (rest : String) : Row.split (row.lead ++ rest) = .ok (row, rest) := by
  unfold Row.split
  rw [String.toList_append]
  cases row with
  | old =>
    rw [Text.strip?_append]
    exact congrArg (Except.ok ∘ Prod.mk Row.old) String.ofList_toList
  | new =>
    have hold : Text.strip? Row.old.lead.toList (Row.new.lead.toList ++ rest.toList) = none := rfl
    rw [hold, Text.strip?_append]
    exact congrArg (Except.ok ∘ Prod.mk Row.new) String.ofList_toList

/-- A key is split behind the lead of a row, or refused. -/
theorem Row.split_cases (key : String) :
    (∃ row rest, key = row.lead ++ rest ∧ Row.split key = .ok (row, rest)) ∨
      Row.split key = .error (.invalidReference key) := by
  have hlead : ∀ (row : Row) rest, Text.strip? row.lead.toList key.toList = some rest →
      key = row.lead ++ String.ofList rest := by
    intro row rest h
    rw [← String.toList_inj, String.toList_append, String.toList_ofList]
    exact Text.eq_append_of_strip? h
  cases hold : Text.strip? Row.old.lead.toList key.toList with
  | some rest =>
    have hkey := hlead .old rest hold
    exact .inl ⟨_, _, hkey, hkey ▸ split_lead ..⟩
  | none =>
    cases hnew : Text.strip? Row.new.lead.toList key.toList with
    | some rest =>
      have hkey := hlead .new rest hnew
      exact .inl ⟨_, _, hkey, hkey ▸ split_lead ..⟩
    | none =>
      refine .inr ?_
      unfold Row.split
      rw [hold, hnew]
      rfl

/-! ## Suffixes -/

namespace LookupKind

theorem ofSuffix?_of_mem {suffix : String} {kind : LookupKind} (h : (suffix, kind) ∈ table) :
    ofSuffix? suffix = some kind := by
  have hall : ∀ p ∈ table, ofSuffix? p.1 = some p.2 := by decide
  exact hall _ h

theorem mem_of_ofSuffix? {suffix : String} {kind : LookupKind} (h : ofSuffix? suffix = some kind) :
    (suffix, kind) ∈ table := by
  obtain ⟨before, after, htable, -⟩ := List.lookup_eq_some_iff.1 h
  rw [htable]
  exact List.mem_append_right _ List.mem_cons_self

/-- No double underscore begins in front of a suffix and ends in it. -/
theorem not_infix_suffix {suffix : String} {kind : LookupKind} (h : (suffix, kind) ∈ table) :
    ¬['_', '_'] <:+: ['_'] ++ suffix.toList := by
  have hall : ∀ p ∈ table, ¬['_', '_'] <:+: ['_'] ++ p.1.toList := by decide
  exact hall _ h

end LookupKind

/-! ## What a key names -/

namespace Lookup

/-- What a key names. Without a suffix that is equality, and the field must not end in one. -/
inductive Names (row : Row) (field : String) : LookupKind → String → Prop
  | long {suffix : String} {kind : LookupKind} (h : (suffix, kind) ∈ LookupKind.table) :
    Names row field kind (row.lead ++ field ++ "__" ++ suffix)
  | short (h : ∀ shorter suffix kind, (suffix, kind) ∈ LookupKind.table → field ≠ shorter ++ "__" ++ suffix) :
    Names row field (.relation .equal) (row.lead ++ field)

theorem fieldAndKind_long {suffix : String} {kind : LookupKind} (h : (suffix, kind) ∈ LookupKind.table)
    (field : String) : fieldAndKind (field ++ "__" ++ suffix) = (field, kind) := by
  have hsplit : Text.splitLast? ['_', '_'] (field ++ "__" ++ suffix).toList =
      some (field.toList, suffix.toList) := by
    rw [String.toList_append, String.toList_append, List.append_assoc]
    exact Text.splitLast?_append_cons (LookupKind.not_infix_suffix h) field.toList
  unfold fieldAndKind
  rw [hsplit]
  simp only [String.ofList_toList, LookupKind.ofSuffix?_of_mem h]

theorem fieldAndKind_short {field : String}
    (h : ∀ shorter suffix kind, (suffix, kind) ∈ LookupKind.table → field ≠ shorter ++ "__" ++ suffix) :
    fieldAndKind field = (field, .relation .equal) := by
  unfold fieldAndKind
  split
  next shorter suffix hsplit =>
    split
    next kind hkind =>
      refine absurd ?_ (h (String.ofList shorter) _ kind (LookupKind.mem_of_ofSuffix? hkind))
      rw [← String.toList_inj, Text.eq_of_splitLast? hsplit]
      simp
    next => rfl
  next => rfl

/-- Whatever follows the row, it is a field with a suffix or one without. -/
theorem names_lead (row : Row) (rest : String) :
    Names row (fieldAndKind rest).1 (fieldAndKind rest).2 (row.lead ++ rest) := by
  by_cases h : ∃ shorter suffix kind, (suffix, kind) ∈ LookupKind.table ∧ rest = shorter ++ "__" ++ suffix
  · obtain ⟨field, suffix, kind, hmem, rfl⟩ := h
    rw [fieldAndKind_long hmem, ← String.append_assoc, ← String.append_assoc]
    exact .long hmem
  · have hshort : ∀ shorter suffix kind, (suffix, kind) ∈ LookupKind.table → rest ≠ shorter ++ "__" ++ suffix :=
      fun shorter suffix kind hmem hrest => h ⟨shorter, suffix, kind, hmem, hrest⟩
    rw [fieldAndKind_short hshort]
    exact .short hshort

theorem decode_lead (row : Row) (rest : String) : decode (row.lead ++ rest) = .ok (row, fieldAndKind rest) := by
  unfold decode
  rw [Row.split_lead]
  rfl

/-- A key is read as what it names. -/
theorem decode_eq_ok_iff {key : String} {row : Row} {field : String} {kind : LookupKind} :
    decode key = .ok (row, field, kind) ↔ Names row field kind key := by
  constructor
  · intro h
    rcases Row.split_cases key with ⟨row', rest, rfl, -⟩ | hsplit
    · rw [decode_lead] at h
      obtain ⟨rfl, hrest⟩ := Prod.mk.inj (Except.ok.inj h)
      have hnames := names_lead row' rest
      rwa [hrest] at hnames
    · unfold decode at h
      rw [hsplit] at h
      cases h
  · rintro (hmem | hshort)
    · rw [String.append_assoc, String.append_assoc, decode_lead, ← String.append_assoc, fieldAndKind_long hmem]
    · rw [decode_lead, fieldAndKind_short hshort]

theorem decode_of_no_lead {key : String} (h : ∀ (row : Row) rest, key ≠ row.lead ++ rest) :
    decode key = .error (.invalidReference key) := by
  rcases Row.split_cases key with ⟨row, rest, hkey, -⟩ | hsplit
  · exact absurd hkey (h row rest)
  · unfold decode
    rw [hsplit]
    rfl

/-! ## What is written for a key -/

section

variable {e : Entity} {key : String} {row : Row} {field : String} {kind : LookupKind}

theorem sql_of_names (h : Names row field kind key) (operand : Operand) :
    sql ⟨key, operand⟩ e =
      if Text.occurs ['_', '_'] field.toList then .error (.unknownField e.label field)
      else row.column e field >>= fun left => comparison e key left kind operand := by
  unfold sql
  rw [decode_eq_ok_iff.2 h]
  show (if Text.occurs ['_', '_'] field.toList then _ else _) = _
  split <;> rfl

/-- A field that an entity does not have is said not to be one, whatever it is compared with. -/
theorem sql_unresolved (h : Names row field kind key) (hcolumn : e.column? field = none) (operand : Operand) :
    sql ⟨key, operand⟩ e = .error (.unknownField e.label field) := by
  rw [sql_of_names h]
  split
  next => rfl
  next =>
    unfold Row.column Entity.column
    rw [hcolumn]
    rfl

theorem sql_resolved (h : Names row field kind key) {column : String} (hcolumn : e.column? field = some column)
    (hplain : ¬['_', '_'] <:+: field.toList) (operand : Operand) :
    sql ⟨key, operand⟩ e = comparison e key (row.sql ++ "." ++ Sql.quoteName column) kind operand := by
  rw [sql_of_names h, if_neg fun hoccurs => hplain (Text.occurs_iff.1 hoccurs)]
  unfold Row.column Entity.column
  rw [hcolumn]
  rfl

end

/-- A field without a double underscore does not end in a suffix. -/
theorem Names.of_plain (row : Row) {field : String} (h : ¬['_', '_'] <:+: field.toList) :
    Names row field (.relation .equal) (row.lead ++ field) := by
  refine .short fun shorter suffix kind hmem hfield => h ⟨shorter.toList, suffix.toList, ?_⟩
  rw [hfield, String.toList_append, String.toList_append]
  rfl

/-- What is written for a key is the comparison of a column in a row, and it is read as that. -/
def ComparesColumn (e : Entity) (key : String) (row : Row) (column : String) (kind : LookupKind) : Prop :=
  ∀ operand, sql ⟨key, operand⟩ e = comparison e key (row.sql ++ "." ++ Sql.quoteName column) kind operand ∧
    ∀ text, sql ⟨key, operand⟩ e = .ok text →
      ∃ us c, kind.comparison? e (.column row column) operand = some c ∧ Compares text.toList us c

theorem comparesColumn {e : Entity} {key : String} {row : Row} {field : String} {kind : LookupKind}
    (h : Names row field kind key) {column : String} (hcolumn : e.column? field = some column)
    (hplain : ¬['_', '_'] <:+: field.toList) : ComparesColumn e key row column kind := by
  intro operand
  have hsql := sql_resolved h hcolumn hplain operand
  exact ⟨hsql, fun text htext => LookupKind.reads (hsql ▸ htext)⟩

/-- A field that has no double underscore in its name is what is read off its keys, with or without a suffix, and
then its column is compared as the suffix says. A key that begins with neither row is refused, and a field that the
entity does not have is said not to be one, both whatever the operand. -/
theorem key_exact (e : Entity) :
    (∀ (row : Row) (field column : String), e.column? field = some column → ¬['_', '_'] <:+: field.toList →
      (∀ suffix kind, (suffix, kind) ∈ LookupKind.table →
        decode (row.lead ++ field ++ "__" ++ suffix) = .ok (row, field, kind) ∧
          ComparesColumn e (row.lead ++ field ++ "__" ++ suffix) row column kind) ∧
      decode (row.lead ++ field) = .ok (row, field, .relation .equal) ∧
        ComparesColumn e (row.lead ++ field) row column (.relation .equal)) ∧
    (∀ key operand, (∀ (row : Row) rest, key ≠ row.lead ++ rest) →
      sql ⟨key, operand⟩ e = .error (.invalidReference key)) ∧
    ∀ key row field kind operand, Names row field kind key → e.column? field = none →
      sql ⟨key, operand⟩ e = .error (.unknownField e.label field) := by
  refine ⟨fun row field column hcolumn hplain => ⟨fun suffix kind hmem => ?_, ?_⟩, fun key operand hkey => ?_,
    fun key row field kind operand hnames hcolumn => sql_unresolved hnames hcolumn operand⟩
  · have hnames : Names row field kind (row.lead ++ field ++ "__" ++ suffix) := .long hmem
    exact ⟨decode_eq_ok_iff.2 hnames, comparesColumn hnames hcolumn hplain⟩
  · have hnames := Names.of_plain row hplain
    exact ⟨decode_eq_ok_iff.2 hnames, comparesColumn hnames hcolumn hplain⟩
  · unfold sql
    rw [decode_of_no_lead hkey]
    rfl

/-- An entity with a field that is called like a suffix between underscores. -/
def scales : Entity :=
  { label := "depot.Scales", table := "scales", fields := [{ name := "_gt_", column := "weight" }] }

/-- Underscores at either end of a field stay with it, and an operand that is no value is not looked at where the
key is at fault. -/
theorem key_exact_scales :
    decode "old___gt___gte" = .ok (.old, "_gt_", .relation .greaterOrEqual) ∧
      decode "new___gt_" = .ok (.new, "_gt_", .relation .equal) ∧
      sql ⟨"old___gt___gte", .value (.int 3)⟩ scales = .ok "OLD.\"weight\" >= 3" ∧
      sql ⟨"_gt___gte", .values []⟩ scales = .error (.invalidReference "_gt___gte") ∧
      sql ⟨"new__gt__in", .values []⟩ scales = .error (.unknownField "depot.Scales" "gt") := by
  obtain ⟨hread, hrefused, hunknown⟩ := key_exact scales
  obtain ⟨hlong, -⟩ := hread .old "_gt_" "weight" (by decide) (by decide)
  obtain ⟨-, hshort, -⟩ := hread .new "_gt_" "weight" (by decide) (by decide)
  obtain ⟨hdecode, hcompares⟩ := hlong "gte" (.relation .greaterOrEqual) (by decide)
  refine ⟨hdecode, hshort, (hcompares (.value (.int 3))).1.trans (by decide +kernel), ?_, ?_⟩
  · refine hrefused _ _ fun row rest h => ?_
    have hfirst := congrArg (fun key => key.toList.head?) h
    cases row <;> exact absurd hfirst (by simp [Row.lead])
  · have hsuffix : ("in", LookupKind.oneOf) ∈ LookupKind.table := by decide
    exact hunknown "new__gt__in" .new "gt" .oneOf _ (.long hsuffix) (by decide)

end Lookup

end DeclaredTriggers
