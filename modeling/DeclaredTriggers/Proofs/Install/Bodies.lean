import DeclaredTriggers.Proofs.Condition.Comparison
import DeclaredTriggers.Proofs.Sql.DollarQuotes
import DeclaredTriggers.Trigger.Kind

/-!
# A caller's texts in the bodies of functions

The body of a trigger's function is fixed text and a caller's texts: names of tables and columns, a value,
states. Each is written as a name or a literal, and none of these ways of writing does anything about dollar
signs. So the body has two of them next to each other where one of these texts does:

> `Kind.occurs_body`: a body holds a pair of dollar signs if and only if one of the texts that its kind
> inserts does.
-/

namespace DeclaredTriggers

open Text (occurs occurs_behind occurs_around occurs_in_front)

/-! ## Values -/

/-- The text that a value brings with it. -/
def Value.spelled : Value → String
  | .text s => s
  | .null | .bool _ | .int _ | .float _ => ""

theorem IsNumeral.occurs_eq {digits : List Char} (h : IsNumeral digits) :
    occurs ['$', '$'] digits = false ∧ occurs ['$', '$'] ('-' :: digits) = false := by
  have hmem : '$' ∉ digits := by
    intro hmem
    have hnumber := h.rest _ hmem
    revert hnumber
    decide
  exact ⟨Text.occurs_of_not_mem hmem, Text.occurs_of_not_mem (by simp [hmem])⟩

theorem Value.occurs_sql {v : Value} {text : String} (h : v.sql = .ok text) :
    occurs ['$', '$'] text.toList = occurs ['$', '$'] v.spelled.toList := by
  have hnumber : v.side = .number text → occurs ['$', '$'] text.toList = false := by
    intro hside
    obtain ⟨digits, hdigits, htext | htext⟩ := Value.exists_numeral h hside
    · exact htext ▸ hdigits.occurs_eq.1
    · exact htext ▸ hdigits.occurs_eq.2
  cases v with
  | null =>
    obtain rfl := Except.ok.inj h
    rfl
  | bool b =>
    obtain rfl := Except.ok.inj h
    cases b <;> rfl
  | int i => exact hnumber (Value.side_of_number h (.inl ⟨i, rfl⟩))
  | float x => exact hnumber (Value.side_of_number h (.inr ⟨x, rfl⟩))
  | text s => exact Sql.occurs_quoteLiteral h

/-! ## Bodies -/

namespace Kind

/-- The texts of a caller's that a kind writes into the body of its function. -/
def insertions (k : Kind) (e : Entity) (op : Operation) : List String :=
  match k with
  | .custom body => [body]
  | .protect | .readOnly .. => [Text.lowercase op.display]
  | .softDelete field value => [e.table, (e.column? field).getD field, value.spelled, e.primaryKey]
  | .stateMachine field transitions =>
    (e.column? field).getD field :: field :: transitions.flatMap fun (a, b) => [a, b]
  | .searchVector .. => []

theorem occurs_transitionArray (transitions : List (String × String)) :
    occurs ['$', '$'] (transitionArray transitions).toList =
      (transitions.flatMap fun (a, b) => [a, b]).any fun x => occurs ['$', '$'] x.toList := by
  have hpair : ∀ a b : String, occurs ['$', '$'] (a ++ ":" ++ b).toList =
      [a, b].any fun x => occurs ['$', '$'] x.toList := by
    intro a b
    rw [String.toList_append, String.toList_append, List.append_assoc, occurs_around (by decide) (by decide),
      List.any_cons, List.any_cons, List.any_nil, Bool.or_false]
  unfold transitionArray
  rw [String.toList_append, String.toList_append, List.append_assoc, occurs_behind (by decide),
    occurs_in_front (by decide) (by decide), Text.occurs_intercalate (by decide) (by decide), List.any_map,
    List.any_flatMap]
  exact congrArg _ (funext fun (a, b) => hpair a b)

theorem occurs_machineBody (column array field : String) :
    occurs ['$', '$'] (machineBody column array field).toList =
      (occurs ['$', '$'] column.toList || (occurs ['$', '$'] field.toList ||
        occurs ['$', '$'] array.toList)) := by
  unfold machineBody
  simp (disch := decide) only [toString, String.toList_append, List.append_assoc, occurs_behind,
    occurs_around, occurs_in_front, Text.occurs_quotesDoubled]
  -- the column is written six times
  cases occurs ['$', '$'] column.toList <;> cases occurs ['$', '$'] field.toList <;>
    cases occurs ['$', '$'] array.toList <;> rfl

/-- A body holds a pair of dollar signs if and only if one of the texts that its kind inserts does. -/
theorem occurs_body {k : Kind} {e : Entity} {op : Operation} {text : String} (h : k.body e op = .ok text) :
    occurs ['$', '$'] text.toList = (k.insertions e op).any fun x => occurs ['$', '$'] x.toList := by
  have hraise : ∀ x : String, occurs ['$', '$'] ("RAISE EXCEPTION 'pgtrigger: Cannot " ++
      Text.quotesDoubled x ++ " rows from % table', TG_TABLE_NAME;").toList = occurs ['$', '$'] x.toList := by
    intro x
    rw [String.toList_append, String.toList_append, List.append_assoc, occurs_behind (by decide),
      occurs_in_front (by decide) (by decide), Text.occurs_quotesDoubled]
  cases k with
  | custom body =>
    obtain rfl := Except.ok.inj h
    simp [insertions]
  | protect =>
    obtain rfl := Except.ok.inj h
    rw [hraise]
    simp [insertions]
  | readOnly fields exclude =>
    obtain rfl := Except.ok.inj h
    rw [hraise]
    simp [insertions]
  | softDelete field value =>
    obtain ⟨column, hcolumn, hrest⟩ := exists_ok_of_bind h
    obtain ⟨literal, hliteral, htext⟩ := exists_ok_of_bind hrest
    obtain rfl := Except.ok.inj htext
    simp (disch := decide) only [toString, String.toList_append, List.append_assoc, occurs_behind,
      occurs_around, occurs_in_front, Sql.occurs_quote, Sql.occurs_quoteName, Value.occurs_sql hliteral,
      insertions, Entity.column?_of_column hcolumn, Option.getD_some, List.any_cons, List.any_nil,
      Bool.or_false, Bool.or_self]
  | stateMachine field transitions =>
    obtain ⟨column, hcolumn, hrest⟩ := exists_ok_of_bind h
    obtain ⟨array, harray, htext⟩ := exists_ok_of_bind hrest
    obtain rfl := Except.ok.inj htext
    rw [occurs_machineBody, Sql.occurs_quoteName, Sql.occurs_quoteLiteral harray, occurs_transitionArray,
      insertions, List.any_cons, List.any_cons, Entity.column?_of_column hcolumn, Option.getD_some]
  | searchVector vector documents config =>
    obtain rfl := Except.ok.inj h
    rfl

end Kind

end DeclaredTriggers
