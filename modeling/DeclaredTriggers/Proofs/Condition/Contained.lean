import DeclaredTriggers.Proofs.Condition.Tree
import DeclaredTriggers.Proofs.Sql.Fragments

/-!
# The text of a condition stays in its place

Whatever names and values a condition is declared with, its text ends no statement and leaves nothing open,
as long as no free SQL is in it. Names are quoted and texts are literals, and what stands between them is
fixed. The text also keeps this when blanks are trimmed off its ends, since it has none there (`Firm`).

> `Condition.firm`: the text of a condition without free SQL is firm.
-/

namespace DeclaredTriggers

open Sql (Mode isClosed)
open Text (isBlank trim)

/-! ## Firm texts -/

/-- A closed text with no blanks to trim off. -/
structure Firm (s : List Char) : Prop where
  closed : isClosed s
  first : s.head?.any fun c => !isBlank c
  last : s.getLast?.any fun c => !isBlank c

namespace Firm

variable {a b s : List Char}

theorem dropWhile_blanks (h : s.head?.any fun c => !isBlank c) : s.dropWhile isBlank = s := by
  obtain ⟨c, hhead, hc⟩ := (Option.any_eq_true _ _).1 h
  obtain ⟨s, rfl⟩ := List.head?_eq_some_iff.1 hhead
  exact List.dropWhile_cons_of_neg (by simpa using hc)

theorem trim_eq (h : Firm s) : trim s = s := by
  have hlast : s.reverse.head?.any fun c => !isBlank c := by
    rw [List.head?_reverse]
    exact h.last
  unfold trim Text.trimStart Text.trimEnd
  rw [dropWhile_blanks h.first, dropWhile_blanks hlast, List.reverse_reverse]

theorem any_head?_append {p : Char → Bool} (h : a.head?.any p) (b : List Char) : (a ++ b).head?.any p := by
  obtain ⟨c, hhead, hc⟩ := (Option.any_eq_true _ _).1 h
  rw [List.head?_append, hhead]
  exact hc

theorem any_getLast?_append {p : Char → Bool} (h : b.getLast?.any p) (a : List Char) :
    (a ++ b).getLast?.any p := by
  obtain ⟨c, hlast, hc⟩ := (Option.any_eq_true _ _).1 h
  rw [List.getLast?_append, hlast]
  exact hc

/-- A firm text and what goes on behind it. -/
theorem ending (ha : Firm a) (hhead : b.head?.any Mode.isNeutral) (hclosed : isClosed b)
    (hlast : b.getLast?.any fun c => !isBlank c) : Firm (a ++ b) :=
  ⟨Sql.isClosed_fragment ha.closed hhead hclosed, any_head?_append ha.first b, any_getLast?_append hlast a⟩

/-- A closed text between two fixed ones. -/
theorem framed {front back : List Char} (hs : isClosed s) (hfront : Mode.plain.through front = some .plain)
    (hfirst : front.head?.any fun c => !isBlank c) (hhead : back.head?.any Mode.isNeutral)
    (hback : isClosed back) (hlast : back.getLast?.any fun c => !isBlank c) :
    Firm (front ++ (s ++ back)) :=
  ⟨Sql.isClosed_append hfront (Sql.isClosed_fragment hs hhead hback), any_head?_append hfirst _,
    any_getLast?_append (any_getLast?_append hlast s) front⟩

theorem parenthesised (hs : isClosed s) : Firm ('(' :: s ++ [')']) :=
  show Firm (['('] ++ (s ++ [')'])) from
    framed hs (by decide) (by decide) (by decide) (by decide) (by decide)

end Firm

/-- Closed texts with fixed text between them. -/
theorem Sql.isClosed_intercalate {sep : String} (hsep : Mode.plain.through sep.toList = some .plain)
    (hhead : sep.toList.head?.any Mode.isNeutral) {texts : List String}
    (h : ∀ text ∈ texts, isClosed text.toList) : isClosed (sep.intercalate texts).toList := by
  induction texts with
  | nil => rfl
  | cons text texts ih =>
    have hone := h text List.mem_cons_self
    cases texts with
    | nil => rwa [String.intercalate_singleton]
    | cons next texts =>
      rw [String.intercalate_cons_cons, String.toList_append, String.toList_append, List.append_assoc]
      exact isClosed_fragment hone (Firm.any_head?_append hhead _)
        (isClosed_append hsep (ih fun t ht => h t (List.mem_cons_of_mem _ ht)))

/-- One firm text, or several between parentheses. -/
theorem firm_grouped {joiner : String} (hjoiner : Mode.plain.through joiner.toList = some .plain)
    (hhead : joiner.toList.head?.any Mode.isNeutral) {parts : List String}
    (h : ∀ part ∈ parts, Firm part.toList) : Firm (grouped joiner parts).toList := by
  have hparens : Firm ("(" ++ joiner.intercalate parts ++ ")").toList := by
    rw [String.toList_append, String.toList_append]
    exact .parenthesised (Sql.isClosed_intercalate hjoiner hhead fun part hpart => (h part hpart).closed)
  match parts with
  | [] => exact hparens
  | [part] => exact h part List.mem_cons_self
  | _ :: _ :: _ => exact hparens

/-! ## Values and columns -/

/-- What is known of a character of a number. -/
theorem number_character {c : Char} (h : Sql.Expression.isNumberRest c) :
    isBlank c = false ∧ c ≠ ';' ∧ Mode.start c = .plain := by
  have hne : ∀ d, Sql.Expression.isNumberRest d = false → c ≠ d := by
    rintro d hd rfl
    rw [h] at hd
    cases hd
  refine ⟨?_, hne _ (by decide), ?_⟩
  · rw [Bool.eq_false_iff]
    intro hblank
    have hnot := (Sql.Expression.Scan.delimiter (c := c) (by simp [Sql.Expression.isDelimiter, hblank])).2.1
    rw [h] at hnot
    cases hnot
  · unfold Mode.start
    rw [if_neg (by simp [hne '\'' (by decide), hne '"' (by decide)]), if_neg (hne '-' (by decide)),
      if_neg (hne '/' (by decide)), if_neg (hne '$' (by decide))]

theorem through_numeral {digits : List Char} (h : ∀ c ∈ digits, Sql.Expression.isNumberRest c) :
    Mode.plain.through digits = some .plain := by
  induction digits with
  | nil => rfl
  | cons c digits ih =>
    obtain ⟨-, hc, hstart⟩ := number_character (h c List.mem_cons_self)
    unfold Mode.through
    rw [if_neg (by simp [hc])]
    show (Mode.start c).through digits = _
    rw [hstart]
    exact ih fun d hd => h d (List.mem_cons_of_mem _ hd)

/-- A number is firm, with a minus in front or without. -/
theorem IsNumeral.firm {digits : List Char} (h : IsNumeral digits) : Firm digits ∧ Firm ('-' :: digits) := by
  have hclosed := through_numeral h.rest
  obtain ⟨c, hhead, hc⟩ := (Option.any_eq_true _ _).1 h.first
  obtain ⟨rest, rfl⟩ := List.head?_eq_some_iff.1 hhead
  have hminus : Mode.plain.through ('-' :: c :: rest) = some .plain := by
    have hne : c ≠ '-' := by
      rintro rfl
      revert hc
      decide
    have hstep : Mode.dash.step c = Mode.plain.step c := if_neg hne
    show Mode.dash.through (c :: rest) = _
    rw [← hclosed, Mode.through, Mode.through, hstep]
    rfl
  have hlast : (c :: rest).getLast?.any fun c => !isBlank c := by
    have hmem := h.rest _ (List.getLast_mem (List.cons_ne_nil c rest))
    rw [List.getLast?_eq_some_getLast (List.cons_ne_nil _ _)]
    simp [(number_character hmem).1]
  refine ⟨⟨?_, ?_, hlast⟩, ⟨?_, rfl, Firm.any_getLast?_append hlast ['-']⟩⟩
  · unfold isClosed
    rw [hclosed]
    rfl
  · simp [(number_character (h.rest c List.mem_cons_self)).1]
  · unfold isClosed
    rw [hminus]
    rfl

theorem Sql.firm_quoteLiteral {text literal : String} (h : Sql.quoteLiteral text = .ok literal) :
    Firm literal.toList := by
  refine ⟨isClosed_quoteLiteral h, ?_, ?_⟩
  · rcases quoteLiteral_eq h with h | h <;>
      · rw [h]
        rfl
  · rcases quoteLiteral_eq h with h | h <;>
      · rw [h, List.getLast?_concat]
        rfl

/-- The text of a value is firm. -/
theorem Value.firm {v : Value} {text : String} (h : v.sql = .ok text) : Firm text.toList := by
  have hnumber : v.side = .number text → Firm text.toList := by
    intro hside
    obtain ⟨digits, hdigits, htext | htext⟩ := Value.exists_numeral h hside
    · exact htext ▸ hdigits.firm.1
    · exact htext ▸ hdigits.firm.2
  cases v with
  | null =>
    obtain rfl := Except.ok.inj h
    exact ⟨by decide, by decide, by decide⟩
  | bool b =>
    obtain rfl := Except.ok.inj h
    cases b <;> exact ⟨by decide, by decide, by decide⟩
  | int i => exact hnumber (Value.side_of_number h (.inl ⟨i, rfl⟩))
  | float x => exact hnumber (Value.side_of_number h (.inr ⟨x, rfl⟩))
  | text s => exact Sql.firm_quoteLiteral h

/-- A column of a row is firm. -/
theorem firm_column (r : Row) (name : String) : Firm (r.sql ++ "." ++ Sql.quoteName name).toList := by
  have hname := Sql.isClosed_quoteName name
  have hrow : Mode.plain.through (r.sql ++ ".").toList = some .plain := by cases r <;> decide
  refine ⟨?_, ?_, ?_⟩
  · rw [String.toList_append]
    exact Sql.isClosed_append hrow hname
  · rw [String.append_assoc, String.toList_append]
    exact Firm.any_head?_append (by cases r <;> decide) _
  · rw [String.toList_append, Sql.quoteName_eq]
    exact Firm.any_getLast?_append (Firm.any_getLast?_append (b := ['"']) rfl _) _

/-! ## Comparisons -/

theorem Lookup.firm_operandSql {e : Entity} {key : String} {operand : Operand} {text : String}
    (h : Lookup.operandSql e key operand = .ok text) : Firm text.toList := by
  cases operand with
  | value v => exact Value.firm h
  | values vs => cases h
  | field reference =>
    obtain ⟨⟨row, field⟩, -, hrest⟩ := exists_ok_of_bind h
    obtain ⟨name, -, htext⟩ := exists_ok_of_bind hrest
    obtain rfl := Except.ok.inj htext
    exact firm_column row name

/-- What is written for a kind of comparison is firm. -/
theorem Lookup.firm_comparison {e : Entity} {key : String} {r : Row} {name : String} {kind : LookupKind}
    {operand : Operand} {text : String}
    (h : Lookup.comparison e key (r.sql ++ "." ++ Sql.quoteName name) kind operand = .ok text) :
    Firm text.toList := by
  have hcolumn := firm_column r name
  unfold Lookup.comparison at h
  split at h
  next =>
    obtain rfl := Except.ok.inj h
    rw [String.toList_append]
    exact hcolumn.ending (by decide) (by decide) (by decide)
  next =>
    obtain rfl := Except.ok.inj h
    rw [String.toList_append]
    exact hcolumn.ending (by decide) (by decide) (by decide)
  next =>
    obtain rfl := Except.ok.inj h
    rw [String.toList_append]
    exact hcolumn.ending (by decide) (by decide) (by decide)
  next => cases h
  next => cases h
  next vs _ =>
    obtain ⟨items, hitems, hrest⟩ := exists_ok_of_bind h
    obtain rfl := Except.ok.inj hrest
    have hlist : isClosed (", ".intercalate items).toList := by
      refine Sql.isClosed_intercalate (by decide) (by decide) fun item hitem => ?_
      obtain ⟨v, -, hv⟩ := exists_of_mem_mapM hitems hitem
      exact (Value.firm hv).closed
    have hwhole : (r.sql ++ "." ++ Sql.quoteName name ++ " IN (" ++ ", ".intercalate items ++ ")").toList =
        (r.sql ++ "." ++ Sql.quoteName name).toList ++
          (" IN (".toList ++ ((", ".intercalate items).toList ++ ")".toList)) := by
      simp only [String.toList_append, List.append_assoc]
    rw [hwhole]
    refine hcolumn.ending (Firm.any_head?_append (a := " IN (".toList) (by decide) _) ?_ ?_
    · exact Sql.isClosed_append (by decide) (Sql.isClosed_fragment hlist (by decide) (by decide))
    · exact Firm.any_getLast?_append (Firm.any_getLast?_append (by decide) _) _
  next => cases h
  next m t =>
    obtain ⟨literal, hliteral, hrest⟩ := exists_ok_of_bind h
    have hfirm := Sql.firm_quoteLiteral hliteral
    split at hrest
    next =>
      obtain rfl := Except.ok.inj hrest
      have hback : isClosed ("::text) LIKE UPPER(".toList ++ (literal.toList ++ ")".toList)) :=
        Sql.isClosed_append (by decide) (Sql.isClosed_fragment hfirm.closed (by decide) (by decide))
      rw [String.toList_append, String.toList_append, String.toList_append, String.toList_append]
      simp only [List.append_assoc]
      exact .framed hcolumn.closed (by decide) (by decide)
        (Firm.any_head?_append (by decide) _) hback
        (Firm.any_getLast?_append (Firm.any_getLast?_append (by decide) _) _)
    next =>
      obtain rfl := Except.ok.inj hrest
      rw [String.toList_append, String.toList_append, List.append_assoc]
      exact hcolumn.ending (Firm.any_head?_append (by decide) _)
        (Sql.isClosed_append (by decide) hfirm.closed) (Firm.any_getLast?_append hfirm.last _)
  next => cases h
  next operand relation _ =>
    obtain ⟨right, hright, hrest⟩ := exists_ok_of_bind h
    obtain rfl := Except.ok.inj hrest
    have hfirm := Lookup.firm_operandSql hright
    have hrelation : Mode.plain.through (" ".toList ++ (relation.sql.toList ++ " ".toList)) = some .plain := by
      cases relation <;> decide
    have hlist : (r.sql ++ "." ++ Sql.quoteName name ++ " " ++ relation.sql ++ " " ++ right).toList =
        (r.sql ++ "." ++ Sql.quoteName name).toList ++
          ((" ".toList ++ (relation.sql.toList ++ " ".toList)) ++ right.toList) := by
      simp only [String.toList_append, List.append_assoc]
    rw [hlist]
    exact hcolumn.ending rfl (Sql.isClosed_append hrelation hfirm.closed)
      (Firm.any_getLast?_append hfirm.last _)

theorem Lookup.firm {l : Lookup} {e : Entity} {text : String} (h : l.sql e = .ok text) :
    Firm text.toList := by
  obtain ⟨⟨row, field, kind⟩, -, hrest⟩ := exists_ok_of_bind h
  simp only at hrest
  split at hrest
  next => cases hrest
  next =>
    obtain ⟨left, hleft, htext⟩ := exists_ok_of_bind hrest
    obtain ⟨name, -, hcolumn⟩ := exists_ok_of_bind hleft
    obtain rfl := Except.ok.inj hcolumn
    exact firm_comparison htext

theorem Change.firm {c : Change} {e : Entity} {text : String} (h : c.sql e = .ok text) :
    Firm text.toList := by
  obtain ⟨fields, -, hrest⟩ := exists_ok_of_bind h
  split at hrest
  next =>
    obtain rfl := Except.ok.inj hrest
    exact ⟨by decide, by decide, by decide⟩
  next =>
    obtain ⟨parts, hparts, htext⟩ := exists_ok_of_bind hrest
    obtain rfl := Except.ok.inj htext
    refine firm_grouped (by cases c.kind <;> decide) (by cases c.kind <;> decide) fun part hpart => ?_
    obtain ⟨field, -, hfield⟩ := exists_of_mem_mapM hparts hpart
    exact Lookup.firm hfield

/-! ## Conditions -/

namespace Condition

/-- The text of a condition without free SQL is firm. -/
theorem firm {e : Entity} {c : Condition} (hraw : ∀ s, .raw s ∉ c.parts) :
    ∀ text, c.sql e = .ok text → Firm text.toList := by
  induction c using induct with
  | raw s => exact absurd (mem_parts_self _) (hraw s)
  | lookup l =>
    intro text h
    rw [sql] at h
    exact Lookup.firm h
  | change c =>
    intro text h
    rw [sql] at h
    exact Change.firm h
  | group k cs ih =>
    intro text h
    obtain ⟨-, texts, htexts, rfl⟩ := sql_group_eq k h
    refine firm_grouped (by cases k <;> decide) (by cases k <;> decide) fun part hpart => ?_
    obtain ⟨c, hc, hsql⟩ := exists_of_mem_mapM htexts hpart
    exact ih c hc (fun s hs => hraw s (mem_parts_of_mem k hc hs)) part hsql
  | not c ih =>
    intro text h
    rw [sql] at h
    obtain ⟨part, hpart, htext⟩ := exists_ok_of_bind h
    obtain rfl := Except.ok.inj htext
    have hfirm := ih (fun s hs => hraw s (by rw [parts]; exact List.mem_cons_of_mem _ hs)) part hpart
    rw [String.toList_append, String.toList_append, List.append_assoc]
    exact .framed hfirm.closed (by decide) (by decide) (by decide) (by decide) (by decide)

end Condition

end DeclaredTriggers
