import DeclaredTriggers.Proofs.Sql.Splitting
import DeclaredTriggers.Sql.Quoting
import Mathlib.Data.List.DropRight

/-!
# Quoted texts under the scanner

What the library puts between quotes stays there: no character of a quoted name or of a plain
literal ends the statement it stands in. A statement that is written with such a text and a
semicolon is then a statement of its own in whatever batch it is put in front of (`Announces`).

> `through_quoteName`: behind a quoted name the scanner is where the name's last quote ends.
>
> `Announces.statement`: a closed text and a semicolon announce the statement that the text is.
-/

namespace DeclaredTriggers.Text

theorem trimEnd_trimEnd (s : List Char) : trimEnd (trimEnd s) = trimEnd s := by
  unfold trimEnd
  rw [List.reverse_reverse]
  exact congrArg List.reverse (List.dropWhile_idempotent _ _)

end DeclaredTriggers.Text

namespace DeclaredTriggers.Sql

open Text (trim trimStart trimEnd isBlank replaced)

/-! ## Texts in front of a batch -/

/-- `Announces p ds`: a batch behind `p` has the statements `ds` in front of its own. -/
def Announces (p : List Char) (ds : List (List Char)) : Prop :=
  ∀ rest, statements (p ++ rest) = ds ++ statements rest

namespace Announces

variable {p q : List Char} {ds es : List (List Char)}

theorem nil : Announces [] [] := fun _ => rfl

theorem append (hp : Announces p ds) (hq : Announces q es) : Announces (p ++ q) (ds ++ es) := by
  intro rest
  rw [List.append_assoc, hp, hq, List.append_assoc]

/-- A closed text and a semicolon announce the statement that the text is. -/
theorem statement {a : List Char} (h : isClosed a) : Announces (a ++ [';']) (statementOf a) := by
  intro rest
  rw [List.append_assoc, List.singleton_append, statements_closed h]

/-- On its own, such a text is just the statements it announces. -/
theorem statements_eq (hp : Announces p ds) : statements p = ds := by
  have := hp []
  rwa [List.append_nil, statements_nil, List.append_nil] at this

end Announces

/-! ## Blanks at the end -/

theorem trimEnd_append {a : List Char} {c : Char} (hc : isBlank c = false) (t : List Char) :
    trimEnd (a ++ c :: t) = a ++ c :: trimEnd t := by
  unfold trimEnd
  rw [List.reverse_append, List.reverse_cons, List.append_assoc, List.singleton_append,
    List.dropWhile_append]
  split
  next h =>
    rw [List.dropWhile_cons_of_neg (by simp [hc]), List.isEmpty_iff.1 h]
    simp
  next => simp

/-- A text with no blank at its ends, and something behind it. -/
theorem trim_append {c d : Char} {a : List Char} (hc : isBlank c = false) (hd : isBlank d = false)
    (t : List Char) : trim (c :: a ++ d :: t) = c :: a ++ d :: trimEnd t := by
  unfold trim trimStart
  rw [List.cons_append, List.dropWhile_cons_of_neg (by simp [hc]), ← List.cons_append,
    trimEnd_append hd]

theorem statementOf_append {c d : Char} {a : List Char} (hc : isBlank c = false)
    (hd : isBlank d = false) (t : List Char) :
    statementOf (c :: a ++ d :: t) = [c :: a ++ d :: trimEnd t] := by
  unfold statementOf
  rw [trim_append hc hd]
  rfl

/-! ## Quoted names -/

theorem through_doubled {q : Char} (hq : q ≠ ';') (s : List Char) :
    (Mode.quoted q).through (replaced q [q, q] s) = some (.quoted q) := by
  induction s with
  | nil => rfl
  | cons c s ih =>
    unfold replaced at ih ⊢
    rw [List.flatMap_cons]
    by_cases hc : c = q
    · subst hc
      rw [if_pos rfl, Mode.through_append]
      show ((Mode.quoted c).through [c, c]).bind _ = _
      have hpair : (Mode.quoted c).through [c, c] = some (.quoted c) := by
        simp [Mode.through, Mode.step, Mode.isTop, hq]
      rw [hpair]
      exact ih
    · rw [if_neg hc, Mode.through_append]
      have hone : (Mode.quoted q).through [c] = some (.quoted q) := by
        simp [Mode.through, Mode.step, Mode.isTop, hc]
      rw [hone]
      exact ih

/-- Behind a quoted name the scanner is where the name's last quote ends. -/
theorem through_quoteName (name : String) :
    Mode.plain.through (quoteName name).toList = some (.quoteEnd '"') := by
  unfold quoteName
  rw [String.toList_append, String.toList_append, String.toList_ofList, Mode.through_append,
    Mode.through_append]
  have hopen : Mode.plain.through ['"'] = some (.quoted '"') := by decide
  have hclose : (Mode.quoted '"').through ['"'] = some (.quoteEnd '"') := by decide
  rw [hopen, Option.bind_some, String.toList_ofList, through_doubled (by decide), Option.bind_some,
    hclose]

theorem through_names (names : List String) :
    Mode.plain.through (",".intercalate (names.map quoteName)).toList =
      some (if names.isEmpty then .plain else .quoteEnd '"') := by
  induction names with
  | nil => rfl
  | cons name names ih =>
    cases names with
    | nil => simpa using through_quoteName name
    | cons next names =>
      rw [List.map_cons, List.map_cons, String.intercalate_cons_cons, String.toList_append,
        String.toList_append, Mode.through_append, Mode.through_append, through_quoteName]
      have hcomma : (Mode.quoteEnd '"').through ",".toList = some .plain := by decide
      rw [Option.bind_some, hcomma, Option.bind_some]
      exact ih

/-- A list of quoted names ends with a quote. -/
theorem names_eq_append_quote {names : List String} (h : names ≠ []) :
    ∃ a, (",".intercalate (names.map quoteName)).toList = a ++ ['"'] := by
  induction names with
  | nil => exact absurd rfl h
  | cons name names ih =>
    cases names with
    | nil =>
      refine ⟨("\"" ++ String.ofList (replaced '"' ['"', '"'] name.toList)).toList, ?_⟩
      rw [List.map_singleton, String.intercalate_singleton, quoteName, String.toList_append]
      rfl
    | cons next names =>
      obtain ⟨a, ha⟩ := ih (by simp)
      refine ⟨(quoteName name).toList ++ ",".toList ++ a, ?_⟩
      rw [List.map_cons, List.map_cons, String.intercalate_cons_cons, String.toList_append,
        String.toList_append, List.append_assoc _ a, ← ha, List.map_cons]

/-! ## Plain literals -/

/-- A text without quotes stays inside them. -/
theorem through_unquoted {q : Char} {s : List Char} (h : q ∉ s) :
    (Mode.quoted q).through s = some (.quoted q) := by
  induction s with
  | nil => rfl
  | cons c s ih =>
    have hc : c ≠ q := fun hc => h (hc ▸ List.mem_cons_self)
    have hs : q ∉ s := fun hs => h (List.mem_cons_of_mem _ hs)
    unfold Mode.through
    rw [if_neg (by simp [Mode.isTop]), show (Mode.quoted q).step c = .quoted q from if_neg hc]
    exact ih hs

theorem through_literal {s : List Char} (h : '\'' ∉ s) :
    Mode.plain.through ('\'' :: s ++ ['\'']) = some (.quoteEnd '\'') := by
  rw [List.cons_append]
  show (Mode.quoted '\'').through (s ++ ['\'']) = _
  rw [Mode.through_append, through_unquoted h]
  rfl

end DeclaredTriggers.Sql
