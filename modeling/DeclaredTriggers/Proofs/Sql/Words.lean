import DeclaredTriggers.Proofs.Sql.Quoting
import DeclaredTriggers.Proofs.Trigger.Identifier
import DeclaredTriggers.Sql.Keyword

/-!
# Words under the scanner

A word is made of letters, digits and underscores. None of these is a quote, a comment, a blank or a
semicolon, so a word leaves the scanner where it is, and a statement that ends in one is a statement.

> `statements_word`: a text that ends in a word, with no semicolon and no quote before it, is one statement.
-/

namespace DeclaredTriggers.Sql

open Text (isBlank trim trimStart trimEnd)

/-- What is known of a character that can stand in a word. -/
theorem word_character {c : Char} (h : isWordCharacter c) :
    isBlank c = false ∧ c ≠ ';' ∧ Mode.start c = .plain := by
  have hall : ∀ n < 128, isWordCharacter (Char.ofNat n) → isBlank (Char.ofNat n) = false ∧
      Char.ofNat n ≠ ';' ∧ Mode.start (Char.ofNat n) = .plain := by decide
  refine forall_ascii (P := fun c => isWordCharacter c → isBlank c = false ∧ c ≠ ';' ∧
    Mode.start c = .plain) hall c ?_ h
  refine Definition.toNat_lt_of_isNameCharacter ?_
  unfold isWordCharacter at h
  unfold Definition.isNameCharacter
  rw [h]
  rfl

/-- A word leaves the scanner where it is. -/
theorem through_word {w : List Char} (h : ∀ c ∈ w, isWordCharacter c) :
    Mode.plain.through w = some .plain := by
  induction w with
  | nil => rfl
  | cons c w ih =>
    obtain ⟨-, hc, hstart⟩ := word_character (h c List.mem_cons_self)
    unfold Mode.through
    rw [if_neg (by simp [hc])]
    show (Mode.start c).through w = _
    rw [hstart]
    exact ih fun d hd => h d (List.mem_cons_of_mem _ hd)

/-- A text that begins with no blank and ends with none has none to lose. -/
theorem trim_of_ends {c d : Char} {s : List Char} (hc : isBlank c = false) (hd : isBlank d = false) :
    trim (c :: s ++ [d]) = c :: s ++ [d] := trim_append hc hd []

/-- A text that begins with neither a blank nor a semicolon holds a statement. -/
theorem statements_ne_nil {c : Char} (hc : isBlank c = false) (hsemi : c ≠ ';') (s : List Char) :
    statements (c :: s) ≠ [] := by
  have hfirst : segmentsFrom .plain (c :: s) =
      (c :: (segmentsFrom (Mode.start c) s).1, (segmentsFrom (Mode.start c) s).2) := by
    rw [segmentsFrom]
    simp [hsemi, Mode.step]
  have hfull : (trim (c :: (segmentsFrom (Mode.start c) s).1)).isEmpty = false := by
    unfold trim trimStart
    rw [List.dropWhile_cons_of_neg (by simp [hc])]
    have hend := trimEnd_append (a := []) hc (segmentsFrom (Mode.start c) s).1
    rw [List.nil_append] at hend
    rw [hend]
    rfl
  unfold statements segments
  rw [hfirst, List.map_cons, List.filter_cons_of_pos (by simp [hfull])]
  exact List.cons_ne_nil _ _

/-- A text that ends in a word, with no semicolon and no quote before it, is one statement. -/
theorem statements_word {c : Char} {lead w : List Char} (hc : isBlank c = false)
    (hlead : Mode.plain.through (c :: lead) = some .plain) (hw : ∀ d ∈ w, isWordCharacter d)
    (hne : w ≠ []) : statements (c :: lead ++ w) = [c :: lead ++ w] := by
  rw [statements_of_through (m := .plain)
    (by rw [Mode.through_append, hlead, Option.bind_some, through_word hw])]
  obtain ⟨init, d, rfl⟩ := List.eq_nil_or_concat w |>.resolve_left hne
  rw [List.concat_eq_append] at hw ⊢
  have hd := (word_character (hw d (by simp))).1
  have hsame : c :: lead ++ (init ++ [d]) = c :: (lead ++ init) ++ [d] := by simp
  rw [hsame]
  unfold statementOf
  rw [trim_of_ends hc hd]
  rfl

end DeclaredTriggers.Sql
