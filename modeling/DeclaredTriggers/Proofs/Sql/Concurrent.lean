import DeclaredTriggers.Proofs.Sql.ControlWords
import DeclaredTriggers.Proofs.Sql.Fragments

/-!
# Concurrent index builds

An index is built concurrently by `CREATE INDEX CONCURRENTLY`, in any letter case, with blanks and comments
between the words and in front of them. A statement is taken for one (`isConcurrent`) if it begins with the letters
of the first word, behind blanks only, and those of the last occur somewhere in it:

> `Creates.isConcurrent_eq`: among the statements that create something, exactly those have no comment in front and
> have the letters in them, be it inside a string, a comment or a longer name.
-/

namespace DeclaredTriggers

/-! ## Texts inside texts -/

namespace Text

theorem begins_iff {lead s : List Char} : begins lead s ↔ lead <+: s := by
  unfold begins
  constructor
  · intro h
    obtain ⟨rest, hrest⟩ := Option.isSome_iff_exists.1 h
    rw [eq_append_of_strip? hrest]
    exact List.prefix_append lead rest
  · rintro ⟨rest, rfl⟩
    rw [strip?_append]
    rfl

theorem occurs_iff {part s : List Char} : occurs part s ↔ part <:+: s := by
  induction s with
  | nil =>
    cases part with
    | nil => exact iff_of_true rfl List.infix_rfl
    | cons c part => exact iff_of_false Bool.false_ne_true (by simp)
  | cons c s ih => rw [Sql.occurs_cons, Bool.or_eq_true, begins_iff, ih, List.infix_cons_iff]

/-- The blanks at the ends of a text are not part of what neither begins nor ends with one. -/
theorem infix_trim_iff {c d : Char} (hc : isBlank c = false) (hd : isBlank d = false) {a s : List Char} :
    c :: (a ++ [d]) <:+: trim s ↔ c :: (a ++ [d]) <:+: s := by
  constructor
  · exact fun h => (h.trans (Sql.trimEnd_leads _).isInfix).trans (List.dropWhile_suffix _).isInfix
  · rintro ⟨before, after, rfl⟩
    have hstart : ∃ before', trimStart (before ++ c :: (a ++ [d]) ++ after) =
        before' ++ c :: a ++ d :: after := by
      refine ⟨trimStart before, ?_⟩
      unfold trimStart
      rw [List.append_assoc, List.dropWhile_append, List.cons_append]
      split
      next hnil => rw [List.dropWhile_cons_of_neg (by simp [hc]), List.isEmpty_iff.1 hnil]; simp
      next => simp
    obtain ⟨before', hstart⟩ := hstart
    refine ⟨before', trimEnd after, ?_⟩
    unfold trim
    rw [hstart, Sql.trimEnd_append hd]
    simp

end Text

namespace Sql

open Text (isBlank trim trimStart trimEnd)

theorem lower_append (a b : List Char) : lower (a ++ b) = lower a ++ lower b := List.map_append

/-- Letters that are blank in no letter case are blanks in none. -/
theorem lower_trim (s : List Char) : lower (trim s) = trim (lower s) := by
  have hdrop : ∀ s : List Char, lower (s.dropWhile isBlank) = (lower s).dropWhile isBlank := by
    intro s
    rw [lower, lower, List.dropWhile_map, show isBlank ∘ Char.toLower = isBlank from funext isBlank_toLower]
  unfold trim trimStart trimEnd
  simp only [lower, List.map_reverse] at hdrop ⊢
  simp only [hdrop, List.map_reverse]

/-- A text that begins with a word loses blanks behind it only. -/
theorem trim_word {w : List Char} (hw : ∀ c ∈ w, isWordCharacter c = true) (hne : w ≠ []) (s : List Char) :
    trim (w ++ s) = w ++ trimEnd s := by
  obtain ⟨init, d, rfl⟩ := List.eq_nil_or_concat w |>.resolve_left hne
  have hd : isBlank d = false := (word_character (hw d (by simp))).1
  have hstart : trimStart (init.concat d ++ s) = init.concat d ++ s := by
    cases init with
    | nil => exact List.dropWhile_cons_of_neg (by simp [hd])
    | cons c init =>
      exact List.dropWhile_cons_of_neg (by simp [(word_character (hw c (by simp))).1])
  unfold trim
  rw [hstart, List.concat_eq_append, List.append_assoc, List.append_assoc, List.singleton_append,
    List.singleton_append, trimEnd_append hd]

/-! ## Blanks and comments -/

/-- What follows the opening of a block comment, up to its end. Comments in it have to end, too. -/
inductive InComment : List Char → Prop
  | close : InComment ['*', '/']
  | inner {a b : List Char} : InComment a → InComment b → InComment ('/' :: '*' :: (a ++ b))
  | other {c : Char} {s : List Char} : ¬['*', '/'] <+: c :: s → ¬['/', '*'] <+: c :: s → InComment s →
      InComment (c :: s)

/-- Blanks and comments, and whether there is a comment among them. -/
inductive Space : Bool → List Char → Prop
  | nil : Space false []
  | blank {commented : Bool} {c : Char} {s : List Char} : isBlank c → Space commented s → Space commented (c :: s)
  /-- A comment up to the end of the line. -/
  | line {commented : Bool} {body s : List Char} {c : Char} : (∀ d ∈ body, d ≠ '\n' ∧ d ≠ '\r') →
      (c = '\n' ∨ c = '\r') → Space commented s → Space true ('-' :: '-' :: (body ++ c :: s))
  | block {commented : Bool} {body s : List Char} : InComment body → Space commented s →
      Space true ('/' :: '*' :: (body ++ s))

namespace Space

variable {commented : Bool} {lead : List Char}

/-- Blanks are trimmed, up to the first comment. -/
theorem trimStart_append (h : Space commented lead) (s : List Char) :
    if commented then ∃ c r, (c = '-' ∨ c = '/') ∧ trimStart (lead ++ s) = c :: r
    else trimStart (lead ++ s) = trimStart s := by
  induction h with
  | nil => rfl
  | blank hc _ ih =>
    rw [List.cons_append, show trimStart (_ :: _) = _ from List.dropWhile_cons_of_pos hc]
    exact ih
  | line => exact ⟨'-', _, .inl rfl, rfl⟩
  | block => exact ⟨'/', _, .inr rfl, rfl⟩

/-- No word goes on into it. -/
theorem not_word (h : Space commented lead) (hne : lead ≠ []) (s : List Char) :
    ∀ c ∈ (lead ++ s).head?, isWordCharacter c = false := by
  intro c hc
  cases h with
  | nil => exact absurd rfl hne
  | blank hblank =>
    obtain rfl := Option.some.inj hc
    refine Bool.eq_false_iff.2 fun hword => ?_
    rw [(word_character hword).1] at hblank
    cases hblank
  | line =>
    obtain rfl := Option.some.inj hc
    rfl
  | block =>
    obtain rfl := Option.some.inj hc
    rfl

end Space

/-! ## Statements that create something -/

/-- A text that begins with some words, in any letter case, with blanks or comments between them. -/
inductive BeginsWith : List String → List Char → Prop
  | last {word : String} {s : List Char} : startsWith word s → BeginsWith [word] s
  | more {commented : Bool} {word : String} {words : List String} {w gap s : List Char} :
      lower w = lower word.toList → Space commented gap → gap ≠ [] → BeginsWith words s →
      BeginsWith (word :: words) (w ++ (gap ++ s))

theorem BeginsWith.startsWith {word : String} {words : List String} {s : List Char}
    (h : BeginsWith (word :: words) s) : startsWith word s := by
  cases h with
  | last h => exact h
  | more hw hgap hne _ => exact startsWith_iff.2 ⟨_, _, rfl, hw, hgap.not_word hne _⟩

theorem BeginsWith.infix {words : List String} {s : List Char} (h : BeginsWith words s) :
    ∀ word ∈ words, lower word.toList <:+: lower s := by
  induction h with
  | last h =>
    intro word hword
    obtain rfl := List.mem_singleton.1 hword
    obtain ⟨w, r, rfl, hw, -⟩ := startsWith_iff.1 h
    rw [lower_append, hw]
    exact (List.prefix_append _ _).isInfix
  | @more _ first words w gap s hw _ _ _ ih =>
    intro word hword
    rw [lower_append]
    rcases List.mem_cons.1 hword with rfl | hword
    · rw [hw]
      exact (List.prefix_append _ _).isInfix
    · refine (ih word hword).trans (List.IsSuffix.isInfix ?_)
      rw [lower_append, ← List.append_assoc]
      exact List.suffix_append _ _

/-- A statement that creates something, behind blanks and comments; `commented` says whether a comment is among
them. -/
def Creates (commented : Bool) (s : List Char) : Prop :=
  ∃ lead body, s = lead ++ body ∧ Space commented lead ∧ startsWith "CREATE" body

/-- A statement that builds an index concurrently, behind blanks and comments. -/
def BuildsConcurrently (commented : Bool) (s : List Char) : Prop :=
  ∃ lead body, s = lead ++ body ∧ Space commented lead ∧
    (BeginsWith ["CREATE", "INDEX", "CONCURRENTLY"] body ∨
      BeginsWith ["CREATE", "UNIQUE", "INDEX", "CONCURRENTLY"] body)

theorem BuildsConcurrently.creates {commented : Bool} {s : List Char} (h : BuildsConcurrently commented s) :
    Creates commented s := by
  obtain ⟨lead, body, rfl, hlead, hbody⟩ := h
  refine ⟨lead, body, rfl, hlead, ?_⟩
  rcases hbody with hbody | hbody
  · exact hbody.startsWith
  · exact hbody.startsWith

/-- The letters that a concurrent build is told by. -/
theorem BuildsConcurrently.infix {commented : Bool} {s : List Char} (h : BuildsConcurrently commented s) :
    "concurrently".toList <:+: lower s := by
  obtain ⟨lead, body, rfl, -, hbody⟩ := h
  have hword : "concurrently".toList <:+: lower body := by
    rcases hbody with hbody | hbody
    · exact hbody.infix "CONCURRENTLY" (by simp)
    · exact hbody.infix "CONCURRENTLY" (by simp)
  refine hword.trans ?_
  rw [lower_append]
  exact (List.suffix_append _ _).isInfix

/-- Which of the statements that create something are taken for concurrent: those without a comment in front that
have the letters anywhere. -/
theorem Creates.isConcurrent_eq {commented : Bool} {s : List Char} (h : Creates commented s) :
    isConcurrent s = (!commented && decide ("concurrently".toList <:+: lower s)) := by
  have hoccurs : Text.occurs "concurrently".toList (lower (trim s)) =
      decide ("concurrently".toList <:+: lower s) := by
    rw [Bool.eq_iff_iff, decide_eq_true_iff, Text.occurs_iff, lower_trim]
    exact Text.infix_trim_iff (c := 'c') (d := 'y') (a := "oncurrentl".toList) rfl rfl
  have hbegins : Text.begins "create".toList (lower (trim s)) = !commented := by
    obtain ⟨lead, body, rfl, hlead, hbody⟩ := h
    have hstart := hlead.trimStart_append body
    unfold trim
    cases commented with
    | true =>
      obtain ⟨c, r, hc, hstart⟩ := hstart
      rw [hstart]
      rcases hc with rfl | rfl
      · rw [show trimEnd ('-' :: r) = _ from trimEnd_append (a := []) rfl r]
        rfl
      · rw [show trimEnd ('/' :: r) = _ from trimEnd_append (a := []) rfl r]
        rfl
    | false =>
      rw [show trimStart (lead ++ body) = trimStart body from hstart]
      obtain ⟨w, r, rfl, hw, -⟩ := startsWith_iff.1 hbody
      have hne : w ≠ [] := by
        rintro rfl
        cases hw
      have hword : isWord "CREATE" := rfl
      have htrim := trim_word (isWordCharacter_of_lower hword hw) hne r
      rw [show trimEnd (trimStart (w ++ r)) = w ++ trimEnd r from htrim, lower_append, hw]
      exact Text.begins_iff.2 (List.prefix_append _ _)
  show (Text.begins "create".toList (lower (trim s)) && Text.occurs "concurrently".toList (lower (trim s))) = _
  rw [hbegins, hoccurs]

theorem BuildsConcurrently.isConcurrent_eq {commented : Bool} {s : List Char} (h : BuildsConcurrently commented s) :
    isConcurrent s = !commented := by
  rw [h.creates.isConcurrent_eq, decide_eq_true h.infix, Bool.and_true]

/-! ## What is taken for a statement -/

/-- Where blanks are all that is left, no segment holds a statement. -/
theorem filter_segments_of_blank {segs : List (List Char)} (h : (trim (joinSegments segs)).isEmpty) :
    (segs.map trim).filter (!·.isEmpty) = [] := by
  match segs with
  | [] => rfl
  | [s] =>
    have hs : (trim s).isEmpty := h
    rw [List.map_cons, List.map_nil, List.filter_cons_of_neg (by simp [hs])]
    rfl
  | s :: t :: segs =>
    -- the semicolon between two segments is no blank
    have hmem : ';' ∈ joinSegments (s :: t :: segs) := by simp [joinSegments]
    have hfull : (joinSegments (s :: t :: segs)).any fun c => !isBlank c := List.any_eq_true.2 ⟨';', hmem, rfl⟩
    exact absurd (List.isEmpty_iff.1 h) (trim_ne_nil hfull)

/-- A text that is not cut behind its first statement has no other. -/
theorem statements_of_uncut {s : List Char} (h : splitStatement? s = none) :
    statements s = [] ∨ ∃ st, statements s = [st] := by
  have hall : ∀ segs,
      (∀ head others, splitSegments segs = some (head, others) → (trim (joinSegments others)).isEmpty) →
      (segs.map trim).filter (!·.isEmpty) = [] ∨ ∃ st, (segs.map trim).filter (!·.isEmpty) = [st] := by
    intro segs
    induction segs with
    | nil => exact fun _ => .inl rfl
    | cons t segs ih =>
      intro hblank
      rw [List.map_cons, List.filter_cons]
      by_cases ht : (trim t).isEmpty
      · rw [if_neg (by simp [ht])]
        refine ih fun head others hsplit => ?_
        cases segs with
        | nil => cases hsplit
        | cons u segs => exact hblank _ others (by rw [splitSegments, if_pos ht, hsplit]; rfl)
      · rw [if_pos (by simpa using ht)]
        cases segs with
        | nil => exact .inr ⟨_, rfl⟩
        | cons u segs =>
          have hrest := hblank _ (u :: segs) (by rw [splitSegments, if_neg ht])
          exact .inr ⟨_, by rw [filter_segments_of_blank hrest]⟩
  refine hall (segments s) fun head others hsplit => ?_
  unfold splitStatement? at h
  rw [hsplit] at h
  simpa using h

end Sql

end DeclaredTriggers
