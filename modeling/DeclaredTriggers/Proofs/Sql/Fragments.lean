import DeclaredTriggers.Proofs.Sql.Words
import DeclaredTriggers.Text.Search
import Mathlib.Data.List.TakeWhile

/-!
# Fragments under the scanner

A template is a fixed text with fragments of a caller's in it. Two things are asked of a fragment. One that
stands in the open has to be closed, and then what follows it is scanned as if it stood alone
(`through_fragment`). One that stands in a body between dollar signs must not have two of them next to each
other, and then the body goes on behind it (`through_inBody`).

> `announces_statement`: a template that ends in a semicolon and a line break announces the statement that
> it is without them.
-/

namespace DeclaredTriggers.Sql

open Text (isBlank trim trimStart trimEnd occurs begins)

namespace Mode

/-! ## Fragments in the open -/

/-- A mode between quotes that a text can have begun. -/
def IsReal : Mode → Prop
  | .quoted q | .quoteEnd q => q = '\'' ∨ q = '"'
  | _ => True

theorem isReal_ite {p : Prop} [Decidable p] {m m' : Mode} (h : m.IsReal) (h' : m'.IsReal) :
    (if p then m else m').IsReal := by
  split
  · exact h
  · exact h'

theorem isReal_start (c : Char) : (start c).IsReal := by
  unfold start
  split
  next h => simpa [IsReal] using h
  next => exact isReal_ite trivial (isReal_ite trivial (isReal_ite trivial trivial))

theorem isReal_step {m : Mode} (h : m.IsReal) (c : Char) : (m.step c).IsReal := by
  have hstart := isReal_start c
  cases m with
  | plain => exact hstart
  | dash | slash => exact isReal_ite trivial hstart
  | quoted _ => exact isReal_ite h h
  | quoteEnd _ => exact isReal_ite h hstart
  | line | block => exact isReal_ite trivial trivial
  | blockStar => exact isReal_ite trivial (isReal_ite trivial trivial)
  | tag _ => exact isReal_ite trivial (isReal_ite trivial hstart)
  | body _ left =>
    rcases left with _ | ⟨_ | ⟨_, _⟩⟩
    · trivial
    · exact isReal_ite trivial trivial
    · exact isReal_ite trivial trivial

theorem isReal_of_through {m m' : Mode} {s : List Char} (hm : m.IsReal)
    (h : m.through s = some m') : m'.IsReal := by
  induction s generalizing m with
  | nil => exact Option.some.inj h ▸ hm
  | cons c s ih =>
    unfold through at h
    split at h
    next => cases h
    next => exact ih (isReal_step hm c) h

/-- Whether a character begins nothing, wherever a statement may end. -/
def isNeutral (c : Char) : Bool :=
  start c = .plain && !isTagCharacter c && c ≠ '*' && c ≠ ';'

theorem step_neutral {m : Mode} (hm : m.IsReal) (htop : m.isTop) {c : Char} (hc : isNeutral c) :
    m.step c = .plain := by
  simp only [isNeutral, Bool.and_eq_true, decide_eq_true_eq, Bool.not_eq_true', ne_eq] at hc
  obtain ⟨⟨⟨hstart, htag⟩, hstar⟩, -⟩ := hc
  have hquotes : c ≠ '\'' ∧ c ≠ '"' ∧ c ≠ '-' ∧ c ≠ '$' := by
    refine ⟨?_, ?_, ?_, ?_⟩ <;> rintro rfl <;> revert hstart <;> decide
  cases m with
  | plain => exact hstart
  | dash => exact (if_neg hquotes.2.2.1).trans hstart
  | slash => exact (if_neg hstar).trans hstart
  | quoteEnd q =>
    refine (if_neg ?_).trans hstart
    rcases hm with rfl | rfl
    · exact hquotes.1
    · exact hquotes.2.1
  | tag sofar =>
    exact (if_neg hquotes.2.2.2).trans ((if_neg (by simp [htag])).trans hstart)
  | quoted _ | line | block | blockStar | body _ _ => cases htop

end Mode

/-- What follows a closed fragment is scanned as if it stood alone, if its first character begins nothing. -/
theorem through_fragment {s t : List Char} (h : isClosed s) (ht : t.head?.any Mode.isNeutral) :
    Mode.plain.through (s ++ t) = Mode.plain.through t := by
  obtain ⟨m, hm, htop⟩ := (Option.any_eq_true _ _).1 h
  have hreal : m.IsReal := Mode.isReal_of_through (m := .plain) trivial hm
  obtain ⟨c, hhead, hc⟩ := (Option.any_eq_true _ _).1 ht
  obtain ⟨t, rfl⟩ := List.head?_eq_some_iff.1 hhead
  rw [Mode.through_append, hm, Option.bind_some]
  have hplain : Mode.plain.step c = .plain := Mode.step_neutral (m := .plain) trivial rfl hc
  have hsemicolon : c ≠ ';' := by
    rintro rfl
    revert hc
    decide
  unfold Mode.through
  rw [if_neg (by simp [hsemicolon]), if_neg (by simp [hsemicolon]), hplain,
    Mode.step_neutral hreal htop hc]

/-! ## Fragments in a body -/

theorem occurs_cons (part : List Char) (c : Char) (s : List Char) :
    occurs part (c :: s) = (begins part (c :: s) || occurs part s) := by
  unfold occurs begins
  rw [Text.splitFirst?]
  cases Text.strip? part (c :: s) with
  | some _ => rfl
  | none => simp

/-- A text without two dollar signs next to each other does not end the body it stands in. -/
theorem through_body {s : List Char} (h : occurs ['$', '$'] s = false) {left : Option (List Char)}
    (hleft : left = none ∨ left = some [] ∧ s.head? ≠ some '$') :
    ∃ left', (left' = none ∨ left' = some []) ∧
      (Mode.body [] left).through s = some (.body [] left') := by
  induction s generalizing left with
  | nil => exact ⟨left, hleft.imp_right And.left, rfl⟩
  | cons c s ih =>
    rw [occurs_cons, Bool.or_eq_false_iff] at h
    unfold Mode.through
    rw [if_neg (by simp [Mode.isTop])]
    by_cases hc : c = '$'
    · subst hc
      have hnone : left = none := hleft.resolve_right fun hleft => hleft.2 rfl
      have hstep : (Mode.body [] left).step '$' = .body [] (some []) := by
        rw [hnone]
        rfl
      rw [hstep]
      refine ih h.2 (.inr ⟨rfl, fun hhead => ?_⟩)
      obtain ⟨rest, rfl⟩ := List.head?_eq_some_iff.1 hhead
      exact absurd h.1 (by simp [begins, Text.strip?])
    · have hstep : (Mode.body [] left).step c = .body [] none := by
        rcases hleft with rfl | ⟨rfl, -⟩ <;> simp [Mode.step, Mode.bodyStep, hc]
      rw [hstep]
      exact ih h.2 (.inl rfl)

/-- What follows such a text in a body is scanned as if it were not there, unless a dollar sign follows. -/
theorem through_inBody {s t : List Char} (h : occurs ['$', '$'] s = false)
    (ht : t.head?.any (· ≠ '$')) :
    (Mode.body [] none).through (s ++ t) = (Mode.body [] none).through t := by
  obtain ⟨left, hleft, hs⟩ := through_body h (.inl (Eq.refl none))
  obtain ⟨c, hhead, hc⟩ := (Option.any_eq_true _ _).1 ht
  obtain ⟨t, rfl⟩ := List.head?_eq_some_iff.1 hhead
  have hc : c ≠ '$' := by simpa using hc
  rw [Mode.through_append, hs, Option.bind_some]
  rcases hleft with rfl | rfl <;> simp [Mode.through, Mode.isTop, Mode.step, Mode.bodyStep, hc]

/-! ## Statements of a template -/

/-- A blank in front of a batch is not one of its statements. -/
theorem announces_blank {c : Char} (h : isBlank c) (hc : Mode.isNeutral c) : Announces [c] [] := by
  intro rest
  have hstart : c ≠ ';' ∧ Mode.start c = .plain := by
    simp only [Mode.isNeutral, Bool.and_eq_true, decide_eq_true_eq, ne_eq] at hc
    exact ⟨hc.2, hc.1.1.1⟩
  have hfirst : segmentsFrom .plain (c :: rest) =
      (c :: (segmentsFrom .plain rest).1, (segmentsFrom .plain rest).2) := by
    rw [segmentsFrom]
    simp [hstart.1, Mode.step, hstart.2]
  have htrim : ∀ s, trim (c :: s) = trim s := by
    intro s
    unfold trim trimStart
    rw [List.dropWhile_cons_of_pos h]
  show statements (c :: rest) = statements rest
  unfold statements segments
  rw [hfirst, List.map_cons, List.map_cons, htrim]

/-- A text that goes on in mode `m` up to a semicolon that ends a statement, and a line break. -/
def Closes (m : Mode) (s : List Char) : Prop :=
  ∃ a, s = a ++ [';', '\n'] ∧ (m.through a).any Mode.isTop

namespace Closes

variable {m n : Mode} {s t : List Char}

/-- A text that is there to be looked at. -/
theorem of_text (h : s = s.dropLast.dropLast ++ [';', '\n'])
    (hclosed : (m.through s.dropLast.dropLast).any Mode.isTop) : Closes m s := ⟨_, h, hclosed⟩

theorem append (hs : m.through s = some n) (ht : Closes n t) : Closes m (s ++ t) := by
  obtain ⟨a, rfl, ha⟩ := ht
  exact ⟨s ++ a, (List.append_assoc _ _ _).symm, by rwa [Mode.through_append, hs]⟩

theorem of_isClosed (h : isClosed s) : Closes .plain (s ++ [';', '\n']) := ⟨s, rfl, h⟩

/-- A fragment in front, in the open. -/
theorem fragment (hs : isClosed s) (hhead : t.head?.any Mode.isNeutral) (ht : Closes .plain t) :
    Closes .plain (s ++ t) := by
  obtain ⟨a, rfl, ha⟩ := ht
  refine ⟨s ++ a, (List.append_assoc _ _ _).symm, ?_⟩
  cases a with
  | nil => exact absurd hhead (by decide)
  | cons c a => rwa [through_fragment hs (by simpa using hhead)]

/-- A fragment in front, in a body. -/
theorem inBody (hs : occurs ['$', '$'] s = false) (hhead : t.head?.any (· ≠ '$'))
    (ht : Closes (.body [] none) t) : Closes (.body [] none) (s ++ t) := by
  obtain ⟨a, rfl, ha⟩ := ht
  refine ⟨s ++ a, (List.append_assoc _ _ _).symm, ?_⟩
  cases a with
  | nil => cases ha
  | cons c a => rwa [through_inBody hs (by simpa using hhead)]

end Closes

theorem trim_blanks {b : List Char} (h : ∀ c ∈ b, isBlank c) (s : List Char) : trim (b ++ s) = trim s := by
  unfold trim trimStart
  rw [List.dropWhile_append_of_pos h]

/-- A statement that no blank begins or ends, behind blanks. -/
theorem statementOf_blanks {b a : List Char} {c d : Char} (hb : ∀ x ∈ b, isBlank x)
    (hc : isBlank c = false) (hd : isBlank d = false) :
    statementOf (b ++ (c :: a ++ [d])) = [c :: a ++ [d]] := by
  unfold statementOf
  rw [trim_blanks hb, trim_append hc hd]
  rfl

theorem trimEnd_leads (s : List Char) : trimEnd s <+: s := by
  unfold trimEnd
  have h := List.reverse_prefix.2 (s.reverse.dropWhile_suffix isBlank)
  rwa [List.reverse_reverse] at h

/-- A template announces the statement that it is without the blanks around it. -/
theorem Closes.announces {b a t : List Char} {c d : Char} (h : Closes .plain (b ++ (c :: a ++ d :: t)))
    (hb : ∀ x ∈ b, isBlank x) (hc : isBlank c = false) (hd : isBlank d = false)
    (ht : ∃ init, t = init ++ [';', '\n']) :
    ∃ r, r <+: t ∧ Announces (b ++ (c :: a ++ d :: t)) [c :: a ++ d :: r] := by
  obtain ⟨init, rfl⟩ := ht
  obtain ⟨body, hbody, hclosed⟩ := h
  have hsame : body = b ++ (c :: a ++ d :: init) := by
    refine List.append_cancel_right (hbody.symm.trans ?_)
    simp
  refine ⟨trimEnd init, (trimEnd_leads init).trans (List.prefix_append _ _), ?_⟩
  have hall := (Announces.statement hclosed).append (announces_blank (c := '\n') (by decide) (by decide))
  have hone : statementOf body = [c :: a ++ d :: trimEnd init] := by
    rw [hsame]
    unfold statementOf
    rw [trim_blanks hb, trim_append hc hd]
    rfl
  rw [hone, List.append_nil, List.append_assoc] at hall
  rw [hbody]
  exact hall

/-- The statement that a text of the template is: the text up to its semicolon, without the blanks around it. -/
def statementIn (text : List Char) : List Char := trim text.dropLast.dropLast

theorem trim_ne_nil {s : List Char} (h : s.any fun c => !isBlank c) : trim s ≠ [] := by
  obtain ⟨c, hc, hblank⟩ := List.any_eq_true.1 h
  have hblank : ¬ isBlank c := by simpa using hblank
  have hstart : c ∈ trimStart s := by
    rw [← List.takeWhile_append_dropWhile (p := isBlank) (l := s)] at hc
    exact (List.mem_append.1 hc).resolve_left fun hc => hblank (List.mem_takeWhile_imp hc)
  intro hnil
  unfold trim trimEnd at hnil
  rw [List.reverse_eq_nil_iff, List.dropWhile_eq_nil_iff] at hnil
  exact hblank (hnil c (List.mem_reverse.2 hstart))

namespace Closes

variable {m : Mode} {s t : List Char}

theorem dropLast_ending (a : List Char) : (a ++ [';', '\n']).dropLast.dropLast = a := by
  rw [List.append_cons, List.dropLast_concat, List.dropLast_concat]

/-- What such a text is in front of the semicolon and the line break. -/
theorem ends (h : Closes m t) :
    t = t.dropLast.dropLast ++ [';', '\n'] ∧ (m.through t.dropLast.dropLast).any Mode.isTop := by
  obtain ⟨a, rfl, ha⟩ := h
  rw [dropLast_ending]
  exact ⟨rfl, ha⟩

theorem dropLast_append (h : Closes m t) (s : List Char) :
    (s ++ t).dropLast.dropLast = s ++ t.dropLast.dropLast := by
  obtain ⟨a, rfl, -⟩ := h
  rw [← List.append_assoc, dropLast_ending, dropLast_ending]

/-- A text of the template announces the statement that it is. -/
theorem announces_statementIn (h : Closes .plain (s ++ t)) (ht : Closes m t)
    (hfull : s.any fun c => !isBlank c) : Announces (s ++ t) [statementIn (s ++ t)] := by
  obtain ⟨hends, hclosed⟩ := h.ends
  have hall := (Announces.statement hclosed).append (announces_blank (c := '\n') (by decide) (by decide))
  have hone : statementOf (s ++ t).dropLast.dropLast = [statementIn (s ++ t)] := by
    have hne : trim (s ++ t).dropLast.dropLast ≠ [] := by
      refine trim_ne_nil ?_
      rw [ht.dropLast_append, List.any_append, hfull]
      rfl
    unfold statementOf statementIn
    rw [if_neg (by simpa using hne)]
  have hsame : (s ++ t).dropLast.dropLast ++ ([';'] ++ ['\n']) = s ++ t := hends.symm
  rwa [hone, List.append_nil, List.append_assoc, hsame] at hall

end Closes

/-! ## Names -/

/-- A trigger's identifier is closed, quoted or not. -/
theorem isClosed_triggerName (pgid : String) : isClosed (triggerName pgid).toList := by
  unfold isClosed triggerName
  split
  next hplain =>
    have hword : ∀ c ∈ pgid.toList, isWordCharacter c := by
      intro c hc
      have hone := List.all_eq_true.1 hplain c hc
      simp only [Bool.or_eq_true, decide_eq_true_eq] at hone
      unfold isWordCharacter Char.isAlphanum Char.isAlpha
      rcases hone with (h | h) | h <;> simp [h]
    rw [through_word hword]
    rfl
  next =>
    rw [through_quoteName]
    rfl

theorem isClosed_quoteName (name : String) : isClosed (quoteName name).toList := by
  unfold isClosed
  rw [through_quoteName]
  rfl

theorem quoteName_eq (name : String) :
    (quoteName name).toList = '"' :: Text.replaced '"' ['"', '"'] name.toList ++ ['"'] := by
  unfold quoteName
  rw [String.toList_append, String.toList_append,
    String.toList_ofList (l := Text.replaced '"' ['"', '"'] name.toList)]
  rfl

/-- A text in the open in front of a closed one. -/
theorem isClosed_append {s t : List Char} (hs : Mode.plain.through s = some .plain) (ht : isClosed t) :
    isClosed (s ++ t) := by
  unfold isClosed
  rw [Mode.through_append, hs]
  exact ht

/-- A closed text and one whose first character begins nothing. -/
theorem isClosed_fragment {s t : List Char} (hs : isClosed s) (hhead : t.head?.any Mode.isNeutral)
    (ht : isClosed t) : isClosed (s ++ t) := by
  unfold isClosed
  rw [through_fragment hs hhead]
  exact ht

theorem replaced_of_not_mem {c : Char} {cs s : List Char} (h : c ∉ s) : Text.replaced c cs s = s := by
  induction s with
  | nil => rfl
  | cons d s ih =>
    have hd : d ≠ c := fun hd => h (hd ▸ List.mem_cons_self)
    show (if d = c then cs else [d]) ++ Text.replaced c cs s = _
    rw [if_neg hd, ih fun hs => h (List.mem_cons_of_mem _ hs)]
    rfl

/-- A label without quotes is written as the name that it is. -/
theorem quote_of_plain {label : String} (h : '"' ∉ label.toList) : quote label = quoteName label := by
  have hbegins : ∀ s : List Char, '"' ∉ s → begins ['"'] s = false := by
    intro s hs
    cases s with
    | nil => rfl
    | cons c s =>
      have hc : '"' ≠ c := fun hc => hs (hc ▸ List.mem_cons_self)
      simp [begins, Text.strip?, hc]
  have hends : Text.ends ['"'] label.toList = false := hbegins _ (by simpa using h)
  unfold quote quoteName
  rw [hbegins _ h, hends, replaced_of_not_mem h, String.ofList_toList]
  rfl

/-! ## Literals -/

/-- What a literal is written as: the text between quotes with the quotes inside it doubled, and where there
are backslashes with those doubled as well. -/
theorem quoteLiteral_eq {text literal : String} (h : quoteLiteral text = .ok literal) :
    literal.toList = '\'' :: Text.replaced '\'' ['\'', '\''] text.toList ++ ['\''] ∨
      literal.toList = 'E' :: '\'' ::
        Text.replaced '\\' ['\\', '\\'] (Text.replaced '\'' ['\'', '\''] text.toList) ++ ['\''] := by
  unfold quoteLiteral at h
  simp only at h
  split at h
  next => cases h
  split at h
  next =>
    obtain rfl := Except.ok.inj h
    refine .inr ?_
    rw [String.toList_append, String.toList_append,
      String.toList_ofList (l := Text.replaced '\\' ['\\', '\\'] (Text.replaced '\'' ['\'', '\''] text.toList))]
    rfl
  next =>
    obtain rfl := Except.ok.inj h
    refine .inl ?_
    rw [String.toList_append, String.toList_append,
      String.toList_ofList (l := Text.replaced '\'' ['\'', '\''] text.toList)]
    rfl

/-- Doubling one character and doubling another can be done in either order. -/
theorem replaced_comm {c d : Char} (h : c ≠ d) (s : List Char) :
    Text.replaced c [c, c] (Text.replaced d [d, d] s) = Text.replaced d [d, d] (Text.replaced c [c, c] s) := by
  induction s with
  | nil => rfl
  | cons x s ih =>
    unfold Text.replaced at ih ⊢
    rw [List.flatMap_cons, List.flatMap_cons, List.flatMap_append, List.flatMap_append, ih]
    congr 1
    by_cases hc : x = c
    · subst hc
      simp [h]
    · by_cases hd : x = d
      · subst hd
        simp [hc]
      · simp [hc, hd]

/-- A literal is closed, in both forms of quotes. -/
theorem isClosed_quoteLiteral {text literal : String} (h : quoteLiteral text = .ok literal) :
    isClosed literal.toList := by
  have hliteral : ∀ s : List Char,
      isClosed ('\'' :: Text.replaced '\'' ['\'', '\''] s ++ ['\'']) := by
    intro s
    unfold isClosed
    show (((Mode.quoted '\'').through (Text.replaced '\'' ['\'', '\''] s ++ ['\''])).any Mode.isTop) = true
    rw [Mode.through_append, through_doubled (by decide)]
    rfl
  rcases quoteLiteral_eq h with h | h
  · rw [h]
    exact hliteral _
  · rw [h, replaced_comm (by decide)]
    exact isClosed_append (s := ['E']) (by decide) (hliteral _)

end DeclaredTriggers.Sql
