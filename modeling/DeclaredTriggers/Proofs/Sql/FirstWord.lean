import DeclaredTriggers.Sql.Control
import DeclaredTriggers.Sql.Scan

/-!
# The first word of a text

A text that holds one statement is that statement with blanks and semicolons around it
(`exists_around`). Nothing of this kind makes a keyword longer or another one, and none of it ends a
comment but the end of a line, behind which there is no word either. So where the statement does not
control a transaction, the text does not look as if it did:

> `ordinary_of_statements`: what one ordinary statement is sent in is taken for ordinary.

This holds for one statement only. The scanner and the reader of first words do not agree on where every
comment ends, so the first word of a text of several statements may be in any of them.
-/

namespace DeclaredTriggers.Sql

open Text (isBlank trim trimStart trimEnd)

/-- A text of blanks and semicolons. -/
def Around (t : List Char) : Prop := ∀ c ∈ t, isBlank c || c = ';'

namespace Around

variable {a b : List Char}

theorem append (ha : Around a) (hb : Around b) : Around (a ++ b) :=
  fun c hc => (List.mem_append.1 hc).elim (ha c) (hb c)

theorem semicolon (h : Around b) : Around (';' :: b) :=
  List.forall_mem_cons.2 ⟨by decide, h⟩

theorem of_suffix (h : Around b) (hs : a <:+ b) : Around a := fun c hc => h c (hs.subset hc)

end Around

/-! ## What is around a statement -/

/-- A text is what is left of it without blanks at its ends, and these. -/
theorem exists_blanks_trim (s : List Char) :
    ∃ a b, s = a ++ trim s ++ b ∧ (∀ c ∈ a, isBlank c) ∧ ∀ c ∈ b, isBlank c := by
  have htake : ∀ t : List Char, ∀ c ∈ t.takeWhile isBlank, isBlank c := fun t =>
    List.all_eq_true.1 List.all_takeWhile
  refine ⟨s.takeWhile isBlank, ((trimStart s).reverse.takeWhile isBlank).reverse, ?_, htake s, ?_⟩
  · have hend : trim s ++ ((trimStart s).reverse.takeWhile isBlank).reverse = trimStart s := by
      unfold trim trimEnd
      rw [← List.reverse_append, List.takeWhile_append_dropWhile, List.reverse_reverse]
    rw [List.append_assoc, hend]
    exact List.takeWhile_append_dropWhile.symm
  · exact fun c hc => htake _ c (List.mem_reverse.1 hc)

theorem exists_trim (s : List Char) : ∃ a b, s = a ++ trim s ++ b ∧ Around a ∧ Around b := by
  obtain ⟨a, b, hs, ha, hb⟩ := exists_blanks_trim s
  exact ⟨a, b, hs, fun c hc => by rw [ha c hc]; rfl, fun c hc => by rw [hb c hc]; rfl⟩

/-- What holds nothing but blanks. -/
theorem around_of_trim {s : List Char} (h : (trim s).isEmpty) : Around s := by
  obtain ⟨a, b, hs, ha, hb⟩ := exists_trim s
  rw [List.isEmpty_iff.1 h, List.append_nil] at hs
  rw [hs]
  exact ha.append hb

theorem joinSegments_cons (s : List Char) (segs : List (List Char)) :
    joinSegments (s :: segs) = s ++ if segs.isEmpty then [] else ';' :: joinSegments segs := by
  cases segs with
  | nil => exact (List.append_nil s).symm
  | cons => rfl

/-- Segments without a statement. -/
theorem around_joinSegments {segs : List (List Char)}
    (h : (segs.map trim).filter (!·.isEmpty) = []) : Around (joinSegments segs) := by
  induction segs with
  | nil => exact fun c hc => (nomatch hc)
  | cons s segs ih =>
    rw [List.map_cons, List.filter_cons] at h
    split at h
    next => cases h
    next hs =>
      rw [joinSegments_cons]
      refine (around_of_trim (by simpa using hs)).append ?_
      split
      next => exact fun c hc => (nomatch hc)
      next => exact (ih h).semicolon

/-- A text of one statement is that with blanks and semicolons around it. -/
theorem exists_around {t s : List Char} (h : statements t = [s]) :
    ∃ a b, t = a ++ s ++ b ∧ Around a ∧ Around b := by
  have hall : ∀ segs, (segs.map trim).filter (!·.isEmpty) = [s] →
      ∃ a b, joinSegments segs = a ++ s ++ b ∧ Around a ∧ Around b := by
    intro segs
    induction segs with
    | nil => exact fun h => (nomatch h)
    | cons u segs ih =>
      intro h
      rw [List.map_cons, List.filter_cons] at h
      rw [joinSegments_cons]
      split at h
      next =>
        -- the statement is here, and nothing comes behind it
        obtain ⟨rfl, hrest⟩ := List.cons.inj h
        obtain ⟨a, b, hu, ha, hb⟩ := exists_trim u
        refine ⟨a, b ++ if segs.isEmpty then [] else ';' :: joinSegments segs, ?_, ha, hb.append ?_⟩
        · rw [← List.append_assoc, ← hu]
        · split
          next => exact fun c hc => (nomatch hc)
          next => exact (around_joinSegments hrest).semicolon
      next hu =>
        obtain ⟨a, b, hsegs, ha, hb⟩ := ih h
        have hblank := around_of_trim (s := u) (by simpa using hu)
        cases segs with
        | nil => cases h
        | cons v segs =>
          refine ⟨u ++ ';' :: a, b, ?_, hblank.append ha.semicolon, hb⟩
          rw [hsegs]
          simp
  obtain ⟨a, b, hjoin, hab⟩ := hall (segments t) h
  exact ⟨a, b, (join_segments t).symm.trans hjoin, hab⟩

/-! ## Leads -/

theorem afterLead_between {c : Char} {rest : List Char}
    (hdash : ∀ r, c = '-' → rest = '-' :: r → False) (hslash : ∀ r, c = '/' → rest = '*' :: r → False)
    (hparen : c = '(' → False) : afterLead .between (c :: rest) =
      if isBlank c then afterLead .between rest else c :: rest := by
  rw [afterLead.eq_def]
  split
  next r _ heq =>
    obtain ⟨hc, hrest⟩ := List.cons.inj heq
    exact (hdash r hc hrest).elim
  next r _ heq =>
    obtain ⟨hc, hrest⟩ := List.cons.inj heq
    exact (hslash r hc hrest).elim
  next _ heq => exact (hparen (List.cons.inj heq).1).elim
  next heq =>
    obtain ⟨rfl, rfl⟩ := List.cons.inj heq
    rfl
  all_goals contradiction

/-- Inside a comment, what does not end it is passed over. -/
theorem afterLead_comment {c : Char} {rest : List Char} :
    ((c = '\n' → False) → afterLead .line (c :: rest) = afterLead .line rest) ∧
      ((c = '*' → False) → afterLead .block (c :: rest) = afterLead .block rest) ∧
      ((c = '/' → False) → (c = '*' → False) →
        afterLead .star (c :: rest) = afterLead .block rest) := by
  refine ⟨fun hline => ?_, fun hstar => ?_, fun hslash hstar => ?_⟩
  · rw [afterLead.eq_def]
    split
    all_goals try contradiction
    next heq => exact (hline (List.cons.inj heq).1).elim
    next heq => rw [(List.cons.inj heq).2]
  · rw [afterLead.eq_def]
    split
    all_goals try contradiction
    next heq => exact (hstar (List.cons.inj heq).1).elim
    next heq => rw [(List.cons.inj heq).2]
  · rw [afterLead.eq_def]
    split
    all_goals try contradiction
    next heq => exact (hslash (List.cons.inj heq).1).elim
    next heq => exact (hstar (List.cons.inj heq).1).elim
    next heq => rw [(List.cons.inj heq).2]

/-- What comes behind a lead ends the text. -/
theorem afterLead_suffix (m : Lead) (s : List Char) : afterLead m s <:+ s := by
  fun_induction afterLead m s with
  | case1 rest ih | case2 rest ih =>
    exact (ih.trans (List.suffix_cons _ _)).trans (List.suffix_cons _ _)
  | case3 _ ih | case6 _ ih | case8 _ ih | case10 _ ih | case11 _ ih =>
    exact ih.trans (List.suffix_cons _ _)
  | case4 c rest _ _ _ _ ih => exact ih.trans (List.suffix_cons _ _)
  | case7 c rest _ ih | case9 c rest _ ih => exact ih.trans (List.suffix_cons _ _)
  | case12 c rest _ _ ih => exact ih.trans (List.suffix_cons _ _)
  | case5 | case13 => exact List.suffix_rfl

/-- What stands behind a text goes on standing behind what comes after its lead. -/
theorem afterLead_append {t : List Char} (ht : Around t) (m : Lead) (s : List Char) :
    ∃ t', Around t' ∧ afterLead m (s ++ t) = afterLead m s ++ t' := by
  -- a character that is neither blank nor a semicolon does not come from behind
  have hhead : ∀ {c : Char} {r rest : List Char}, (isBlank c || c = ';') = false →
      rest ++ t = c :: r → ∃ r', rest = c :: r' := by
    intro c r rest hc h
    cases rest with
    | nil =>
      have hmem := ht c (by rw [show t = c :: r from h]; exact List.mem_cons_self)
      rw [hc] at hmem
      cases hmem
    | cons d rest => exact ⟨rest, by rw [(List.cons.inj h).1]⟩
  have hbetween : ∀ {c : Char} {rest : List Char},
      (∀ r, c = '-' → rest = '-' :: r → False) → (∀ r, c = '/' → rest = '*' :: r → False) →
      (c = '(' → False) → afterLead .between (c :: rest ++ t) =
        if isBlank c then afterLead .between (rest ++ t) else c :: rest ++ t := by
    intro c rest hdash hslash hparen
    refine afterLead_between (fun r hc hr => ?_) (fun r hc hr => ?_) hparen
    · obtain ⟨r', hr'⟩ := hhead (by decide) hr
      exact hdash r' hc hr'
    · obtain ⟨r', hr'⟩ := hhead (by decide) hr
      exact hslash r' hc hr'
  -- by the rules of the lead: where the text goes on, the same rule reads its next character
  fun_induction afterLead m s with
  | case1 _ ih | case2 _ ih | case3 _ ih | case6 _ ih | case8 _ ih | case10 _ ih | case11 _ ih =>
    exact ih
  | case4 c rest hdash hslash hparen hblank ih =>
    rw [hbetween hdash hslash hparen, if_pos hblank]
    exact ih
  | case5 c rest hdash hslash hparen hblank =>
    rw [hbetween hdash hslash hparen, if_neg hblank]
    exact ⟨t, ht, rfl⟩
  | case7 c rest hline ih =>
    rw [List.cons_append, afterLead_comment.1 hline]
    exact ih
  | case9 c rest hstar ih =>
    rw [List.cons_append, afterLead_comment.2.1 hstar]
    exact ih
  | case12 c rest hslash hstar ih =>
    rw [List.cons_append, afterLead_comment.2.2 hslash hstar]
    exact ih
  | case13 m => exact ⟨afterLead m t, ht.of_suffix (afterLead_suffix m t), rfl⟩

/-- In front of a text, blanks are a part of its lead, and behind a semicolon there is none. -/
theorem withoutLead_append {a : List Char} (ha : Around a) (s : List Char) :
    withoutLead (a ++ s) = withoutLead s ∨ ∃ r, withoutLead (a ++ s) = ';' :: r := by
  unfold withoutLead
  induction a with
  | nil => exact .inl rfl
  | cons c a ih =>
    obtain ⟨hc, ha⟩ := List.forall_mem_cons.1 ha
    have hne : ∀ {d : Char}, (isBlank d || d = ';') = false → c ≠ d := by
      rintro d hd rfl
      rw [hd] at hc
      cases hc
    rw [List.cons_append, afterLead_between (fun _ h => absurd h (hne (by decide)))
      (fun _ h => absurd h (hne (by decide))) (hne (by decide))]
    by_cases hblank : isBlank c
    · rw [if_pos hblank]
      exact ih ha
    · rw [if_neg hblank]
      have hsemicolon : c = ';' := by simpa [hblank] using hc
      exact .inr ⟨a ++ s, by rw [hsemicolon]⟩

/-! ## Words -/

/-- What stands around a statement has no letter in it. -/
theorem Around.letter {t : List Char} (h : Around t) {c : Char} (hc : c ∈ t) :
    c.toLower = c ∧ c.isLower = false ∧ isWordCharacter c = false := by
  have hc := h c hc
  -- there are few of these characters, so they are looked at one by one
  have hall : ∀ n ∈ List.range' 9 5 ++ [0x20, 0x3B, 0x85, 0xA0, 0x1680] ++ List.range' 0x2000 11 ++
      [0x2028, 0x2029, 0x202F, 0x205F, 0x3000],
      (Char.ofNat n).toLower = Char.ofNat n ∧ (Char.ofNat n).isLower = false ∧
        isWordCharacter (Char.ofNat n) = false := by decide
  have hlisted : c.toNat ∈ List.range' 9 5 ++ [0x20, 0x3B, 0x85, 0xA0, 0x1680] ++
      List.range' 0x2000 11 ++ [0x2028, 0x2029, 0x202F, 0x205F, 0x3000] := by
    simp only [isBlank, Bool.or_eq_true, Bool.and_eq_true, decide_eq_true_eq, beq_iff_eq] at hc
    simp only [List.mem_append, List.mem_range'_1, List.mem_cons, List.not_mem_nil, or_false]
    rcases hc with hc | rfl
    · omega
    · decide
  have hchar := hall c.toNat hlisted
  rwa [Char.ofNat_toNat] at hchar

/-- No keyword goes on behind a statement. -/
theorem stripWord?_append {word t : List Char} (hword : ∀ w ∈ word, w.toLower.isLower)
    (ht : Around t) (s : List Char) :
    stripWord? word (s ++ t) = (stripWord? word s).map (· ++ t) := by
  induction word generalizing s with
  | nil => rfl
  | cons w word ih =>
    obtain ⟨hw, hword⟩ := List.forall_mem_cons.1 hword
    cases s with
    | cons c s =>
      show (if c.toLower = w.toLower then _ else _) =
        Option.map _ (if c.toLower = w.toLower then _ else _)
      split
      next => exact ih hword s
      next => rfl
    | nil =>
      -- the statement ends inside the word, and what stands behind does not go on with it
      cases t with
      | nil => rfl
      | cons c t =>
        obtain ⟨hlower, hno, -⟩ := ht.letter List.mem_cons_self
        have hne : c.toLower ≠ w.toLower := by
          intro heq
          rw [← heq, hlower, hno] at hw
          cases hw
        exact if_neg hne

theorem startsWith_append {keyword : String} {t : List Char}
    (hkeyword : ∀ w ∈ keyword.toList, w.toLower.isLower) (ht : Around t) (s : List Char) :
    startsWith keyword (s ++ t) = startsWith keyword s := by
  unfold startsWith
  rw [stripWord?_append hkeyword ht]
  cases stripWord? keyword.toList s with
  | none => rfl
  | some r =>
    cases r with
    | cons c r => rfl
    | nil =>
      cases t with
      | nil => rfl
      | cons c t =>
        obtain ⟨-, -, hend⟩ := ht.letter List.mem_cons_self
        show (!isWordCharacter c) = true
        rw [hend]
        rfl

/-- The words that control a transaction. -/
def controlWords : List String :=
  ["BEGIN", "START", "COMMIT", "END", "ROLLBACK", "ABORT", "SAVEPOINT", "RELEASE"]

theorem ofStatement?_eq_none_iff {s : List Char} :
    Control.ofStatement? s = none ↔
      ∀ word ∈ controlWords, startsWith word (withoutLead s) = false := by
  unfold Control.ofStatement? controlWords
  simp only [List.forall_mem_cons, List.not_mem_nil, false_implies, implies_true, and_true]
  grind

/-- What one ordinary statement is sent in is taken for ordinary. -/
theorem ordinary_of_statements {t s : List Char} (h : statements t = [s])
    (hs : Control.ofStatement? s = none) : Control.ofStatement? t = none := by
  obtain ⟨a, b, rfl, ha, hb⟩ := exists_around h
  have hall : controlWords.all (fun word => word.toList.all fun w => w.toLower.isLower) = true := by
    decide
  have hletters : ∀ word ∈ controlWords, ∀ w ∈ word.toList, w.toLower.isLower := by
    simpa only [List.all_eq_true] using hall
  rw [ofStatement?_eq_none_iff] at hs ⊢
  rw [List.append_assoc]
  intro word hword
  rcases withoutLead_append ha (s ++ b) with hlead | ⟨r, hlead⟩
  · obtain ⟨b', hb', hback⟩ := afterLead_append hb .between s
    rw [hlead, show withoutLead (s ++ b) = withoutLead s ++ b' from hback,
      startsWith_append (hletters word hword) hb']
    exact hs word hword
  · -- a text that begins with a semicolon begins with no word
    rw [hlead]
    unfold controlWords at hword
    simp only [List.mem_cons, List.not_mem_nil, or_false] at hword
    rcases hword with rfl | rfl | rfl | rfl | rfl | rfl | rfl | rfl <;> rfl

end DeclaredTriggers.Sql
