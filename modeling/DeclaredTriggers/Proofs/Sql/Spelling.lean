import DeclaredTriggers.Proofs.Sql.FirstWord
import DeclaredTriggers.Proofs.Sql.Words
import DeclaredTriggers.Sql.StatementKind

/-!
# The spelling of first words

A keyword is recognised in any letter case, and it ends where its word ends; so a text begins with one keyword
at most (`startsWith_unique`), and capitals or small letters make no difference to what a statement is taken
for (`Control.ofStatement?_lower`). What has lost its lead has none, so it does not matter how often a lead is
taken off.

> `StatementKind.ofStatement_eq_transaction_iff`: a statement is of the transaction kind exactly if it controls
> one.
-/

namespace DeclaredTriggers.Sql

open Text (isBlank trimStart)

/-! ## Small letters -/

/-- What holds of every character and itself, and of the capitals and their small letters, holds of every
character and its small letter. -/
theorem forall_toLower {P : Char → Char → Prop} (hsame : ∀ c, P c c)
    (hcapital : ∀ n < 26, P (Char.ofNat (65 + n)) (Char.ofNat (65 + n)).toLower) (c : Char) : P c c.toLower := by
  by_cases hupper : c.val ≥ 'A'.val ∧ c.val ≤ 'Z'.val
  · have hfirst : 65 ≤ c.toNat := UInt32.le_iff_toNat_le.1 hupper.1
    have hlast : c.toNat ≤ 90 := UInt32.le_iff_toNat_le.1 hupper.2
    have hall := hcapital (c.toNat - 65) (by omega)
    rwa [show 65 + (c.toNat - 65) = c.toNat by omega, Char.ofNat_toNat] at hall
  · have hlower : c.toLower = c := dif_neg hupper
    rw [hlower]
    exact hsame c

theorem toLower_toLower (c : Char) : c.toLower.toLower = c.toLower :=
  forall_toLower (P := fun c d => d.toLower = c.toLower) (fun _ => rfl) (by decide) c

theorem isWordCharacter_toLower (c : Char) : isWordCharacter c.toLower = isWordCharacter c :=
  forall_toLower (P := fun c d => isWordCharacter d = isWordCharacter c) (fun _ => rfl) (by decide) c

theorem isBlank_toLower (c : Char) : isBlank c.toLower = isBlank c :=
  forall_toLower (P := fun c d => isBlank d = isBlank c) (fun _ => rfl) (by decide) c

/-- A small letter is a character of a lead only if the letter is. -/
theorem toLower_eq_iff {d : Char} (hd : d ∈ ['-', '/', '*', '(', '\n']) (c : Char) : c.toLower = d ↔ c = d :=
  forall_toLower (P := fun c l => ∀ d ∈ ['-', '/', '*', '(', '\n'], l = d ↔ c = d) (fun _ _ _ => Iff.rfl)
    (by decide) c d hd

/-- A text in small letters. -/
abbrev lower (s : List Char) : List Char := s.map Char.toLower

/-! ## Keywords -/

/-- What is left of a text behind a word that it begins with, in any letter case. -/
theorem stripWord?_eq_some_iff {word s r : List Char} :
    stripWord? word s = some r ↔ ∃ w, s = w ++ r ∧ lower w = lower word := by
  induction word generalizing s with
  | nil => simp [stripWord?]
  | cons c word ih =>
    cases s with
    | nil => simp [stripWord?]
    | cons d s =>
      rw [stripWord?]
      split
      next hd =>
        rw [ih]
        constructor
        · rintro ⟨w, rfl, hw⟩
          exact ⟨d :: w, rfl, by simp [hd, hw]⟩
        · rintro ⟨_ | ⟨e, w⟩, hs, hw⟩
          · cases hw
          · obtain ⟨rfl, rfl⟩ := List.cons.inj hs
            exact ⟨w, rfl, (List.cons.inj hw).2⟩
      next hd =>
        refine iff_of_false nofun ?_
        rintro ⟨_ | ⟨e, w⟩, hs, hw⟩
        · cases hw
        · obtain ⟨rfl, -⟩ := List.cons.inj hs
          exact hd (List.cons.inj hw).1

/-- A text begins with a keyword if it does so in some letter case and no character goes on with the word. -/
theorem startsWith_iff {keyword : String} {s : List Char} :
    startsWith keyword s ↔ ∃ w r, s = w ++ r ∧ lower w = lower keyword.toList ∧
      ∀ c ∈ r.head?, isWordCharacter c = false := by
  have hsome : startsWith keyword s ↔ ∃ r, stripWord? keyword.toList s = some r ∧
      ∀ c ∈ r.head?, isWordCharacter c = false := by
    unfold startsWith
    rcases stripWord? keyword.toList s with - | - | ⟨c, r⟩ <;> simp
  rw [hsome]
  simp only [stripWord?_eq_some_iff]
  constructor
  · rintro ⟨r, ⟨w, hs, hw⟩, hr⟩
    exact ⟨w, r, hs, hw, hr⟩
  · rintro ⟨w, r, hs, hw, hr⟩
    exact ⟨r, ⟨w, hs, hw⟩, hr⟩

/-- Whether all of a keyword are characters of a word. -/
def isWord (keyword : String) : Bool := keyword.toList.all isWordCharacter

/-- A keyword in any letter case is made of characters of a word. -/
theorem isWordCharacter_of_lower {keyword : String} {w : List Char} (hkeyword : isWord keyword)
    (hw : lower w = lower keyword.toList) : ∀ c ∈ w, isWordCharacter c = true := by
  intro c hc
  obtain ⟨d, hd, hdc⟩ := List.mem_map.1 (hw ▸ List.mem_map_of_mem hc : c.toLower ∈ lower keyword.toList)
  rw [← isWordCharacter_toLower, ← hdc, isWordCharacter_toLower]
  exact List.all_eq_true.1 hkeyword d hd

/-- A text begins with one word at most. -/
theorem startsWith_unique {a b : String} {s : List Char} (ha : startsWith a s) (hb : startsWith b s)
    (hwords : isWord a ∧ isWord b) : lower a.toList = lower b.toList := by
  -- what one word has more would have to be no word
  have hsame : ∀ {w x r : List Char}, (∀ c ∈ w ++ x, isWordCharacter c = true) →
      (∀ c ∈ (x ++ r).head?, isWordCharacter c = false) → x = [] := by
    rintro w (_ | ⟨c, x⟩) r hx hr
    · rfl
    · have := hr c rfl
      rw [hx c (by simp)] at this
      cases this
  obtain ⟨w, r, rfl, hw, hr⟩ := startsWith_iff.1 ha
  obtain ⟨w', r', hs, hw', hr'⟩ := startsWith_iff.1 hb
  rcases List.append_eq_append_iff.1 hs with ⟨x, rfl, rfl⟩ | ⟨x, rfl, rfl⟩
  · obtain rfl := hsame (isWordCharacter_of_lower hwords.2 hw') hr
    rw [← hw, ← hw', List.append_nil]
  · obtain rfl := hsame (isWordCharacter_of_lower hwords.1 hw) hr'
    rw [← hw, ← hw', List.append_nil]

theorem stripWord?_lower (word s : List Char) :
    stripWord? word (lower s) = (stripWord? word s).map lower := by
  induction word generalizing s with
  | nil => rfl
  | cons c word ih =>
    cases s with
    | nil => rfl
    | cons d s =>
      rw [lower, List.map_cons, stripWord?, stripWord?, toLower_toLower]
      split
      next => exact ih s
      next => rfl

theorem startsWith_lower (keyword : String) (s : List Char) :
    startsWith keyword (lower s) = startsWith keyword s := by
  unfold startsWith
  rw [stripWord?_lower]
  rcases stripWord? keyword.toList s with - | - | ⟨c, r⟩
  · rfl
  · rfl
  · show (!isWordCharacter c.toLower) = !isWordCharacter c
    rw [isWordCharacter_toLower]

/-! ## Leads -/

/-- Small letters are in the lead what the letters are. -/
theorem afterLead_lower (m : Lead) (s : List Char) : afterLead m (lower s) = lower (afterLead m s) := by
  have hhead : ∀ {d : Char} {r s : List Char}, d ∈ ['-', '/', '*', '(', '\n'] → lower s = d :: r →
      ∃ r', s = d :: r' := by
    rintro d r (_ | ⟨c, s⟩) hd h
    · cases h
    · exact ⟨s, by rw [(toLower_eq_iff hd c).1 (List.cons.inj h).1]⟩
  have hbetween : ∀ {c : Char} {rest : List Char}, (∀ r, c = '-' → rest = '-' :: r → False) →
      (∀ r, c = '/' → rest = '*' :: r → False) → (c = '(' → False) →
        afterLead .between (lower (c :: rest)) =
          if isBlank c then afterLead .between (lower rest) else lower (c :: rest) := by
    intro c rest hdash hslash hparen
    rw [← isBlank_toLower]
    refine afterLead_between (fun r hc hr => ?_) (fun r hc hr => ?_)
      fun hc => hparen ((toLower_eq_iff (by decide) c).1 hc)
    · obtain ⟨r', hr'⟩ := hhead (by decide) hr
      exact hdash r' ((toLower_eq_iff (by decide) c).1 hc) hr'
    · obtain ⟨r', hr'⟩ := hhead (by decide) hr
      exact hslash r' ((toLower_eq_iff (by decide) c).1 hc) hr'
  -- a lead goes on in the same way, or it ends at a character that is none of a lead's in small letters either
  fun_induction afterLead m s with
  | case1 _ ih | case2 _ ih | case3 _ ih | case6 _ ih | case8 _ ih | case10 _ ih | case11 _ ih => exact ih
  | case4 c rest hdash hslash hparen hblank ih =>
    rw [hbetween hdash hslash hparen, if_pos hblank]
    exact ih
  | case5 c rest hdash hslash hparen hblank => rw [hbetween hdash hslash hparen, if_neg hblank]
  | case7 c rest hline ih =>
    rw [lower, List.map_cons, afterLead_comment.1 fun h => hline ((toLower_eq_iff (by decide) c).1 h)]
    exact ih
  | case9 c rest hstar ih =>
    rw [lower, List.map_cons, afterLead_comment.2.1 fun h => hstar ((toLower_eq_iff (by decide) c).1 h)]
    exact ih
  | case12 c rest hslash hstar ih =>
    rw [lower, List.map_cons, afterLead_comment.2.2 (fun h => hslash ((toLower_eq_iff (by decide) c).1 h))
      fun h => hstar ((toLower_eq_iff (by decide) c).1 h)]
    exact ih
  | case13 m => cases m <;> rfl

theorem withoutLead_lower (s : List Char) : withoutLead (lower s) = lower (withoutLead s) := afterLead_lower _ s

/-- A text that begins with a word has no lead. -/
theorem withoutLead_of_word {c : Char} (h : isWordCharacter c) (s : List Char) : withoutLead (c :: s) = c :: s := by
  have hne : ∀ d ∈ ['-', '/', '('], c = d → False := by
    rintro d hd rfl
    have hall : ∀ d ∈ ['-', '/', '('], isWordCharacter d = false := by decide
    rw [hall c hd] at h
    cases h
  unfold withoutLead
  rw [afterLead_between (fun _ hc _ => hne _ (by decide) hc) (fun _ hc _ => hne _ (by decide) hc)
    (hne _ (by decide)), (word_character h).1]
  rfl

/-- What has lost its lead has none. -/
theorem withoutLead_withoutLead (s : List Char) : withoutLead (withoutLead s) = withoutLead s := by
  -- a lead may end in each of the states, but only between comments with something left
  have hall : ∀ m, withoutLead (afterLead m s) = afterLead m s := by
    intro m
    fun_induction afterLead m s with
    | case5 c rest hdash hslash hparen hblank =>
      unfold withoutLead
      rw [afterLead_between hdash hslash hparen, if_neg hblank]
    | case13 => rfl
    | _ => assumption
  exact hall .between

/-! ## Statements -/

/-- A text that begins with a word begins with no other. -/
theorem startsWith_eq_false {a b : String} {s : List Char} (ha : startsWith a s) (hwords : isWord a ∧ isWord b)
    (hne : lower a.toList ≠ lower b.toList) : startsWith b s = false :=
  Bool.eq_false_iff.2 fun hb => hne (startsWith_unique ha hb hwords)

theorem exists_cons_of_startsWith {word : String} {s : List Char} (h : startsWith word s) (hword : isWord word)
    (hne : word ≠ "") : ∃ c t, s = c :: t ∧ isWordCharacter c := by
  obtain ⟨w, r, rfl, hw, -⟩ := startsWith_iff.1 h
  cases w with
  | nil =>
    have hnil : word.toList = [] := List.map_eq_nil_iff.1 hw.symm
    exact absurd (String.toList_inj.1 hnil) hne
  | cons c w => exact ⟨c, w ++ r, rfl, isWordCharacter_of_lower hword hw c List.mem_cons_self⟩

theorem withoutLead_of_startsWith {word : String} {s : List Char} (h : startsWith word s) (hword : isWord word)
    (hne : word ≠ "") : withoutLead s = s := by
  obtain ⟨c, t, rfl, hc⟩ := exists_cons_of_startsWith h hword hne
  exact withoutLead_of_word hc t

theorem ofStatement?_eq_none_of_startsWith {word : String} {s : List Char} (h : startsWith word s)
    (hword : isWord word) (hne : word ≠ "")
    (hcontrol : ∀ control ∈ controlWords, lower word.toList ≠ lower control.toList) :
    Control.ofStatement? s = none := by
  have hwords : ∀ control ∈ controlWords, isWord control := by decide
  rw [ofStatement?_eq_none_iff, withoutLead_of_startsWith h hword hne]
  exact fun control hmem => startsWith_eq_false h ⟨hword, hwords control hmem⟩ (hcontrol control hmem)

/-- Blanks in front of a character that is none are trimmed. -/
theorem trimStart_blanks {blanks : List Char} (h : ∀ b ∈ blanks, isBlank b) {c : Char} (hc : isBlank c = false)
    (s : List Char) : trimStart (blanks ++ c :: s) = c :: s := by
  unfold trimStart
  rw [List.dropWhile_append_of_pos h, List.dropWhile_cons_of_neg (by simp [hc])]

theorem afterWord_lower (s : List Char) : afterWord (lower s) = lower (afterWord s) := by
  have hdrop : ∀ (p : Char → Bool), (∀ c, p c.toLower = p c) →
      ∀ s, (lower s).dropWhile p = lower (s.dropWhile p) := by
    intro p hp s
    rw [lower, List.dropWhile_map, show p ∘ Char.toLower = p from funext hp]
  unfold afterWord fromBlank trimStart
  rw [hdrop (!isBlank ·) fun c => by rw [isBlank_toLower], hdrop isBlank isBlank_toLower]

/-- Letter case does not matter to what a statement does to its transaction. -/
theorem Control.ofStatement?_lower (s : List Char) : Control.ofStatement? (lower s) = Control.ofStatement? s := by
  have hnames : ∀ s, namesSavepoint (lower s) = namesSavepoint s := by
    intro s
    unfold namesSavepoint
    simp only [afterWord_lower, startsWith_lower, ← apply_ite lower]
  unfold Control.ofStatement?
  simp only [withoutLead_lower, startsWith_lower, afterWord_lower, hnames]

theorem Control.ofStatement?_withoutLead (s : List Char) :
    Control.ofStatement? (withoutLead s) = Control.ofStatement? s := by
  unfold Control.ofStatement?
  rw [withoutLead_withoutLead]

namespace StatementKind

/-- A statement is of the transaction kind exactly if it controls one. -/
theorem ofStatement_eq_transaction_iff (s : List Char) :
    ofStatement s = .transaction ↔ (Control.ofStatement? s).isSome := by
  have hkeyword : ∀ kind, ofKeyword? (withoutLead s) = some kind → kind ≠ .transaction := by
    intro kind hkind
    obtain ⟨⟨word, kind⟩, hfind, rfl⟩ := Option.map_eq_some_iff.1 hkind
    have hall : ∀ entry ∈ keywords, entry.2 ≠ .transaction := by decide
    exact hall _ (List.mem_of_find?_eq_some hfind)
  have hbehind : ∀ t, behindExpressions t ≠ .transaction := by
    intro t
    unfold behindExpressions
    split <;> decide
  unfold ofStatement
  simp only [Control.ofStatement?_withoutLead]
  cases (Control.ofStatement? s).isSome with
  | true => simp
  | false =>
    simp only [Bool.false_eq_true, if_false, iff_false]
    split
    next kind hkind => exact hkeyword kind hkind
    next =>
      split
      · exact hbehind _
      · decide

/-- The kind of a statement that begins with a word and controls no transaction. -/
theorem ofStatement_of_word {word : String} {s : List Char} (h : startsWith word s) (hword : isWord word)
    (hne : word ≠ "") (hcontrol : ∀ control ∈ controlWords, lower word.toList ≠ lower control.toList) :
    ofStatement s = (ofKeyword? s).getD (if startsWith "WITH" s then behindExpressions s else .other) := by
  unfold ofStatement
  simp only [withoutLead_of_startsWith h hword hne, ofStatement?_eq_none_of_startsWith h hword hne hcontrol]
  cases ofKeyword? s <;> rfl

/-- The kind that a word tells. -/
theorem ofKeyword?_of_startsWith {word : String} {kind : StatementKind} (h : (word, kind) ∈ keywords)
    {s : List Char} (hs : startsWith word s) : ofKeyword? s = some kind := by
  have hwords : ∀ entry ∈ keywords, isWord entry.1 := by decide
  have hdistinct : ∀ entry ∈ keywords, ∀ entry' ∈ keywords,
      lower entry.1.toList = lower entry'.1.toList → entry.2 = entry'.2 := by decide
  have hsome : (keywords.find? fun entry => startsWith entry.1 s).isSome := List.find?_isSome.2 ⟨_, h, hs⟩
  obtain ⟨entry, hfind⟩ := Option.isSome_iff_exists.1 hsome
  have hentry : startsWith entry.1 s := by simpa using List.find?_some hfind
  have hmem := List.mem_of_find?_eq_some hfind
  have hkind : entry.2 = kind := hdistinct _ hmem _ h (startsWith_unique hentry hs ⟨hwords _ hmem, hwords _ h⟩)
  rw [ofKeyword?, Option.map_eq_some_iff]
  exact ⟨entry, hfind, hkind⟩

/-- A statement that begins with such a word is of that kind. -/
theorem ofStatement_of_startsWith {word : String} {kind : StatementKind} (h : (word, kind) ∈ keywords)
    {s : List Char} (hs : startsWith word s) : ofStatement s = kind := by
  have hword : ∀ entry ∈ keywords, isWord entry.1 ∧ entry.1 ≠ "" ∧
      ∀ control ∈ controlWords, lower entry.1.toList ≠ lower control.toList := by decide
  obtain ⟨hisWord, hne, hcontrol⟩ := hword _ h
  rw [ofStatement_of_word hs hisWord hne hcontrol, ofKeyword?_of_startsWith h hs]
  rfl

/-- A statement that begins with common tables is of the kind that is told behind them. -/
theorem ofStatement_of_with {s : List Char} (h : startsWith "WITH" s) : ofStatement s = behindExpressions s := by
  have hnone : ofKeyword? s = none := by
    have hwords : ∀ entry ∈ keywords, isWord entry.1 ∧ lower "WITH".toList ≠ lower entry.1.toList := by decide
    refine Option.map_eq_none_iff.2 (List.find?_eq_none.2 fun entry hentry => ?_)
    obtain ⟨hword, hne⟩ := hwords entry hentry
    simpa using startsWith_eq_false h ⟨by decide, hword⟩ hne
  rw [ofStatement_of_word h (by decide) (by decide) (by decide), hnone, if_pos h]
  rfl

end StatementKind

end DeclaredTriggers.Sql
