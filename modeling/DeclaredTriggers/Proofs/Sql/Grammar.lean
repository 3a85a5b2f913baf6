import DeclaredTriggers.Proofs.Sql.Identifiers

/-!
# The grammar of identifiers

Which texts are identifiers, said without the reader: parts between dots, each a bare name of the characters
that such a name has, or a text between quotes in which the quotes come in pairs. The reader takes one part
after the other, so what it accepts follows from what it takes for a part (`spelled_of_readPart`), and a text
of the grammar is one that is written (`IsSpelling.exists_parts`), which is read back.

> `parse_iff`: a text is accepted exactly if it has no NUL and is of the grammar.
>
> `Identifier.sql_of_parse`, `Identifier.parse_sql_of_named`: writing what was read gives the text, and reading
> what is written gives the identifier.
-/

namespace DeclaredTriggers.Sql

open Text (replaced)

/-! ## The grammar -/

/-- An ASCII letter. -/
def IsLetter (c : Char) : Prop := ('A' ≤ c ∧ c ≤ 'Z') ∨ ('a' ≤ c ∧ c ≤ 'z')

/-- An ASCII digit. -/
def IsDigit (c : Char) : Prop := '0' ≤ c ∧ c ≤ '9'

/-- A bare name: a letter or an underscore, then letters, digits, underscores and dollar signs. -/
def IsBareName (s : List Char) : Prop :=
  ∃ c rest, s = c :: rest ∧ (IsLetter c ∨ c = '_') ∧ ∀ d ∈ rest, IsLetter d ∨ IsDigit d ∨ d = '_' ∨ d = '$'

/-- A text in which the quotes come in pairs. -/
inductive Paired : List Char → Prop where
  | nil : Paired []
  | quotes {s : List Char} : Paired s → Paired ('"' :: '"' :: s)
  | other {c : Char} {s : List Char} : c ≠ '"' → Paired s → Paired (c :: s)

/-- One part: a bare name, or a text between quotes. -/
inductive IsPart : List Char → Prop where
  | bare {s : List Char} : IsBareName s → IsPart s
  | quoted {s : List Char} : s ≠ [] → Paired s → IsPart ('"' :: (s ++ ['"']))

/-- Parts with a dot between each two. -/
inductive IsSpelling : List Char → Prop where
  | part {s : List Char} : IsPart s → IsSpelling s
  | dotted {s t : List Char} : IsPart s → IsSpelling t → IsSpelling (s ++ '.' :: t)

/-- What a part may stand for. -/
def Part.IsNamed : Part → Prop
  | .bare name => IsBareName name.toList
  | .quoted name => name ≠ "" ∧ '\x00' ∉ name.toList

/-! ## Characters and parts -/

theorem isAlpha_iff {c : Char} : c.isAlpha ↔ IsLetter c := by
  unfold Char.isAlpha Char.isUpper Char.isLower
  simp only [Bool.or_eq_true, Bool.and_eq_true, decide_eq_true_eq]
  exact Iff.rfl

theorem isDigit_iff {c : Char} : c.isDigit ↔ IsDigit c := by
  simp only [Char.isDigit, Bool.and_eq_true, decide_eq_true_eq]
  exact Iff.rfl

theorem isNameStart_iff {c : Char} : isNameStart c ↔ IsLetter c ∨ c = '_' := by
  rw [← isAlpha_iff, isNameStart, Bool.or_eq_true, decide_eq_true_eq, or_comm]

theorem isNameRest_iff {c : Char} : isNameRest c ↔ IsLetter c ∨ IsDigit c ∨ c = '_' ∨ c = '$' := by
  rw [← isAlpha_iff, ← isDigit_iff]
  simp only [isNameRest, Char.isAlphanum, Bool.or_eq_true, decide_eq_true_eq]
  rw [or_comm, or_assoc]

theorem spelled_bare_iff {name : String} : (Part.bare name).Spelled ↔ IsBareName name.toList := by
  simp only [Part.Spelled, IsBareName, isNameStart_iff, isNameRest_iff]

theorem Part.IsNamed.spelled {p : Part} (h : p.IsNamed) : p.Spelled := by
  cases p with
  | bare name => exact spelled_bare_iff.2 h
  | quoted name => exact h.1

theorem paired_replaced (name : List Char) : Paired (replaced '"' ['"', '"'] name) := by
  induction name with
  | nil => exact .nil
  | cons c name ih =>
    by_cases hc : c = '"'
    · subst hc
      exact .quotes ih
    · rw [replaced_cons_of_ne hc]
      exact .other hc ih

/-- A text in which the quotes come in pairs is a name with its quotes written twice. -/
theorem Paired.exists_name {s : List Char} (h : Paired s) : ∃ name, s = replaced '"' ['"', '"'] name := by
  induction h with
  | nil => exact ⟨[], rfl⟩
  | quotes _ ih =>
    obtain ⟨name, rfl⟩ := ih
    exact ⟨'"' :: name, rfl⟩
  | @other c _ hc _ ih =>
    obtain ⟨name, rfl⟩ := ih
    exact ⟨c :: name, (replaced_cons_of_ne hc name).symm⟩

/-- A part is written as one of the grammar. -/
theorem Part.Spelled.isPart {p : Part} (h : p.Spelled) : IsPart p.sql.toList := by
  cases p with
  | bare name => exact .bare (spelled_bare_iff.1 h)
  | quoted name =>
    show IsPart (quoteName name).toList
    rw [quoteName_eq]
    refine .quoted (fun hnil => h (String.toList_injective ?_)) (paired_replaced _)
    cases hname : name.toList with
    | nil => rfl
    | cons c s =>
      rw [hname] at hnil
      unfold replaced at hnil
      rw [List.flatMap_cons, List.append_eq_nil_iff] at hnil
      split at hnil
      next => cases hnil.1
      next => cases hnil.1

/-- A part of the grammar is one that is written. -/
theorem IsPart.exists_part {s : List Char} (h : IsPart s) : ∃ p : Part, p.Spelled ∧ s = p.sql.toList := by
  cases h with
  | bare hbare =>
    refine ⟨.bare (String.ofList s), spelled_bare_iff.2 ?_, ?_⟩
    · rwa [String.toList_ofList]
    · exact String.toList_ofList.symm
  | @quoted body hne hpaired =>
    obtain ⟨name, rfl⟩ := hpaired.exists_name
    refine ⟨.quoted (String.ofList name), ?_, ?_⟩
    · intro hempty
      have hname : name = [] := by
        have := congrArg String.toList hempty
        rwa [String.toList_ofList] at this
      subst hname
      exact hne rfl
    · show _ = (quoteName (String.ofList name)).toList
      rw [quoteName_eq, String.toList_ofList]
      rfl

/-- Parts that are written with dots between them are of the grammar. -/
theorem isSpelling_intercalate {parts : List Part} (hne : parts ≠ []) (hparts : ∀ p ∈ parts, p.Spelled) :
    IsSpelling (".".intercalate (parts.map Part.sql)).toList := by
  induction parts with
  | nil => exact absurd rfl hne
  | cons p parts ih =>
    have hp := (hparts p List.mem_cons_self).isPart
    cases parts with
    | nil =>
      rw [List.map_cons, List.map_nil, String.intercalate_singleton]
      exact .part hp
    | cons q parts =>
      rw [toList_intercalate_cons]
      exact .dotted hp (ih (List.cons_ne_nil q parts) fun r hr => hparts r (List.mem_cons_of_mem _ hr))

/-- A text of the grammar is one that is written. -/
theorem IsSpelling.exists_parts {s : List Char} (h : IsSpelling s) :
    ∃ parts : List Part, parts ≠ [] ∧ (∀ p ∈ parts, p.Spelled) ∧
      s = (".".intercalate (parts.map Part.sql)).toList := by
  induction h with
  | part hs =>
    obtain ⟨p, hp, rfl⟩ := hs.exists_part
    refine ⟨[p], List.cons_ne_nil _ _, fun q hq => List.mem_singleton.1 hq ▸ hp, ?_⟩
    rw [List.map_cons, List.map_nil, String.intercalate_singleton]
  | dotted hs _ ih =>
    obtain ⟨p, hp, rfl⟩ := hs.exists_part
    obtain ⟨parts, hne, hparts, rfl⟩ := ih
    obtain ⟨q, parts, rfl⟩ := List.exists_cons_of_ne_nil hne
    exact ⟨p :: q :: parts, List.cons_ne_nil _ _, List.forall_mem_cons.2 ⟨hp, hparts⟩,
      (toList_intercalate_cons p q parts).symm⟩

/-! ## What is read -/

theorem isNameRest_of_readBareRest {s name rest : List Char} (h : readBareRest s = .ok (name, rest)) :
    ∀ c ∈ name, isNameRest c := by
  induction s generalizing name with
  | nil =>
    obtain ⟨rfl, -⟩ := Prod.mk.inj (Except.ok.inj h)
    exact fun c hc => absurd hc List.not_mem_nil
  | cons c s ih =>
    rw [readBareRest] at h
    split at h
    next =>
      obtain ⟨rfl, -⟩ := Prod.mk.inj (Except.ok.inj h)
      exact fun c hc => absurd hc List.not_mem_nil
    split at h
    next hc =>
      obtain ⟨⟨inner, after⟩, hinner, hrest⟩ := exists_ok_of_bind h
      obtain ⟨rfl, rfl⟩ := Prod.mk.inj (Except.ok.inj hrest)
      exact List.forall_mem_cons.2 ⟨hc, ih hinner⟩
    next => cases h

/-- What is read as a part is one. -/
theorem spelled_of_readPart {s rest : List Char} {p : Part} (h : readPart s = .ok (p, rest)) : p.Spelled := by
  unfold readPart at h
  split at h
  next t =>
    obtain ⟨⟨name, after⟩, -, hrest⟩ := exists_ok_of_bind h
    simp only at hrest
    split at hrest
    next => cases hrest
    next hname =>
      obtain ⟨rfl, -⟩ := Prod.mk.inj (Except.ok.inj hrest)
      intro hempty
      have hnil : name = [] := by
        have := congrArg String.toList hempty
        rwa [String.toList_ofList] at this
      exact hname (hnil ▸ rfl)
  next => cases h
  next c t hc =>
    split at h
    next => cases h
    split at h
    next hstart =>
      obtain ⟨⟨name, after⟩, hname, hrest⟩ := exists_ok_of_bind h
      obtain ⟨rfl, -⟩ := Prod.mk.inj (Except.ok.inj hrest)
      exact ⟨c, name, String.toList_ofList, hstart, isNameRest_of_readBareRest hname⟩
    next => cases h

/-- What is read is parts, and the text is what they are written as. -/
theorem parts_of_readParts {fuel : Nat} {s : List Char} {parts : List Part} (hs : s ≠ [])
    (hfuel : s.length ≤ fuel) (h : readParts fuel s = .ok parts) :
    parts ≠ [] ∧ (∀ p ∈ parts, p.Spelled) ∧ s = (".".intercalate (parts.map Part.sql)).toList := by
  induction fuel generalizing s parts with
  | zero => exact absurd (List.length_eq_zero_iff.1 (Nat.le_zero.1 hfuel)) hs
  | succ fuel ih =>
    obtain ⟨⟨p, after⟩, hp, hrest⟩ := exists_ok_of_bind h
    have hspelled := spelled_of_readPart hp
    have hsplit := eq_sql_of_readPart hp
    simp only at hrest
    split at hrest
    next =>
      obtain rfl := Except.ok.inj hrest
      refine ⟨List.cons_ne_nil _ _, fun q hq => List.mem_singleton.1 hq ▸ hspelled, ?_⟩
      rw [List.map_cons, List.map_nil, String.intercalate_singleton, hsplit, List.append_nil]
    next => cases hrest
    next rest hne =>
      obtain ⟨others, hothers, hsame⟩ := exists_ok_of_bind hrest
      obtain rfl := Except.ok.inj hsame
      -- the part and the dot took up fuel for what is left
      have hshort : rest.length ≤ fuel := by
        rw [hsplit, List.length_append, List.length_cons] at hfuel
        omega
      obtain ⟨hsome, hall, rfl⟩ := ih (fun hnil => hne (by rw [hnil])) hshort hothers
      obtain ⟨q, others, rfl⟩ := List.exists_cons_of_ne_nil hsome
      refine ⟨List.cons_ne_nil _ _, List.forall_mem_cons.2 ⟨hspelled, hall⟩, ?_⟩
      rw [toList_intercalate_cons]
      exact hsplit
    next => cases hrest

/-- What is accepted has no NUL, and is the identifier as it is written. -/
theorem parts_of_parse {text : String} {i : Identifier} (h : Identifier.parse text = .ok i) :
    '\x00' ∉ text.toList ∧ i.parts ≠ [] ∧ (∀ p ∈ i.parts, p.Spelled) ∧ text = i.sql := by
  unfold Identifier.parse at h
  simp only at h
  split at h
  next => cases h
  next hsome =>
    split at h
    next => cases h
    next hnul =>
      obtain ⟨parts, hparts, hi⟩ := exists_ok_of_bind h
      obtain rfl := Except.ok.inj hi
      have hne : text.toList ≠ [] := fun hnil => hsome (by rw [hnil]; rfl)
      obtain ⟨hnonempty, hall, hsql⟩ := parts_of_readParts hne (Nat.le_refl _) hparts
      exact ⟨hnul, hnonempty, hall, String.toList_injective hsql⟩

/-- Writing what was read gives the text. -/
theorem Identifier.sql_of_parse {text : String} {i : Identifier} (h : Identifier.parse text = .ok i) :
    i.sql = text := (parts_of_parse h).2.2.2.symm

/-- A text is accepted exactly if it has no NUL and is of the grammar. -/
theorem parse_iff {text : String} :
    (∃ i, Identifier.parse text = .ok i) ↔ '\x00' ∉ text.toList ∧ IsSpelling text.toList := by
  constructor
  · rintro ⟨i, hi⟩
    obtain ⟨hnul, hne, hall, rfl⟩ := parts_of_parse hi
    exact ⟨hnul, isSpelling_intercalate hne hall⟩
  · rintro ⟨hnul, hspelling⟩
    obtain ⟨parts, hne, hall, hsql⟩ := hspelling.exists_parts
    have htext : text = Identifier.sql ⟨parts⟩ := String.toList_injective hsql
    rw [htext] at hnul ⊢
    exact ⟨⟨parts⟩, Identifier.parse_sql hne hall hnul⟩

/-! ## What is written -/

theorem not_mem_sql_of_named {p : Part} (h : p.IsNamed) : '\x00' ∉ p.sql.toList := by
  cases p with
  | bare name =>
    obtain ⟨c, rest, hname, hc, hrest⟩ := spelled_bare_iff.2 h
    show '\x00' ∉ name.toList
    rw [hname]
    intro hmem
    rcases List.mem_cons.1 hmem with rfl | hmem
    · revert hc
      decide
    · have hnul := hrest _ hmem
      revert hnul
      decide
  | quoted name =>
    intro hmem
    obtain hmem | hmem := mem_quoteName hmem
    · exact h.2 hmem
    · cases hmem

theorem not_mem_intercalate {parts : List Part} (h : ∀ p ∈ parts, '\x00' ∉ p.sql.toList) :
    '\x00' ∉ (".".intercalate (parts.map Part.sql)).toList := by
  induction parts with
  | nil => exact List.not_mem_nil
  | cons p parts ih =>
    have hp := h p List.mem_cons_self
    have hrest := ih fun q hq => h q (List.mem_cons_of_mem _ hq)
    cases parts with
    | nil =>
      rw [List.map_cons, List.map_nil, String.intercalate_singleton]
      exact hp
    | cons q parts =>
      rw [toList_intercalate_cons]
      intro hmem
      rcases List.mem_append.1 hmem with hmem | hmem
      · exact hp hmem
      · rcases List.mem_cons.1 hmem with hmem | hmem
        · cases hmem
        · exact hrest hmem

/-- Reading what is written gives the identifier. -/
theorem Identifier.parse_sql_of_named {i : Identifier} (hne : i.parts ≠ [])
    (hnamed : ∀ p ∈ i.parts, p.IsNamed) : Identifier.parse i.sql = .ok i :=
  Identifier.parse_sql hne (fun p hp => (hnamed p hp).spelled)
    (not_mem_intercalate fun p hp => not_mem_sql_of_named (hnamed p hp))

end DeclaredTriggers.Sql
