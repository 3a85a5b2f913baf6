import DeclaredTriggers.Proofs.Act
import DeclaredTriggers.Proofs.Sql.Fragments
import DeclaredTriggers.Sql.Identifier

/-!
# Identifiers, read and written

A text that is read as one identifier of one part is a bare name or a quoted one. Either way it is closed when
it is written as a label: a bare name gets quotes, and a quoted name that goes up to the end of the text keeps
its own. Reading and writing are inverse to each other, part by part.

> `isClosed_quote_of_parse`: a label that is an identifier of one part is written closed.
>
> `Identifier.parse_sql`, `eq_sql_of_parse`: an identifier that is written is read back, and an identifier of one
> part is read from no other text.
-/

namespace DeclaredTriggers.Sql

open Text (replaced)

/-- A quoted name that goes up to the end of a text leaves the scanner behind its last quote. -/
theorem through_readQuoted {s name : List Char} (h : readQuoted s = .ok (name, [])) :
    (Mode.quoted '"').through s = some (.quoteEnd '"') := by
  fun_induction readQuoted s generalizing name with
  | case1 => cases h
  | case2 rest ih =>
    obtain ⟨⟨inner, after⟩, hinner, hrest⟩ := exists_ok_of_bind h
    obtain ⟨-, rfl⟩ := Prod.mk.inj (Except.ok.inj hrest)
    exact ih hinner
  | case3 rest _ =>
    obtain ⟨-, rfl⟩ := Prod.mk.inj (Except.ok.inj h)
    rfl
  | case4 c rest _ hc ih =>
    obtain ⟨⟨inner, after⟩, hinner, hrest⟩ := exists_ok_of_bind h
    obtain ⟨-, rfl⟩ := Prod.mk.inj (Except.ok.inj hrest)
    have hstep : (Mode.quoted '"').step c = .quoted '"' := if_neg fun h => hc h
    unfold Mode.through
    rw [if_neg (by simp [Mode.isTop]), hstep]
    exact ih hinner

theorem not_mem_of_readBareRest {s name : List Char} (h : readBareRest s = .ok (name, [])) : '"' ∉ s := by
  induction s generalizing name with
  | nil => simp
  | cons c s ih =>
    rw [readBareRest] at h
    split at h
    next =>
      obtain ⟨-, hnil⟩ := Prod.mk.inj (Except.ok.inj h)
      cases hnil
    split at h
    next hc =>
      obtain ⟨⟨inner, after⟩, hinner, hrest⟩ := exists_ok_of_bind h
      obtain ⟨-, rfl⟩ := Prod.mk.inj (Except.ok.inj hrest)
      have hne : '"' ≠ c := by
        rintro rfl
        revert hc
        decide
      exact List.not_mem_cons_of_ne_of_not_mem hne (ih hinner)
    next => cases h

/-- A text that is one part of an identifier is written as a closed label. -/
theorem isClosed_quote_of_readPart {s : List Char} {part : Part} (h : readPart s = .ok (part, [])) :
    isClosed (quote (String.ofList s)).toList := by
  unfold readPart at h
  split at h
  next rest =>
    obtain ⟨⟨name, after⟩, hname, hrest⟩ := exists_ok_of_bind h
    have hafter : after = [] := by
      simp only at hrest
      split at hrest
      next => cases hrest
      next => exact (Prod.mk.inj (Except.ok.inj hrest)).2
    subst hafter
    have hquote : quote (String.ofList ('"' :: rest)) = String.ofList ('"' :: rest) := by
      unfold quote
      rw [String.toList_ofList]
      rfl
    rw [hquote, String.toList_ofList]
    show (((Mode.quoted '"').through rest).any Mode.isTop) = true
    rw [through_readQuoted hname]
    rfl
  next => cases h
  next c rest hc =>
    split at h
    next => cases h
    split at h
    next hstart =>
      obtain ⟨⟨name, after⟩, hname, hrest⟩ := exists_ok_of_bind h
      obtain ⟨-, rfl⟩ := Prod.mk.inj (Except.ok.inj hrest)
      have hplain : '"' ∉ (String.ofList (c :: rest)).toList := by
        rw [String.toList_ofList]
        exact List.not_mem_cons_of_ne_of_not_mem (fun h => hc h.symm) (not_mem_of_readBareRest hname)
      rw [quote_of_plain hplain]
      exact isClosed_quoteName _
    next => cases h

theorem readParts_ne_nil {fuel : Nat} {s : List Char} : readParts (fuel + 1) s ≠ .ok [] := by
  intro h
  obtain ⟨⟨part, after⟩, -, hrest⟩ := exists_ok_of_bind h
  simp only at hrest
  split at hrest
  next => cases hrest
  next => cases hrest
  next =>
    obtain ⟨parts, -, hparts⟩ := exists_ok_of_bind hrest
    cases hparts
  next => cases hrest

/-- What is read as one part goes up to the end of the text. -/
theorem readPart_of_readParts {s : List Char} {part : Part} (h : readParts s.length s = .ok [part]) :
    readPart s = .ok (part, []) := by
  cases s with
  | nil => cases h
  | cons c s =>
    obtain ⟨⟨first, after⟩, hfirst, hrest⟩ := exists_ok_of_bind h
    simp only at hrest
    split at hrest
    next =>
      obtain ⟨rfl, -⟩ := List.cons.inj (Except.ok.inj hrest)
      exact hfirst
    next => cases hrest
    next rest hne =>
      obtain ⟨parts, hparts, hsame⟩ := exists_ok_of_bind hrest
      obtain ⟨-, rfl⟩ := List.cons.inj (Except.ok.inj hsame)
      -- no part is left over for the rest, so the first part was all of the fuel
      cases s with
      | nil =>
        exfalso
        unfold readPart at hfirst
        split at hfirst
        next hlist =>
          obtain ⟨-, rfl⟩ := List.cons.inj hlist
          cases hfirst
        next hlist => cases hlist
        next hlist =>
          obtain ⟨rfl, rfl⟩ := List.cons.inj hlist
          split at hfirst
          next => cases hfirst
          split at hfirst
          next => cases hfirst
          next => cases hfirst
      | cons d s => exact absurd hparts readParts_ne_nil
    next => cases hrest

/-- A text that is an identifier of one part is read as that part, up to its end. -/
theorem readPart_of_parse {text : String} {part : Part} (h : Identifier.parse text = .ok ⟨[part]⟩) :
    readPart text.toList = .ok (part, []) := by
  unfold Identifier.parse at h
  simp only at h
  split at h
  next => cases h
  split at h
  next => cases h
  next =>
    obtain ⟨parts, hparts, hi⟩ := exists_ok_of_bind h
    obtain rfl := Identifier.mk.inj (Except.ok.inj hi)
    exact readPart_of_readParts hparts

/-- A label that is an identifier of one part is written closed. -/
theorem isClosed_quote_of_parse {label : String} {i : Identifier} (h : Identifier.parse label = .ok i)
    (hone : i.parts.length = 1) : isClosed (quote label).toList := by
  obtain ⟨parts⟩ := i
  obtain ⟨part, rfl⟩ := List.length_eq_one_iff.1 hone
  have hclosed := isClosed_quote_of_readPart (readPart_of_parse h)
  rwa [String.ofList_toList] at hclosed

/-! ## Reading what is written -/

theorem replaced_cons_of_ne {c : Char} (hc : c ≠ '"') (s : List Char) :
    replaced '"' ['"', '"'] (c :: s) = c :: replaced '"' ['"', '"'] s := by
  unfold replaced
  rw [List.flatMap_cons, if_neg hc]
  rfl

/-- A quoted name is read up to its closing quote. -/
theorem readQuoted_replaced {rest : List Char} (hrest : ∀ s, rest ≠ '"' :: s) (name : List Char) :
    readQuoted (replaced '"' ['"', '"'] name ++ '"' :: rest) = .ok (name, rest) := by
  induction name with
  | nil =>
    show readQuoted ('"' :: rest) = _
    rw [readQuoted]
    · rfl
    · exact hrest
  | cons c name ih =>
    by_cases hc : c = '"'
    · subst hc
      show readQuoted ('"' :: '"' :: (replaced '"' ['"', '"'] name ++ '"' :: rest)) = _
      rw [readQuoted, ih]
      rfl
    · rw [replaced_cons_of_ne hc, List.cons_append, readQuoted, ih]
      · rfl
      · exact fun _ h _ => hc h
      · exact hc

theorem eq_of_readQuoted {s name rest : List Char} (h : readQuoted s = .ok (name, rest)) :
    s = replaced '"' ['"', '"'] name ++ '"' :: rest := by
  fun_induction readQuoted s generalizing name with
  | case1 => cases h
  | case2 t ih =>
    obtain ⟨⟨inner, after⟩, hinner, hrest⟩ := exists_ok_of_bind h
    obtain ⟨rfl, rfl⟩ := Prod.mk.inj (Except.ok.inj hrest)
    rw [ih hinner]
    rfl
  | case3 t _ =>
    obtain ⟨rfl, rfl⟩ := Prod.mk.inj (Except.ok.inj h)
    rfl
  | case4 c t _ hc ih =>
    obtain ⟨⟨inner, after⟩, hinner, hrest⟩ := exists_ok_of_bind h
    obtain ⟨rfl, rfl⟩ := Prod.mk.inj (Except.ok.inj hrest)
    rw [ih hinner, replaced_cons_of_ne fun h => hc h]
    rfl

/-- What may follow a part: nothing, or the dot in front of another. -/
def Ends (rest : List Char) : Prop := ∀ c ∈ rest.head?, c = '.'

theorem readBareRest_append {name rest : List Char} (hname : ∀ c ∈ name, isNameRest c) (hrest : Ends rest) :
    readBareRest (name ++ rest) = .ok (name, rest) := by
  induction name with
  | nil =>
    cases rest with
    | nil => rfl
    | cons c rest =>
      obtain rfl := hrest c rfl
      rfl
  | cons c name ih =>
    have hc := hname c List.mem_cons_self
    have hdot : c ≠ '.' := by
      rintro rfl
      revert hc
      decide
    rw [List.cons_append, readBareRest, if_neg hdot, if_pos hc, ih fun d hd => hname d (List.mem_cons_of_mem _ hd)]
    rfl

/-- Whether a part is one: a name is not empty, and a bare one has only the characters of those. -/
def Part.Spelled : Part → Prop
  | .bare name => ∃ c rest, name.toList = c :: rest ∧ isNameStart c ∧ ∀ d ∈ rest, isNameRest d
  | .quoted name => name ≠ ""

theorem not_nameStart_of {c : Char} (h : isNameStart c) : c ≠ '"' ∧ c ≠ '.' := by
  refine ⟨?_, ?_⟩ <;> rintro rfl <;> revert h <;> decide

/-- A part that is written is read back. -/
theorem readPart_sql {p : Part} {rest : List Char} (hp : p.Spelled) (hrest : Ends rest) :
    readPart (p.sql.toList ++ rest) = .ok (p, rest) := by
  cases p with
  | bare name =>
    obtain ⟨c, s, hname, hc, hs⟩ := hp
    obtain ⟨hquote, hdot⟩ := not_nameStart_of hc
    show readPart (name.toList ++ rest) = _
    rw [hname, List.cons_append, readPart, if_neg hdot, if_pos hc, readBareRest_append hs hrest]
    · show Except.ok (Part.bare (String.ofList (c :: s)), rest) = _
      rw [← hname, String.ofList_toList]
    · exact hquote
  | quoted name =>
    have hnext : ∀ s, rest ≠ '"' :: s := by
      rintro s rfl
      exact absurd (hrest '"' rfl) (by decide)
    have hempty : name.toList.isEmpty = false := by
      rw [List.isEmpty_eq_false_iff]
      exact fun h => hp (String.toList_injective h)
    show readPart ((quoteName name).toList ++ rest) = _
    rw [quoteName_eq, List.append_assoc, List.cons_append, List.singleton_append, readPart,
      readQuoted_replaced hnext]
    show (do
      if name.toList.isEmpty then throw .emptyQuoted
      pure (Part.quoted (String.ofList name.toList), rest) : Except IdentifierFault (Part × List Char)) = _
    rw [hempty, String.ofList_toList]
    rfl

theorem Part.Spelled.toList_sql_ne_nil {p : Part} (hp : p.Spelled) : p.sql.toList ≠ [] := by
  cases p with
  | bare name =>
    obtain ⟨c, s, hname, -⟩ := hp
    show name.toList ≠ []
    rw [hname]
    exact List.cons_ne_nil c s
  | quoted name =>
    show (quoteName name).toList ≠ []
    rw [quoteName_eq]
    exact List.cons_ne_nil _ _

/-- Parts that are written one after another. -/
theorem toList_intercalate_cons (p q : Part) (parts : List Part) :
    (".".intercalate ((p :: q :: parts).map Part.sql)).toList =
      p.sql.toList ++ '.' :: (".".intercalate ((q :: parts).map Part.sql)).toList := by
  rw [List.map_cons, List.map_cons, String.intercalate_cons_cons, String.toList_append, String.toList_append,
    List.append_assoc]
  rfl

theorem intercalate_ne_nil {p : Part} (hp : p.Spelled) (parts : List Part) :
    (".".intercalate ((p :: parts).map Part.sql)).toList ≠ [] := by
  cases parts with
  | nil =>
    rw [List.map_cons, List.map_nil, String.intercalate_singleton]
    exact hp.toList_sql_ne_nil
  | cons q parts =>
    rw [toList_intercalate_cons]
    exact List.append_ne_nil_of_left_ne_nil hp.toList_sql_ne_nil _

theorem readParts_intercalate {parts : List Part} (hne : parts ≠ []) (hparts : ∀ p ∈ parts, p.Spelled)
    {fuel : Nat} (hfuel : parts.length ≤ fuel) :
    readParts fuel (".".intercalate (parts.map Part.sql)).toList = .ok parts := by
  induction parts generalizing fuel with
  | nil => exact absurd rfl hne
  | cons p parts ih =>
    obtain ⟨fuel, rfl⟩ : ∃ n, fuel = n + 1 := ⟨fuel - 1, by rw [List.length_cons] at hfuel; omega⟩
    have hp := hparts p List.mem_cons_self
    have hrest := fun r hr => hparts r (List.mem_cons_of_mem _ hr)
    cases parts with
    | nil =>
      have hends : Ends [] := fun _ hc => nomatch hc
      have hread := readPart_sql hp hends
      rw [List.append_nil] at hread
      rw [List.map_cons, List.map_nil, String.intercalate_singleton, readParts, hread]
      rfl
    | cons q parts =>
      have hends : Ends ('.' :: (".".intercalate ((q :: parts).map Part.sql)).toList) := by simp [Ends]
      have hread := readPart_sql hp hends
      have hmore := ih (List.cons_ne_nil q parts) hrest (Nat.le_of_succ_le_succ hfuel)
      have hnext := intercalate_ne_nil (hrest q List.mem_cons_self) parts
      rw [toList_intercalate_cons, readParts, hread]
      generalize (".".intercalate ((q :: parts).map Part.sql)).toList = next at hmore hnext
      cases next with
      | nil => exact absurd rfl hnext
      | cons c next =>
        show (readParts fuel (c :: next) >>= fun parts => pure (p :: parts)) = _
        rw [hmore]
        rfl

theorem length_le_intercalate {parts : List Part} (hparts : ∀ p ∈ parts, p.Spelled) :
    parts.length ≤ (".".intercalate (parts.map Part.sql)).toList.length := by
  induction parts with
  | nil => exact Nat.zero_le _
  | cons p parts ih =>
    have hp := List.length_pos_iff.2 (hparts p List.mem_cons_self).toList_sql_ne_nil
    have hrest := ih fun r hr => hparts r (List.mem_cons_of_mem _ hr)
    cases parts with
    | nil =>
      rw [List.map_cons, List.map_nil, String.intercalate_singleton]
      exact hp
    | cons q parts =>
      rw [toList_intercalate_cons]
      simp only [List.length_append, List.length_cons] at hrest ⊢
      omega

/-- An identifier that is written is read back. -/
theorem Identifier.parse_sql {i : Identifier} (hne : i.parts ≠ []) (hparts : ∀ p ∈ i.parts, p.Spelled)
    (hnul : '\x00' ∉ i.sql.toList) : Identifier.parse i.sql = .ok i := by
  obtain ⟨parts⟩ := i
  obtain ⟨p, rest, rfl⟩ := List.exists_cons_of_ne_nil hne
  have hempty : (Identifier.sql ⟨p :: rest⟩).toList.isEmpty = false :=
    List.isEmpty_eq_false_iff.2 (intercalate_ne_nil (hparts p List.mem_cons_self) rest)
  have hread : readParts (Identifier.sql ⟨p :: rest⟩).toList.length (Identifier.sql ⟨p :: rest⟩).toList =
      .ok (p :: rest) := readParts_intercalate hne hparts (length_le_intercalate hparts)
  unfold Identifier.parse
  dsimp only
  rw [hempty, if_neg Bool.false_ne_true, if_neg hnul, hread]
  rfl

theorem eq_of_readBareRest {s name rest : List Char} (h : readBareRest s = .ok (name, rest)) :
    s = name ++ rest := by
  induction s generalizing name with
  | nil =>
    obtain ⟨rfl, rfl⟩ := Prod.mk.inj (Except.ok.inj h)
    rfl
  | cons c s ih =>
    rw [readBareRest] at h
    split at h
    next =>
      obtain ⟨rfl, rfl⟩ := Prod.mk.inj (Except.ok.inj h)
      rfl
    split at h
    next =>
      obtain ⟨⟨inner, after⟩, hinner, hrest⟩ := exists_ok_of_bind h
      obtain ⟨rfl, rfl⟩ := Prod.mk.inj (Except.ok.inj hrest)
      rw [ih hinner]
      rfl
    next => cases h

/-- A part is what is read of it, written. -/
theorem eq_sql_of_readPart {s rest : List Char} {p : Part} (h : readPart s = .ok (p, rest)) :
    s = p.sql.toList ++ rest := by
  unfold readPart at h
  split at h
  next t =>
    obtain ⟨⟨name, after⟩, hname, hrest⟩ := exists_ok_of_bind h
    simp only at hrest
    split at hrest
    next => cases hrest
    next =>
      obtain ⟨rfl, rfl⟩ := Prod.mk.inj (Except.ok.inj hrest)
      show _ = (quoteName (String.ofList name)).toList ++ after
      rw [quoteName_eq, String.toList_ofList, eq_of_readQuoted hname, List.append_assoc]
      rfl
  next => cases h
  next c t hc =>
    split at h
    next => cases h
    split at h
    next =>
      obtain ⟨⟨name, after⟩, hname, hrest⟩ := exists_ok_of_bind h
      obtain ⟨rfl, rfl⟩ := Prod.mk.inj (Except.ok.inj hrest)
      show _ = (String.ofList (c :: name)).toList ++ after
      rw [String.toList_ofList, eq_of_readBareRest hname]
      rfl
    next => cases h

/-- An identifier of one part is that part as it is written. -/
theorem eq_sql_of_parse {text : String} {p : Part} (h : Identifier.parse text = .ok ⟨[p]⟩) : text = p.sql := by
  have hpart := eq_sql_of_readPart (readPart_of_parse h)
  rw [List.append_nil] at hpart
  exact String.toList_injective hpart

/-- A bare name has no quotes. -/
theorem not_mem_of_parse_bare {text name : String} (h : Identifier.parse text = .ok ⟨[.bare name]⟩) :
    '"' ∉ text.toList := by
  have hpart := readPart_of_parse h
  unfold readPart at hpart
  split at hpart
  next =>
    obtain ⟨⟨inner, after⟩, -, hrest⟩ := exists_ok_of_bind hpart
    simp only at hrest
    split at hrest
    next => cases hrest
    next => cases hrest
  next => cases hpart
  next c rest hc heq =>
    split at hpart
    next => cases hpart
    split at hpart
    next =>
      obtain ⟨⟨inner, after⟩, hinner, hrest⟩ := exists_ok_of_bind hpart
      obtain ⟨-, rfl⟩ := Prod.mk.inj (Except.ok.inj hrest)
      rw [heq]
      exact List.not_mem_cons_of_ne_of_not_mem (fun h => hc h.symm) (not_mem_of_readBareRest hinner)
    next => cases hpart

theorem mem_quoteName {name : String} {c : Char} (h : c ∈ (quoteName name).toList) :
    c ∈ name.toList ∨ c = '"' := by
  rw [quoteName_eq, List.cons_append, List.mem_cons, List.mem_append, List.mem_singleton] at h
  obtain h | h | h := h
  · exact .inr h
  · unfold replaced at h
    obtain ⟨d, hd, hmem⟩ := List.mem_flatMap.1 h
    split at hmem
    next => exact .inr (by simpa using hmem)
    next => exact .inl (List.mem_singleton.1 hmem ▸ hd)
  · exact .inr h

/-- A label is never quoted to a text without quotes. -/
theorem mem_quote (label : String) : '"' ∈ (quote label).toList := by
  have hbegins : ∀ s : List Char, Text.begins ['"'] s → '"' ∈ s := by
    intro s hs
    cases s with
    | nil => cases hs
    | cons c s =>
      by_cases hc : '"' = c
      · exact hc ▸ List.mem_cons_self
      · simp [Text.begins, Text.strip?, hc] at hs
  unfold quote
  split
  next h =>
    rw [Bool.or_eq_true] at h
    exact h.elim (hbegins _) fun hends => List.mem_reverse.1 (hbegins _ hends)
  next =>
    rw [String.toList_append, String.toList_append]
    exact List.mem_append_left _ (List.mem_append_left _ (by decide))

/-- A quoted name is read as that name. -/
theorem parse_quoteName {name : String} (hne : name ≠ "") (hnul : '\x00' ∉ name.toList) :
    Identifier.parse (quoteName name) = .ok ⟨[.quoted name]⟩ := by
  have hsql : Identifier.sql ⟨[.quoted name]⟩ = quoteName name := String.intercalate_singleton
  rw [← hsql]
  refine Identifier.parse_sql (List.cons_ne_nil _ _) (fun p hp => ?_) fun hmem => ?_
  · obtain rfl := List.mem_singleton.1 hp
    exact hne
  · rw [hsql] at hmem
    obtain hmem | hmem := mem_quoteName hmem
    · exact hnul hmem
    · cases hmem

end DeclaredTriggers.Sql
