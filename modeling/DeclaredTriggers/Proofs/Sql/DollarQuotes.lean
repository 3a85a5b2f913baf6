import DeclaredTriggers.Proofs.Sql.Fragments

/-!
# Bodies in dollar quotes

A body that begins behind two dollar signs ends at the next two. Where a body is made of fixed text and of a
caller's texts, only the caller's can hold such a pair, since the fixed text between them holds no dollar sign:

> `occurs_around`: what stands on either side of fixed text is looked through apart.
>
> `splitFirst?_body_iff`: a body ends where it was meant to if and only if it has no pair of its own.

Doubling quotes and backslashes, which keeps a text inside a literal, does nothing about dollar signs
(`occurs_quoteLiteral`).
-/

namespace DeclaredTriggers.Text

/-! ## Ends of a body -/

/-- In front of the first place where a text occurs, it does not occur. -/
theorem occurs_of_splitFirst? {sep s before rest : List Char} (hsep : sep ≠ [])
    (h : splitFirst? sep s = some (before, rest)) : occurs sep before = false := by
  have hnil : occurs sep [] = false := by
    obtain ⟨c, sep, rfl⟩ := List.exists_cons_of_ne_nil hsep
    rfl
  induction s generalizing before with
  | nil =>
    obtain ⟨_, -, he⟩ := Option.map_eq_some_iff.1 h
    cases he
    exact hnil
  | cons c s ih =>
    rw [splitFirst?] at h
    split at h
    next =>
      cases h
      exact hnil
    next hstrip =>
      obtain ⟨⟨before, r⟩, hsplit, he⟩ := Option.map_eq_some_iff.1 h
      cases he
      rw [Sql.occurs_cons, ih hsplit, Bool.or_false]
      -- what begins in front of the place begins in the whole
      rw [begins, Option.isSome_eq_false_iff, Option.isNone_iff_eq_none, Option.eq_none_iff_forall_ne_some]
      intro q hq
      rw [eq_of_splitFirst? hsplit, List.append_assoc, ← List.cons_append, eq_append_of_strip? hq,
        List.append_assoc, strip?_append] at hstrip
      cases hstrip

theorem begins_cons (p c : Char) (lead s : List Char) :
    begins (p :: lead) (c :: s) = (decide (p = c) && begins lead s) := by
  unfold begins
  rw [strip?]
  split
  next h => rw [decide_eq_true h, Bool.true_and]
  next h => rw [decide_eq_false h, Bool.false_and]; rfl

theorem begins_nil (s : List Char) : begins [] s = true := rfl

/-- A body ends where it was meant to if and only if it has no pair of dollar signs of its own. -/
theorem splitFirst?_body_iff {s : List Char} (hlast : s.getLast? ≠ some '$') (t : List Char) :
    splitFirst? ['$', '$'] (s ++ ('$' :: '$' :: t)) = some (s, t) ↔ occurs ['$', '$'] s = false := by
  refine ⟨occurs_of_splitFirst? (by simp), fun h => ?_⟩
  induction s with
  | nil => exact splitFirst?.eq_def .. ▸ rfl
  | cons c s ih =>
    rw [Sql.occurs_cons, Bool.or_eq_false_iff] at h
    have hnone : strip? ['$', '$'] (c :: (s ++ ('$' :: '$' :: t))) = none := by
      rw [← Option.isNone_iff_eq_none, ← Option.isSome_eq_false_iff]
      show begins _ _ = false
      cases s with
      | nil =>
        have hc : '$' ≠ c := fun hc => hlast (by rw [hc]; rfl)
        rw [begins_cons, decide_eq_false hc, Bool.false_and]
      | cons d s =>
        rw [begins_cons, begins_cons, begins_nil] at h
        rw [List.cons_append, begins_cons, begins_cons, begins_nil, h.1]
    have hrest : s.getLast? ≠ some '$' := by
      cases s with
      | nil => simp
      | cons d s => rwa [List.getLast?_cons_cons] at hlast
    rw [List.cons_append, splitFirst?, hnone, ih hrest h.2]
    rfl

/-! ## Fixed text around fragments -/

section

variable {x : List Char} (h : '$' ∉ x)

include h

/-- Fixed text in front of another. -/
theorem occurs_behind (t : List Char) : occurs ['$', '$'] (x ++ t) = occurs ['$', '$'] t := by
  induction x with
  | nil => rfl
  | cons c x ih =>
    have hc : '$' ≠ c := fun hc => h (hc ▸ List.mem_cons_self)
    rw [List.cons_append, Sql.occurs_cons, begins_cons, decide_eq_false hc, Bool.false_and, Bool.false_or,
      ih fun hx => h (List.mem_cons_of_mem _ hx)]

theorem occurs_of_not_mem : occurs ['$', '$'] x = false := by
  have hall := occurs_behind h []
  rwa [List.append_nil] at hall

/-- What stands on either side of fixed text is looked through apart. -/
theorem occurs_around (hne : x ≠ []) (s t : List Char) :
    occurs ['$', '$'] (s ++ (x ++ t)) = (occurs ['$', '$'] s || occurs ['$', '$'] t) := by
  induction s with
  | nil => exact occurs_behind h t
  | cons c s ih =>
    have hhead : begins ['$'] (s ++ (x ++ t)) = begins ['$'] s := by
      cases s with
      | nil =>
        obtain ⟨d, x, rfl⟩ := List.exists_cons_of_ne_nil hne
        have hd : '$' ≠ d := fun hd => h (hd ▸ List.mem_cons_self)
        rw [List.nil_append, List.cons_append, begins_cons, decide_eq_false hd, Bool.false_and]
        rfl
      | cons d s => rw [List.cons_append, begins_cons, begins_cons, begins_nil, begins_nil]
    rw [List.cons_append, Sql.occurs_cons, Sql.occurs_cons, begins_cons, begins_cons, hhead, ih, Bool.or_assoc]

/-- Fixed text behind another. -/
theorem occurs_in_front (hne : x ≠ []) (s : List Char) : occurs ['$', '$'] (s ++ x) = occurs ['$', '$'] s := by
  have hall := occurs_around h hne s []
  rwa [List.append_nil, show occurs ['$', '$'] [] = false from rfl, Bool.or_false] at hall

end

/-- Texts with fixed text between them are looked through one by one. -/
theorem occurs_intercalate {sep : String} (hsep : '$' ∉ sep.toList) (hne : sep.toList ≠ [])
    (texts : List String) :
    occurs ['$', '$'] (sep.intercalate texts).toList = texts.any fun x => occurs ['$', '$'] x.toList := by
  induction texts with
  | nil => rfl
  | cons text texts ih =>
    cases texts with
    | nil => rw [String.intercalate_singleton]; simp
    | cons next texts =>
      rw [String.intercalate_cons_cons, String.toList_append, String.toList_append, List.append_assoc,
        occurs_around hsep hne, ih]
      rfl

/-- Putting other characters for a character changes nothing about dollar signs. -/
theorem occurs_replaced {c : Char} {cs : List Char} (hc : '$' ≠ c) (hcs : '$' ∉ cs) (hne : cs ≠ [])
    (s : List Char) : occurs ['$', '$'] (replaced c cs s) = occurs ['$', '$'] s := by
  have hcons : ∀ (d : Char) (s : List Char), replaced c cs (d :: s) =
      (if d = c then cs else [d]) ++ replaced c cs s := fun _ _ => rfl
  have hhead : ∀ s, begins ['$'] (replaced c cs s) = begins ['$'] s := by
    intro s
    cases s with
    | nil => rfl
    | cons d s =>
      rw [hcons]
      split
      next hd =>
        obtain ⟨e, cs, rfl⟩ := List.exists_cons_of_ne_nil hne
        have he : '$' ≠ e := fun he => hcs (he ▸ List.mem_cons_self)
        rw [List.cons_append, begins_cons, begins_cons, decide_eq_false he, hd, decide_eq_false hc,
          Bool.false_and, Bool.false_and]
      next => rw [List.singleton_append, begins_cons, begins_cons, begins_nil, begins_nil]
  induction s with
  | nil => rfl
  | cons d s ih =>
    rw [hcons, Sql.occurs_cons, begins_cons]
    split
    next hd => rw [occurs_behind hcs, ih, hd, decide_eq_false hc, Bool.false_and, Bool.false_or]
    next => rw [List.singleton_append, Sql.occurs_cons, begins_cons, hhead, ih]

theorem occurs_quotesDoubled (s : String) :
    occurs ['$', '$'] (quotesDoubled s).toList = occurs ['$', '$'] s.toList := by
  rw [quotesDoubled, String.toList_ofList (l := replaced '\'' ['\'', '\''] s.toList)]
  exact occurs_replaced (by decide) (by decide) (by simp) _

end DeclaredTriggers.Text

namespace DeclaredTriggers.Sql

open Text (occurs replaced)

/-! ## Names and literals -/

theorem occurs_quoteName (name : String) :
    occurs ['$', '$'] (quoteName name).toList = occurs ['$', '$'] name.toList := by
  rw [quoteName_eq]
  show occurs _ (['"'] ++ (_ ++ ['"'])) = _
  rw [Text.occurs_behind (by decide), Text.occurs_in_front (by decide) (by simp),
    Text.occurs_replaced (by decide) (by decide) (by simp)]

theorem occurs_quote (label : String) :
    occurs ['$', '$'] (quote label).toList = occurs ['$', '$'] label.toList := by
  unfold quote
  split
  next => rfl
  next =>
    rw [String.toList_append, String.toList_append, List.append_assoc, Text.occurs_behind (by decide),
      Text.occurs_in_front (by decide) (by decide)]

/-- A literal has a pair of dollar signs where its text has one. -/
theorem occurs_quoteLiteral {text literal : String} (h : quoteLiteral text = .ok literal) :
    occurs ['$', '$'] literal.toList = occurs ['$', '$'] text.toList := by
  have hdoubled : occurs ['$', '$'] (replaced '\'' ['\'', '\''] text.toList) = occurs ['$', '$'] text.toList :=
    Text.occurs_replaced (by decide) (by decide) (by simp) _
  rcases quoteLiteral_eq h with h | h
  · rw [h]
    show occurs _ (['\''] ++ (_ ++ ['\''])) = _
    rw [Text.occurs_behind (by decide), Text.occurs_in_front (by decide) (by simp), hdoubled]
  · rw [h]
    show occurs _ (['E', '\''] ++ (_ ++ ['\''])) = _
    rw [Text.occurs_behind (by decide), Text.occurs_in_front (by decide) (by simp),
      Text.occurs_replaced (by decide) (by decide) (by simp), hdoubled]

end DeclaredTriggers.Sql
