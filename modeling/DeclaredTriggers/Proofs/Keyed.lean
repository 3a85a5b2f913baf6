import DeclaredTriggers.Keyed
import Mathlib.Data.List.Nodup

/-!
# Maps and sets by their keys

What can be looked up in a `Keyed` map after a change, and that a set of texts is known by its members:

> `mem_keys_insert`, `mem_keys_erase`: a change adds or takes away one key.
>
> `Keyed.ext_find?`: maps in which every key has the same value are equal.
>
> `nodup_map_values_iff`: what is read off the values is distinct exactly if no two keys have the same.
>
> `Names.ext_keys`: sets with the same members are equal.
-/

namespace DeclaredTriggers

namespace Keyed

variable {α : Type} {m : Keyed α} {k k' : String}

theorem mem_keys_insert {a : α} : k' ∈ (m.insert k a).keys ↔ k' = k ∨ k' ∈ m.keys := by
  have hentries : ∀ es : List (String × α),
      k' ∈ (insertEntry k a es).map (·.1) ↔ k' = k ∨ k' ∈ es.map (·.1) := by
    intro es
    induction es with
    | nil => simp [insertEntry]
    | cons e es ih =>
      obtain ⟨l, b⟩ := e
      simp only [insertEntry]
      split
      next => simp
      next =>
        split
        next => simp only [List.map_cons, List.mem_cons, ih, or_left_comm]
        next hge hle =>
          -- neither key is below the other, so the pair that was there gives way
          have hkl : k = l := String.le_antisymm (String.not_lt.1 hle) (String.not_lt.1 hge)
          subst hkl
          simp
  exact hentries m.entries

theorem mem_keys_erase : k' ∈ (m.erase k).keys ↔ k' ≠ k ∧ k' ∈ m.keys := by
  simp only [keys, erase, List.mem_map, List.mem_filter, decide_eq_true_eq]
  constructor
  · rintro ⟨e, ⟨he, hk⟩, rfl⟩
    exact ⟨hk, e, he, rfl⟩
  · rintro ⟨hk, e, he, rfl⟩
    exact ⟨e, ⟨he, hk⟩, rfl⟩

theorem mem_keys_eraseAll {ks : List String} :
    k ∈ (ks.foldl erase m).keys ↔ k ∉ ks ∧ k ∈ m.keys := by
  induction ks generalizing m with
  | nil => simp
  | cons k' ks ih =>
    rw [List.foldl_cons, ih, mem_keys_erase, List.mem_cons, not_or, and_assoc, and_left_comm]

theorem contains_iff : m.contains k ↔ k ∈ m.keys := by
  unfold contains find? keys
  induction m.entries with
  | nil => simp
  | cons e es ih =>
    obtain ⟨l, b⟩ := e
    by_cases hkl : k = l
    · subst hkl
      simp
    · rw [List.lookup_cons, beq_false_of_ne hkl, List.map_cons, List.mem_cons]
      simp only [hkl, false_or]
      exact ih

theorem mem_keys_iff : k ∈ m.keys ↔ ∃ a, m.find? k = some a := by
  rw [← contains_iff, contains, Option.isSome_iff_exists]

theorem find?_insert {a : α} : (m.insert k a).find? k' = if k' = k then some a else m.find? k' := by
  have hentries : ∀ es : List (String × α),
      (insertEntry k a es).lookup k' = if k' = k then some a else es.lookup k' := by
    intro es
    induction es with
    | nil =>
      by_cases hk : k' = k
      · simp [insertEntry, hk]
      · simp [insertEntry, hk, List.lookup_cons, beq_false_of_ne hk]
    | cons e es ih =>
      obtain ⟨l, b⟩ := e
      simp only [insertEntry]
      split
      next =>
        by_cases hk : k' = k
        · simp [hk]
        · simp [hk, List.lookup_cons, beq_false_of_ne hk]
      next =>
        split
        next hlt =>
          by_cases hl : k' = l
          · subst hl
            have hk : k' ≠ k := fun h => String.lt_irrefl k (h ▸ hlt)
            simp [hk]
          · simp [List.lookup_cons, beq_false_of_ne hl, ih]
        next hge hle =>
          have hkl : k = l := String.le_antisymm (String.not_lt.1 hle) (String.not_lt.1 hge)
          subst hkl
          by_cases hk : k' = k
          · simp [hk]
          · simp [hk, List.lookup_cons, beq_false_of_ne hk]
  exact hentries m.entries

theorem find?_update {start : α} {f : α → α} : (m.update k start f).find? k' =
    if k' = k then some (f ((m.find? k).getD start)) else m.find? k' := find?_insert

theorem find?_erase : (m.erase k).find? k' = if k' = k then none else m.find? k' := by
  have hentries : ∀ es : List (String × α),
      (es.filter (·.1 ≠ k)).lookup k' = if k' = k then none else es.lookup k' := by
    intro es
    induction es with
    | nil => simp
    | cons e es ih =>
      obtain ⟨l, b⟩ := e
      by_cases hlk : l = k
      · subst hlk
        rw [List.filter_cons_of_neg (by simp), ih]
        by_cases hk : k' = l
        · simp [hk]
        · simp [hk, List.lookup_cons, beq_false_of_ne hk]
      · rw [List.filter_cons_of_pos (by simpa using hlk), List.lookup_cons, List.lookup_cons, ih]
        by_cases hl : k' = l
        · subst hl
          simp [hlk]
        · simp [beq_false_of_ne hl]
  exact hentries m.entries

theorem mem_entries_iff {a : α} : (k, a) ∈ m.entries ↔ m.find? k = some a := by
  have hentries : ∀ es : List (String × α), es.Pairwise (·.1 < ·.1) →
      ((k, a) ∈ es ↔ es.lookup k = some a) := by
    intro es hes
    induction es with
    | nil => simp
    | cons e es ih =>
      obtain ⟨l, b⟩ := e
      obtain ⟨hl, hes⟩ := List.pairwise_cons.1 hes
      by_cases hk : k = l
      · -- the key occurs in no pair behind the first
        subst hk
        have hnot : (k, a) ∉ es := fun hmem => String.lt_irrefl k (hl _ hmem)
        simp [hnot, eq_comm]
      · simp [List.lookup_cons, beq_false_of_ne hk, hk, ih hes]
  exact hentries m.entries m.sorted

/-- The keys of a map are in ascending order. -/
theorem pairwise_keys (m : Keyed α) : m.keys.Pairwise (· < ·) := List.pairwise_map.2 m.sorted

theorem nodup_keys (m : Keyed α) : m.keys.Nodup := by
  refine m.pairwise_keys.imp ?_
  rintro a b hlt rfl
  exact String.lt_irrefl a hlt

/-- Maps in which every key has the same value are equal. -/
theorem ext_find? {n : Keyed α} (h : ∀ k, m.find? k = n.find? k) : m = n := by
  have hnodup : ∀ l : Keyed α, l.entries.Nodup := fun l => List.Nodup.of_map Prod.fst l.nodup_keys
  have hmem : ∀ e, e ∈ m.entries ↔ e ∈ n.entries := by
    rintro ⟨k, a⟩
    rw [mem_entries_iff, mem_entries_iff, h k]
  -- both list the same pairs in ascending order, and no two pairs have one key
  refine ext_entries (List.Perm.eq_of_pairwise ?_ m.sorted n.sorted
    ((List.perm_ext_iff_of_nodup (hnodup m) (hnodup n)).2 hmem))
  intro a b _ _ hab hba
  exact absurd (String.lt_trans hab hba) (String.lt_irrefl a.1)

theorem mem_values_iff {a : α} : a ∈ m.values ↔ ∃ k, m.find? k = some a := by
  unfold values
  rw [List.mem_map]
  constructor
  · rintro ⟨⟨k, a⟩, he, rfl⟩
    exact ⟨k, mem_entries_iff.1 he⟩
  · rintro ⟨k, hk⟩
    exact ⟨(k, a), mem_entries_iff.2 hk, rfl⟩

/-- What is read off the values is distinct exactly if no two keys have the same. -/
theorem nodup_map_values_iff {β : Type} {f : α → β} : (m.values.map f).Nodup ↔
    ∀ k l a b, m.find? k = some a → m.find? l = some b → f a = f b → k = l := by
  have hmap : m.values.map f = m.entries.map fun e => f e.2 := by
    unfold values
    rw [List.map_map]
    rfl
  have hentries : m.entries.Nodup := List.Nodup.of_map Prod.fst m.nodup_keys
  rw [hmap]
  constructor
  · intro h k l a b hk hl hf
    exact congrArg Prod.fst (List.inj_on_of_nodup_map h (mem_entries_iff.2 hk) (mem_entries_iff.2 hl) hf)
  · intro h
    refine (List.nodup_map_iff_inj_on hentries).2 ?_
    rintro ⟨k, a⟩ hk ⟨l, b⟩ hl hf
    have hk := mem_entries_iff.1 hk
    have hl := mem_entries_iff.1 hl
    obtain rfl := h k l a b hk hl hf
    rw [Option.some.inj (hk.symm.trans hl)]

end Keyed

namespace Names

/-- Sets with the same members are equal. -/
theorem ext_keys {s t : Names} (h : ∀ k, k ∈ s.keys ↔ k ∈ t.keys) : s = t := by
  have hkeys : s.keys = t.keys := by
    refine List.Perm.eq_of_pairwise ?_ s.pairwise_keys t.pairwise_keys
      ((List.perm_ext_iff_of_nodup s.nodup_keys t.nodup_keys).2 h)
    intro a b _ _ hab hba
    exact absurd (String.lt_trans hab hba) (String.lt_irrefl a)
  have hpairs : ∀ m : Names, m.entries = m.keys.map fun k => (k, ()) := fun m => by
    rw [Keyed.keys, List.map_map]
    exact (List.map_id m.entries).symm
  apply Keyed.ext_entries
  rw [hpairs s, hpairs t, hkeys]

end Names

end DeclaredTriggers
