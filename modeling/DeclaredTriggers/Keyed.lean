/-!
# Maps in the order of their keys

A finite map from texts, kept as its pairs in ascending order of key, so that two maps are equal
exactly when they hold the same pairs, and a listing of one is always in order. `Names` is the
special case of a set of texts.
-/

namespace DeclaredTriggers

/-- A finite map from texts, its pairs in ascending order of key. -/
structure Keyed (α : Type) where
  /-- The pairs of the map. -/
  entries : List (String × α)
  /-- Each key is below the ones after it. -/
  sorted : entries.Pairwise (·.1 < ·.1) := by simp

namespace Keyed

variable {α : Type}

/-- Two maps with the same pairs are equal. -/
@[ext] theorem ext_entries {m n : Keyed α} (h : m.entries = n.entries) : m = n := by
  cases m; cases n; cases h; rfl

/-- The map with no pair. -/
def empty : Keyed α := { entries := [] }

instance : Inhabited (Keyed α) := ⟨empty⟩
instance : EmptyCollection (Keyed α) := ⟨empty⟩

/-- `k` put in its place among pairs in ascending order; a pair with the same key gives way. -/
def insertEntry (k : String) (a : α) : List (String × α) → List (String × α)
  | [] => [(k, a)]
  | (k', a') :: rest =>
    if k < k' then (k, a) :: (k', a') :: rest
    else if k' < k then (k', a') :: insertEntry k a rest
    else (k, a) :: rest

theorem mem_insertEntry {k : String} {a : α} {es : List (String × α)} {e : String × α}
    (h : e ∈ insertEntry k a es) : e = (k, a) ∨ e ∈ es := by
  induction es with
  | nil => simpa [insertEntry] using h
  | cons p es ih =>
    obtain ⟨k', a'⟩ := p
    simp only [insertEntry] at h
    split at h
    next => simpa using h
    next =>
      split at h
      next =>
        rcases List.mem_cons.1 h with h | h
        · exact .inr (h ▸ List.mem_cons_self)
        · exact (ih h).imp_right (List.mem_cons_of_mem _)
      next =>
        rcases List.mem_cons.1 h with h | h
        · exact .inl h
        · exact .inr (List.mem_cons_of_mem _ h)

theorem pairwise_insertEntry (k : String) (a : α) {es : List (String × α)}
    (h : es.Pairwise (·.1 < ·.1)) : (insertEntry k a es).Pairwise (·.1 < ·.1) := by
  induction es with
  | nil => simp [insertEntry]
  | cons p es ih =>
    obtain ⟨k', a'⟩ := p
    obtain ⟨hk', hes⟩ := List.pairwise_cons.1 h
    simp only [insertEntry]
    split
    next hlt =>
      refine List.pairwise_cons.2 ⟨fun e he => ?_, h⟩
      rcases List.mem_cons.1 he with rfl | he
      · exact hlt
      · exact String.lt_trans hlt (hk' e he)
    next hge =>
      split
      next hlt =>
        refine List.pairwise_cons.2 ⟨fun e he => ?_, ih hes⟩
        rcases mem_insertEntry he with rfl | he
        · exact hlt
        · exact hk' e he
      next hle =>
        have hkk : k = k' := String.le_antisymm (String.not_lt.1 hle) (String.not_lt.1 hge)
        exact List.pairwise_cons.2 ⟨hkk ▸ hk', hes⟩

/-- The map that sends `k` to `a` and every other key where it was sent before. -/
def insert (m : Keyed α) (k : String) (a : α) : Keyed α :=
  { entries := insertEntry k a m.entries, sorted := pairwise_insertEntry k a m.sorted }

/-- The map without the key `k`. -/
def erase (m : Keyed α) (k : String) : Keyed α :=
  { entries := m.entries.filter (·.1 ≠ k), sorted := m.sorted.filter _ }

/-- The value of a key. -/
def find? (m : Keyed α) (k : String) : Option α := m.entries.lookup k

/-- Whether a key has a value. -/
def contains (m : Keyed α) (k : String) : Bool := (m.find? k).isSome

/-- The keys in ascending order. -/
def keys (m : Keyed α) : List String := m.entries.map (·.1)

/-- The values in ascending order of their keys. -/
def values (m : Keyed α) : List α := m.entries.map (·.2)

/-- How many keys have a value. -/
def size (m : Keyed α) : Nat := m.entries.length

/-- The map of a list of pairs; of two pairs with one key the later counts. -/
def ofList (ps : List (String × α)) : Keyed α :=
  ps.foldl (fun m (k, a) => m.insert k a) empty

/-- The map with the value of `k`, or `start` if it has none, replaced by its image. -/
def update (m : Keyed α) (k : String) (start : α) (f : α → α) : Keyed α :=
  m.insert k (f ((m.find? k).getD start))

end Keyed

/-- A finite set of texts, in ascending order. -/
abbrev Names := Keyed Unit

namespace Names

/-- The set with one more text. -/
def add (s : Names) (n : String) : Names := s.insert n ()

/-- The set of the texts of a list. -/
def ofList (ns : List String) : Names := ns.foldl add Keyed.empty

end Names

end DeclaredTriggers
