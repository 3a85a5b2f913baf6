import DeclaredTriggers.Registry.Basic

/-!
# Identifiers of registered triggers

What can stand in the name that a trigger has in the database. A name that passed its check is made
of letters, digits, underscores and hyphens (`Definition.isNameCharacter`), the digits of a digest
are no others, and folding keeps such characters what they are:

> `Entry.isNameCharacter_of_mem_pgid`: every character of an entry's identifier is one of these.
>
> `Entry.pgid_eq_append`: the identifier begins as all managed ones do.
>
> `Trigger.exists_pgid`: every trigger has an identifier for every entity.

So no identifier can hold a quote, a comma, a brace, a backslash or a blank, whatever text it is
written into.
-/

namespace DeclaredTriggers

/-! ## Characters -/

/-- A fact about the first 128 characters is a check of each. -/
theorem forall_ascii {P : Char → Prop} (h : ∀ n < 128, P (Char.ofNat n)) (c : Char)
    (hc : c.toNat < 128) : P c := by
  have := h c.toNat hc
  rwa [Char.ofNat_toNat] at this

theorem Definition.toNat_lt_of_isNameCharacter {c : Char} (h : Definition.isNameCharacter c) :
    c.toNat < 128 := by
  simp only [Definition.isNameCharacter, Bool.or_eq_true, decide_eq_true_eq] at h
  rcases h with (h | rfl) | rfl
  · unfold Char.isAlphanum Char.isAlpha Char.isUpper Char.isLower Char.isDigit at h
    simp only [Bool.or_eq_true, Bool.and_eq_true, decide_eq_true_eq, UInt32.le_iff_toNat_le,
      ge_iff_le] at h
    change ((65 ≤ c.toNat ∧ c.toNat ≤ 90) ∨ (97 ≤ c.toNat ∧ c.toNat ≤ 122)) ∨
      (48 ≤ c.toNat ∧ c.toNat ≤ 57) at h
    omega
  · decide
  · decide

/-- Folding keeps the characters of a name. -/
theorem Definition.isNameCharacter_toLower {c : Char} (h : Definition.isNameCharacter c) :
    Definition.isNameCharacter c.toLower := by
  have hall : ∀ n < 128, Definition.isNameCharacter (Char.ofNat n) →
      Definition.isNameCharacter (Char.ofNat n).toLower := by decide
  have hc := Definition.toNat_lt_of_isNameCharacter h
  exact forall_ascii (P := fun c => isNameCharacter c → isNameCharacter c.toLower) hall c hc h

/-- A check in front of others finds nothing if it does not apply, and the others find nothing. -/
theorem check_eq_none_iff {α : Type} {p : Prop} [Decidable p] {fault : α} {rest : Option α} :
    (if p then some fault else rest) = none ↔ ¬ p ∧ rest = none := by
  split
  next h => exact ⟨nofun, fun hnot => absurd h hnot.1⟩
  next h => exact (and_iff_right h).symm

/-- A name passes its check if it is short and plain. -/
theorem Definition.nameFault?_eq_none_iff {name : String} : Definition.nameFault? name = none ↔
    name ≠ "" ∧ Text.byteSize name ≤ maxNameLength ∧ ∀ c ∈ name.toList, Definition.isNameCharacter c := by
  simp only [Definition.nameFault?, check_eq_none_iff]
  simp

/-- The characters of a name that passed its check. -/
theorem Definition.isNameCharacter_of_nameFault? {name : String}
    (h : Definition.nameFault? name = none) {c : Char} (hc : c ∈ name.toList) :
    Definition.isNameCharacter c := (Definition.nameFault?_eq_none_iff.1 h).2.2 c hc

/-- The digits of a byte are those of a name. -/
theorem Digest.isNameCharacter_of_mem_hexByte {b : UInt8} {c : Char} (h : c ∈ Digest.hexByte b) :
    Definition.isNameCharacter c := by
  have hdigit : ∀ n < 16, Definition.isNameCharacter (Nat.digitChar n) := by decide
  have hb := b.toNat_lt
  unfold Digest.hexByte at h
  rcases List.mem_cons.1 h with rfl | h
  · exact hdigit _ (by omega)
  · rw [List.mem_singleton] at h
    subst h
    exact hdigit _ (by omega)

theorem Digest.isNameCharacter_of_mem_sha1 {text : String} {c : Char}
    (h : c ∈ (Digest.sha1 text).toList) : Definition.isNameCharacter c := by
  unfold Digest.sha1 Digest.sha1Hex at h
  rw [String.toList_ofList] at h
  obtain ⟨w, -, hw⟩ := List.mem_flatMap.1 h
  obtain ⟨b, -, hb⟩ := List.mem_flatMap.1 hw
  exact isNameCharacter_of_mem_hexByte hb

/-! ## Identifiers -/

theorem Text.byteLength_of_ascii {s : List Char} (h : ∀ c ∈ s, c.toNat < 128) :
    Text.byteLength s = s.length := by
  induction s with
  | nil => rfl
  | cons c s ih =>
    have hone : c.utf8Size = 1 := by
      have hc : c.val ≤ 127 := UInt32.le_iff_toNat_le.2 (Nat.le_of_lt_succ (h c List.mem_cons_self))
      exact if_pos hc
    rw [Text.byteLength, ih fun d hd => h d (List.mem_cons_of_mem _ hd), hone, List.length_cons]
    omega

/-- A name that passed its check leaves room for the rest of the identifier. -/
theorem Trigger.exists_pgid (t : Trigger) (e : Entity) : ∃ pgid, t.pgid e = .ok pgid := by
  have hname : Text.byteSize t.name ≤ maxNameLength := (Definition.nameFault?_eq_none_iff.1 t.named).2.1
  have hdigits : Text.byteLength ((Digest.sha1 (t.uri e)).toList.take 5) ≤ 5 := by
    rw [Text.byteLength_of_ascii fun c hc =>
      Definition.toNat_lt_of_isNameCharacter (Digest.isNameCharacter_of_mem_sha1 (List.mem_of_mem_take hc))]
    exact List.length_take_le _ _
  have hlead : Text.byteLength identifierLead.toList = 10 := by decide
  have hbar : Text.byteLength "_".toList = 1 := by decide
  unfold Trigger.pgid
  simp only
  rw [if_neg]
  · exact ⟨_, rfl⟩
  · unfold Text.byteSize at hname ⊢
    simp only [String.toList_append, String.toList_ofList, Text.byteLength_append]
    unfold maxIdentifierLength
    unfold maxNameLength at hname
    omega

namespace Entry

/-- An identifier before its length is checked. -/
theorem pgid_eq_folded (x : Entry) :
    x.pgid = Sql.folded (identifierLead ++ x.trigger.name ++ "_" ++
      String.ofList ((Digest.sha1 (x.trigger.uri x.entity)).toList.take 5)) := by
  have h := x.pgid_eq
  unfold Trigger.pgid at h
  simp only at h
  split at h
  next => cases h
  next => exact (Except.ok.inj h).symm

/-- Every character of an identifier is one of a name already before it is folded. -/
theorem isNameCharacter_of_mem_unfolded (x : Entry) {c : Char}
    (h : c ∈ (identifierLead ++ x.trigger.name ++ "_" ++
      String.ofList ((Digest.sha1 (x.trigger.uri x.entity)).toList.take 5)).toList) :
    Definition.isNameCharacter c := by
  simp only [String.toList_append, String.toList_ofList, List.mem_append] at h
  rcases h with ((h | h) | h) | h
  · have hlead : identifierLead.toList.all Definition.isNameCharacter := by decide
    exact List.all_eq_true.1 hlead c h
  · exact Definition.isNameCharacter_of_nameFault? x.trigger.named h
  · have hbar : "_".toList.all Definition.isNameCharacter := by decide
    exact List.all_eq_true.1 hbar c h
  · exact Digest.isNameCharacter_of_mem_sha1 (List.mem_of_mem_take h)

/-- Every character of an entry's identifier is a letter, a digit, an underscore or a hyphen. -/
theorem isNameCharacter_of_mem_pgid (x : Entry) {c : Char} (h : c ∈ x.pgid.toList) :
    Definition.isNameCharacter c := by
  rw [x.pgid_eq_folded, Sql.folded, String.toList_ofList] at h
  obtain ⟨d, hd, rfl⟩ := List.mem_map.1 h
  exact Definition.isNameCharacter_toLower (x.isNameCharacter_of_mem_unfolded hd)

/-- An entry's identifier begins as all managed ones do. -/
theorem pgid_eq_append (x : Entry) : ∃ rest, x.pgid.toList = identifierLead.toList ++ rest := by
  rw [x.pgid_eq_folded, Sql.folded, String.toList_ofList, String.append_assoc, String.append_assoc,
    String.toList_append, List.map_append]
  have hlead : identifierLead.toList.map Char.toLower = identifierLead.toList := by decide
  rw [hlead]
  exact ⟨_, rfl⟩

end Entry

end DeclaredTriggers
