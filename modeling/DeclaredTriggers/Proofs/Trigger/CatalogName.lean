import DeclaredTriggers.Proofs.Database.Namespace
import DeclaredTriggers.Proofs.Session.Suppression
import DeclaredTriggers.Proofs.Sql.Spelling
import DeclaredTriggers.Proofs.Sql.Tokens

/-!
# The name of a trigger in the database

One trigger is written in four places: the statements that install it, the catalog, the name its function
asks for when it runs, and the array of the triggers to ignore. They meet only if none of them is changed on the
way: a database folds a name that stands without quotes, and cuts one that is too long (`nameRead?`). An
identifier is folded before it is written, it is short enough whatever the label is, and its quotes are left
away only where folding changes nothing:

> `Trigger.exists_fitting_pgid`: every trigger has an identifier for every entity, and the database reads it back
> as it is, both from a statement and from an array.
-/

namespace DeclaredTriggers

open Sql (Identifier Part)

/-! ## Reading a name -/

/-- The name that a database reads: in small letters if it stands without quotes, and cut to the bytes it keeps. -/
def nameRead? (text : String) : Option String :=
  match Identifier.parse text with
  | .ok ⟨[part]⟩ => some (String.ofList (Text.takeBytes maxNameBytes (TableName.ofPart part).toList))
  | _ => none

theorem nameRead?_of_parse {text name : String} {p : Part} (h : Identifier.parse text = .ok ⟨[p]⟩)
    (hname : TableName.ofPart p = name) (hfits : Text.byteSize name ≤ maxNameBytes) :
    nameRead? text = some name := by
  unfold nameRead?
  rw [h]
  show some (String.ofList (Text.takeBytes maxNameBytes (TableName.ofPart p).toList)) = _
  rw [hname, Text.takeBytes_of_le hfits, String.ofList_toList]

-- without quotes a name is folded, with quotes it is not
example : nameRead? "pgtrigger_Keep" = some "pgtrigger_keep" ∧
    nameRead? "\"pgtrigger_Keep\"" = some "pgtrigger_Keep" := by decide

/-! ## The characters of an identifier -/

/-- Whether a character may stand in an identifier. -/
def isIdentifierCharacter (c : Char) : Bool := c.isLower || c.isDigit || c = '_' || c = '-'

/-- Folding makes a character of a name one of an identifier. -/
theorem isIdentifierCharacter_toLower {c : Char} (h : Definition.isNameCharacter c) :
    isIdentifierCharacter c.toLower := by
  have hall : ∀ n < 128, Definition.isNameCharacter (Char.ofNat n) →
      isIdentifierCharacter (Char.ofNat n).toLower := by decide
  exact forall_ascii (P := fun c => Definition.isNameCharacter c → isIdentifierCharacter c.toLower) hall c
    (Definition.toNat_lt_of_isNameCharacter h) h

namespace Entry

/-- An identifier has no capitals: it was folded. -/
theorem isIdentifierCharacter_of_mem_pgid (x : Entry) {c : Char} (h : c ∈ x.pgid.toList) :
    isIdentifierCharacter c := by
  rw [x.pgid_eq_folded, Sql.folded, String.toList_ofList] at h
  obtain ⟨d, hd, rfl⟩ := List.mem_map.1 h
  exact isIdentifierCharacter_toLower (x.isNameCharacter_of_mem_unfolded hd)

/-- All of an identifier's characters take one byte. -/
theorem byteLength_pgid (x : Entry) : Text.byteLength x.pgid.toList = x.pgid.toList.length :=
  Text.byteLength_of_ascii fun _ hc => Definition.toNat_lt_of_isNameCharacter (x.isNameCharacter_of_mem_pgid hc)

/-- Folding leaves the length as it was checked. -/
theorem byteSize_pgid_le (x : Entry) : Text.byteSize x.pgid ≤ maxNameBytes := by
  have hchecked := x.pgid_eq
  unfold Trigger.pgid at hchecked
  simp only at hchecked
  split at hchecked
  next => cases hchecked
  next hle =>
    have hfolded := Except.ok.inj hchecked
    have hascii := Text.byteLength_of_ascii fun c hc =>
      Definition.toNat_lt_of_isNameCharacter (x.isNameCharacter_of_mem_unfolded hc)
    unfold Text.byteSize at hle ⊢
    rw [x.byteLength_pgid, ← hfolded, Sql.folded, String.toList_ofList, List.length_map, ← hascii]
    exact Nat.le_of_not_lt hle

/-! ## The identifier, read back -/

/-- An identifier is read back as it is: it stands without quotes only where folding leaves it alone. -/
theorem nameRead?_triggerName (x : Entry) : nameRead? (Sql.triggerName x.pgid) = some x.pgid := by
  obtain ⟨rest, hlead⟩ := x.pgid_eq_append
  have hcons : x.pgid.toList = 'p' :: ("gtrigger_".toList ++ rest) := hlead
  have hne : x.pgid ≠ "" := by
    intro hempty
    rw [hempty] at hcons
    cases hcons
  have hnul : '\x00' ∉ x.pgid.toList := fun hmem => absurd (x.isNameCharacter_of_mem_pgid hmem) (by decide)
  unfold Sql.triggerName
  split
  next hplain =>
    have hcharacter : ∀ c ∈ x.pgid.toList, Sql.isNameRest c ∧ c.toLower = c := by
      intro c hc
      have hsmall := List.all_eq_true.1 hplain c hc
      refine ⟨Namespace.isNameRest_of_small ?_, (Sql.plain_character hsmall).2⟩
      grind
    have hsql : Identifier.sql ⟨[.bare x.pgid]⟩ = x.pgid := String.intercalate_singleton
    have hparse : Identifier.parse x.pgid = .ok ⟨[.bare x.pgid]⟩ := by
      rw [← hsql]
      refine Identifier.parse_sql (List.cons_ne_nil _ _) (fun p hp => ?_) (by rwa [hsql])
      obtain rfl := List.mem_singleton.1 hp
      refine ⟨'p', _, hcons, by decide, fun d hd => (hcharacter d ?_).1⟩
      rw [hcons]
      exact List.mem_cons_of_mem _ hd
    refine nameRead?_of_parse hparse ?_ x.byteSize_pgid_le
    show String.ofList (x.pgid.toList.map Char.toLower) = _
    rw [List.map_congr_left fun c hc => (hcharacter c hc).2, List.map_id', String.ofList_toList]
  next => exact nameRead?_of_parse (Sql.parse_quoteName hne hnul) rfl x.byteSize_pgid_le

end Entry

/-- Every trigger has an identifier for every entity, whatever the entity is called. It fits into the bytes of a
name, it begins as all managed ones do and has no capitals, and it depends on the label and the trigger's name
alone. A statement that writes it names just it, and so does the array of the triggers to ignore. -/
theorem Trigger.exists_fitting_pgid (t : Trigger) (e : Entity) :
    ∃ pgid, t.pgid e = .ok pgid ∧
      Text.byteSize pgid ≤ maxNameBytes ∧
      (∃ rest, pgid.toList = identifierLead.toList ++ rest) ∧
      (∀ c ∈ pgid.toList, isIdentifierCharacter c) ∧
      (∀ (t' : Trigger) (e' : Entity), e'.label = e.label → t'.name = t.name → t'.pgid e' = .ok pgid) ∧
      nameRead? (Sql.triggerName pgid) = some pgid ∧
      ∀ o : Overrides, o.Registered → ∃ read,
        (Sql.literalText? o.ignoreLiteral).bind Sql.arrayElements? = some read ∧
          (some pgid ∈ read ↔ pgid ∈ o.ignored.keys) := by
  obtain ⟨pgid, hpgid⟩ := t.exists_pgid e
  let x : Entry := ⟨e, t, pgid, hpgid⟩
  refine ⟨pgid, hpgid, x.byteSize_pgid_le, x.pgid_eq_append, fun c hc => x.isIdentifierCharacter_of_mem_pgid hc,
    fun t' e' hlabel hname => ?_, x.nameRead?_triggerName, fun o ho => ⟨_, ho.elements, ?_⟩⟩
  · rw [← hpgid]
    unfold Trigger.pgid Trigger.uri
    rw [hlabel, hname]
  · constructor
    · intro hmem
      obtain ⟨id, hid, hsame⟩ := List.mem_map.1 hmem
      exact Option.some.inj hsame ▸ hid
    · exact fun hmem => List.mem_map_of_mem hmem

end DeclaredTriggers
