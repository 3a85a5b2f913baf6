import DeclaredTriggers.Entity.Derive
import DeclaredTriggers.Proofs.Act
import DeclaredTriggers.Proofs.Sql.Expression.Lexeme
import Mathlib.Data.List.Basic

/-!
# What a declaration describes

The attributes of a declaration are read one after another, the fields as well, and the key column is settled on
the way. What comes of it can be said without that order: which declarations describe an entity
(`Declaration.Sound`), and which entity that is.

> `entity_eq_ok_iff`: a declaration describes an entity exactly if it is sound, and only the one it spells out.
>
> `entity_exact`: the fields are those that are not skipped, with their columns; the key is that of the documented
> key field exactly if the field is marked or its column is called `id`, and so is the row a soft delete keeps.
-/

namespace DeclaredTriggers.Derive

/-! ## What attributes say -/

/-- The text of a value, if it is one. -/
def AttributeValue.text? : AttributeValue → Option String
  | .text s => some s
  | .none | .literal => Option.none

/-- Whether a key stands alone among items. -/
def marks (key : String) (items : List (String × AttributeValue)) : Bool :=
  decide ((key, AttributeValue.none) ∈ items)

/-- The last text that items give for a key. -/
def lastText? (key : String) (items : List (String × AttributeValue)) : Option String :=
  (items.filterMap fun (k, v) => if k = key then v.text? else none).getLast?

/-- An item that a struct's attributes may have. -/
inductive IsEntityItem : String × AttributeValue → Prop where
  | text {key s : String} : key ∈ ["table", "app", "database"] → s ≠ "" → IsEntityItem (key, .text s)

/-- An item that a field's attributes may have. -/
inductive IsFieldItem : String × AttributeValue → Prop where
  | mark {key : String} : key ∈ ["id", "fk", "auto", "skip"] → IsFieldItem (key, .none)
  | column {s : String} : IsFieldItem ("column", .text s)

namespace StructField

/-- Whether a field is marked with a key. -/
def isMarked (f : StructField) (key : String) : Bool := marks key (ownItems f.attributes)

/-- The column that a field's own attributes name. -/
def explicitColumn? (f : StructField) : Option String := lastText? "column" (ownItems f.attributes)

/-- The column behind a field: the one it names, else its name, with `_id` after it for a reference. -/
def column (f : StructField) : String :=
  f.explicitColumn?.getD (if f.isMarked "fk" then plainName f.name ++ "_id" else plainName f.name)

/-- The field of the entity. -/
def described (f : StructField) : Field where
  name := plainName f.name
  column := f.column
  kind := if f.isMarked "fk" then .foreignKey else .scalar
  auto := f.isMarked "auto"

/-- Whether a field's attributes can be read: each is known, and one that is skipped says nothing else. -/
structure Sound (f : StructField) : Prop where
  items : ∀ item ∈ ownItems f.attributes, IsFieldItem item
  alone : f.isMarked "skip" → ∀ item ∈ ownItems f.attributes, item = ("skip", .none)

end StructField

namespace Declaration

/-- The fields that are not skipped. -/
def kept (d : Declaration) : List StructField := d.fields.filter fun f => !f.isMarked "skip"

/-- Whether a declaration describes an entity. -/
structure Sound (d : Declaration) : Prop where
  named : d.shape = .named
  items : ∀ item ∈ ownItems d.attributes, IsEntityItem item
  fields : ∀ f ∈ d.fields, f.Sound
  oneKey : d.fields.countP (·.isMarked "id") ≤ 1

/-- The entity that a declaration spells out. -/
def described (d : Declaration) : Entity where
  label := (lastText? "app" (ownItems d.attributes)).elim (plainName d.name) (· ++ "." ++ plainName d.name)
  table := (lastText? "table" (ownItems d.attributes)).getD (Text.snakeCase (plainName d.name))
  primaryKey := (d.fields.find? (·.isMarked "id")).elim "id" StructField.column
  fields := d.kept.map StructField.described
  database := lastText? "database" (ownItems d.attributes)

/-- The field that the key column is documented to be of: the one that is marked, else the one that is called
`id`. -/
def keyField? (d : Declaration) : Option StructField :=
  (d.fields.find? (·.isMarked "id")).or (d.kept.find? fun f => plainName f.name = "id")

end Declaration

/-! ## Reading the attributes -/

/-- Checks that go over a list, where each passes what it is given on and says what it makes of it. -/
theorem foldlM_eq_ok_iff {ε α β : Type} {f : β → α → Except ε β} {P : α → Prop} {g : β → α → β}
    (h : ∀ b a b', f b a = .ok b' ↔ P a ∧ b' = g b a) {xs : List α} {b b' : β} :
    xs.foldlM f b = .ok b' ↔ (∀ a ∈ xs, P a) ∧ b' = xs.foldl g b := by
  induction xs generalizing b with
  | nil => exact ⟨fun hall => ⟨by simp, (Except.ok.inj hall).symm⟩, fun hall => hall.2 ▸ rfl⟩
  | cons a xs ih =>
    rw [List.foldlM_cons, List.forall_mem_cons, List.foldl_cons]
    constructor
    · intro hall
      obtain ⟨next, hnext, hrest⟩ := exists_ok_of_bind hall
      obtain ⟨ha, rfl⟩ := (h _ _ _).1 hnext
      obtain ⟨hxs, hb'⟩ := ih.1 hrest
      exact ⟨⟨ha, hxs⟩, hb'⟩
    · rintro ⟨⟨ha, hxs⟩, hb'⟩
      rw [(h _ _ _).2 ⟨ha, rfl⟩]
      exact ih.2 ⟨hxs, hb'⟩

theorem AttributeValue.absent_eq_ok_iff {v : AttributeValue} {u : Unit} : v.absent = .ok u ↔ v = .none := by
  cases v with
  | none => exact ⟨fun _ => rfl, fun _ => rfl⟩
  | text _ | literal => exact ⟨nofun, nofun⟩

theorem AttributeValue.asText_eq_ok_iff {v : AttributeValue} {s : String} : v.asText = .ok s ↔ v = .text s := by
  cases v with
  | text t => exact ⟨fun h => by rw [Except.ok.inj h], fun h => by rw [AttributeValue.text.inj h]; rfl⟩
  | none | literal => exact ⟨nofun, nofun⟩

theorem someText_eq_ok_iff {v : AttributeValue} {s : String} : someText v = .ok s ↔ v = .text s ∧ s ≠ "" := by
  unfold someText
  constructor
  · intro h
    obtain ⟨t, ht, hrest⟩ := exists_ok_of_bind h
    obtain rfl := AttributeValue.asText_eq_ok_iff.1 ht
    by_cases hempty : t.isEmpty
    · simp only [if_pos hempty] at hrest
      cases hrest
    · simp only [if_neg hempty] at hrest
      obtain rfl := Except.ok.inj hrest
      exact ⟨rfl, by simpa using hempty⟩
  · rintro ⟨rfl, hs⟩
    have hempty : ¬s.isEmpty := by simpa using hs
    show (if s.isEmpty then throw Fault.emptyValue else pure s : Except Fault String) = _
    rw [if_neg hempty]
    rfl

theorem lastText?_cons (key : String) (item : String × AttributeValue) (items : List (String × AttributeValue)) :
    lastText? key (item :: items) = (lastText? key items).or (lastText? key [item]) := by
  unfold lastText?
  rw [← List.singleton_append, List.filterMap_append, List.getLast?_append]

theorem marks_cons (key : String) (item : String × AttributeValue) (items : List (String × AttributeValue)) :
    marks key (item :: items) = (marks key [item] || marks key items) := by
  simp [marks, Bool.decide_or]

/-- The options of a struct after some items. -/
def EntityOptions.after (o : EntityOptions) (items : List (String × AttributeValue)) : EntityOptions where
  table := (lastText? "table" items).or o.table
  app := (lastText? "app" items).or o.app
  database := (lastText? "database" items).or o.database

theorem EntityOptions.add_eq_ok_iff {o o' : EntityOptions} {item : String × AttributeValue} :
    o.add item = .ok o' ↔ IsEntityItem item ∧ o' = o.after [item] := by
  constructor
  · intro h
    unfold EntityOptions.add at h
    split at h
    case h_4 => cases h
    all_goals
      obtain ⟨s, hs, hrest⟩ := exists_ok_of_bind h
      obtain ⟨rfl, hne⟩ := someText_eq_ok_iff.1 hs
      obtain rfl := Except.ok.inj hrest
      exact ⟨.text (by simp) hne, by simp [after, lastText?, AttributeValue.text?]⟩
  · rintro ⟨⟨hkey, hne⟩, rfl⟩
    have hsome := someText_eq_ok_iff.2 ⟨rfl, hne⟩
    simp only [List.mem_cons, List.not_mem_nil, or_false] at hkey
    rcases hkey with rfl | rfl | rfl <;>
      simp [add, hsome, after, lastText?, AttributeValue.text?, bind, Except.bind, pure, Except.pure]

theorem EntityOptions.foldlM_add_iff {o o' : EntityOptions} {items : List (String × AttributeValue)} :
    items.foldlM EntityOptions.add o = .ok o' ↔ (∀ item ∈ items, IsEntityItem item) ∧ o' = o.after items := by
  have hall : items.foldl (fun o item => o.after [item]) o = o.after items := by
    induction items generalizing o with
    | nil => simp [after, lastText?]
    | cons item items ih =>
      rw [List.foldl_cons, ih]
      simp only [after, lastText?_cons _ item items, Option.or_assoc]
  rw [← hall]
  exact foldlM_eq_ok_iff (f := EntityOptions.add) fun _ _ _ => add_eq_ok_iff

/-- The options of a field after some items. -/
def FieldOptions.after (o : FieldOptions) (items : List (String × AttributeValue)) : FieldOptions where
  isKey := o.isKey || marks "id" items
  column := (lastText? "column" items).or o.column
  isReference := o.isReference || marks "fk" items
  isAuto := o.isAuto || marks "auto" items
  skip := o.skip || marks "skip" items

theorem FieldOptions.add_eq_ok_iff {o o' : FieldOptions} {item : String × AttributeValue} :
    o.add item = .ok o' ↔ IsFieldItem item ∧ o' = o.after [item] := by
  constructor
  · intro h
    unfold FieldOptions.add at h
    split at h
    case h_6 => cases h
    case h_5 =>
      obtain ⟨s, hs, hrest⟩ := exists_ok_of_bind h
      obtain rfl := AttributeValue.asText_eq_ok_iff.1 hs
      obtain rfl := Except.ok.inj hrest
      exact ⟨.column, by simp [after, marks, lastText?, AttributeValue.text?]⟩
    all_goals
      obtain ⟨_, hs, hrest⟩ := exists_ok_of_bind h
      obtain rfl := AttributeValue.absent_eq_ok_iff.1 hs
      obtain rfl := Except.ok.inj hrest
      exact ⟨.mark (by simp), by simp [after, marks, lastText?, AttributeValue.text?]⟩
  · rintro ⟨hitem, rfl⟩
    cases hitem with
    | column => simp [add, AttributeValue.asText, after, marks, lastText?, AttributeValue.text?, bind, Except.bind,
        pure, Except.pure]
    | mark hkey =>
      simp only [List.mem_cons, List.not_mem_nil, or_false] at hkey
      rcases hkey with rfl | rfl | rfl | rfl <;>
        simp [add, AttributeValue.absent, after, marks, lastText?, AttributeValue.text?, bind, Except.bind, pure,
          Except.pure]

theorem FieldOptions.foldlM_add_iff {o o' : FieldOptions} {items : List (String × AttributeValue)} :
    items.foldlM FieldOptions.add o = .ok o' ↔ (∀ item ∈ items, IsFieldItem item) ∧ o' = o.after items := by
  have hall : items.foldl (fun o item => o.after [item]) o = o.after items := by
    induction items generalizing o with
    | nil => simp [after, marks, lastText?]
    | cons item items ih =>
      rw [List.foldl_cons, ih]
      simp only [after, lastText?_cons _ item items, marks_cons _ item items, Option.or_assoc, Bool.or_assoc]
  rw [← hall]
  exact foldlM_eq_ok_iff (f := FieldOptions.add) fun _ _ _ => add_eq_ok_iff

theorem isSome_lastText?_iff {key : String} {items : List (String × AttributeValue)} :
    (lastText? key items).isSome ↔ ∃ s, (key, AttributeValue.text s) ∈ items := by
  unfold lastText?
  rw [List.getLast?_isSome, ne_eq, List.filterMap_eq_nil_iff]
  constructor
  · intro h
    by_contra hno
    refine h ?_
    rintro ⟨k, v⟩ hmem
    dsimp only
    split
    next hk =>
      cases v with
      | text s => exact absurd ⟨s, hk ▸ hmem⟩ hno
      | none | literal => rfl
    next => rfl
  · rintro ⟨s, hmem⟩ h
    have hnone := h _ hmem
    simp [AttributeValue.text?] at hnone

/-! ## Reading the fields -/

/-- A field that is skipped and says something else is what its options show. -/
theorem StructField.alone_iff {f : StructField} (h : ∀ item ∈ ownItems f.attributes, IsFieldItem item) :
    (f.isMarked "skip" → ∀ item ∈ ownItems f.attributes, item = ("skip", AttributeValue.none)) ↔
      (f.isMarked "skip" &&
        (f.isMarked "id" || f.isMarked "fk" || f.isMarked "auto" || f.explicitColumn?.isSome)) = false := by
  rw [Bool.and_eq_false_imp]
  refine imp_congr_right fun _ => ?_
  simp only [Bool.or_eq_false_iff]
  constructor
  · intro hall
    have hmark : ∀ key, key ≠ "skip" → f.isMarked key = false := fun key hkey => by
      refine decide_eq_false fun hmem => hkey ?_
      exact (Prod.mk.inj (hall _ hmem)).1
    refine ⟨⟨⟨hmark _ (by decide), hmark _ (by decide)⟩, hmark _ (by decide)⟩, ?_⟩
    rw [Bool.eq_false_iff]
    intro hcolumn
    obtain ⟨s, hmem⟩ := isSome_lastText?_iff.1 hcolumn
    exact absurd (Prod.mk.inj (hall _ hmem)).1 (by decide)
  · rintro ⟨⟨⟨hid, hfk⟩, hauto⟩, hcolumn⟩ item hitem
    have hnot : ∀ {key}, f.isMarked key = false → (key, AttributeValue.none) ∉ ownItems f.attributes :=
      fun hkey => of_decide_eq_false hkey
    cases h item hitem with
    | column => exact absurd (isSome_lastText?_iff.2 ⟨_, hitem⟩) (by rw [← explicitColumn?, hcolumn]; simp)
    | mark hkey =>
      simp only [List.mem_cons, List.not_mem_nil, or_false] at hkey
      rcases hkey with rfl | rfl | rfl | rfl
      · exact absurd hitem (hnot hid)
      · exact absurd hitem (hnot hfk)
      · exact absurd hitem (hnot hauto)
      · rfl

/-- The options of a field by what it says. -/
theorem FieldOptions.after_ownItems (f : StructField) : ({} : FieldOptions).after (ownItems f.attributes) =
    { isKey := f.isMarked "id", column := f.explicitColumn?, isReference := f.isMarked "fk",
      isAuto := f.isMarked "auto", skip := f.isMarked "skip" } := by
  simp [after, StructField.isMarked, StructField.explicitColumn?]

theorem FieldOptions.of_eq_ok_iff {f : StructField} {o : FieldOptions} :
    FieldOptions.of f = .ok o ↔ f.Sound ∧ o = ({} : FieldOptions).after (ownItems f.attributes) := by
  unfold FieldOptions.of
  constructor
  · intro h
    obtain ⟨o', ho', hrest⟩ := exists_ok_of_bind h
    obtain ⟨hitems, rfl⟩ := FieldOptions.foldlM_add_iff.1 ho'
    rw [after_ownItems] at hrest ⊢
    split at hrest
    next => cases hrest
    next halone =>
      refine ⟨⟨hitems, (StructField.alone_iff hitems).2 ?_⟩, (Except.ok.inj hrest).symm⟩
      simpa using halone
  · rintro ⟨hsound, rfl⟩
    rw [FieldOptions.foldlM_add_iff.2 ⟨hsound.items, rfl⟩, after_ownItems]
    have halone := (StructField.alone_iff hsound.items).1 hsound.alone
    show (if _ then _ else _ : Except Fault FieldOptions) = _
    rw [if_neg (by rw [halone]; simp)]
    rfl

/-- A field's options give the field that it spells out. -/
theorem fieldOf_after (f : StructField) :
    fieldOf f (({} : FieldOptions).after (ownItems f.attributes)) = f.described := by
  rw [FieldOptions.after_ownItems]
  unfold fieldOf StructField.described StructField.column
  cases f.isMarked "fk" <;> rfl

/-- A field that is skipped is not marked as the key. -/
theorem StructField.Sound.not_key {f : StructField} (h : f.Sound) (hskip : f.isMarked "skip") :
    f.isMarked "id" = false :=
  decide_eq_false fun hmem => absurd (Prod.mk.inj (h.alone hskip _ hmem)).1 (by decide)

/-- An entity with more fields, the first of them that is marked becoming the key. -/
def withFields (e : Entity) (fs : List StructField) : Entity :=
  { e with
    fields := e.fields ++ (fs.filter fun f => !f.isMarked "skip").map StructField.described
    primaryKey := (fs.find? (·.isMarked "id")).elim e.primaryKey StructField.column }

theorem withFields_nil (e : Entity) : withFields e [] = e := by simp [withFields]

/-- Fields are put to an entity one by one, if no key comes behind a key. -/
theorem withFields_cons (e : Entity) {f : StructField} {fs : List StructField}
    (h : f.isMarked "id" → fs.countP (·.isMarked "id") = 0) :
    withFields (withFields e [f]) fs = withFields e (f :: fs) := by
  have hkey : (fs.find? (·.isMarked "id")).elim (withFields e [f]).primaryKey StructField.column =
      ((f :: fs).find? (·.isMarked "id")).elim e.primaryKey StructField.column := by
    cases hid : f.isMarked "id" with
    | true =>
      have hnone : fs.find? (·.isMarked "id") = none := by
        rw [List.find?_eq_none]
        exact List.countP_eq_zero.1 (h hid)
      simp [withFields, hnone, hid]
    | false => simp [withFields, hid]
  unfold withFields at hkey ⊢
  simp only [hkey, Entity.mk.injEq, and_true, true_and]
  rw [List.append_assoc, ← List.map_append, ← List.filter_append, List.singleton_append]

/-- One more field is read exactly if it is sound and no second key. -/
theorem addField_eq_ok_iff {e : Entity} {settled : Bool} {f : StructField} {r : Entity × Bool} :
    addField (e, settled) f = .ok r ↔
      f.Sound ∧ (f.isMarked "id" → settled = false) ∧ r = (withFields e [f], settled || f.isMarked "id") := by
  have hread : ∀ hsound : f.Sound, addField (e, settled) f =
      if settled && f.isMarked "id" then .error .secondKey
      else .ok (withFields e [f], settled || f.isMarked "id") := by
    intro hsound
    have hskip := hsound.not_key
    unfold addField
    rw [FieldOptions.of_eq_ok_iff.2 ⟨hsound, rfl⟩]
    show (if _ then _ else _ : Except Fault (Entity × Bool)) = _
    rw [fieldOf_after, FieldOptions.after_ownItems]
    unfold withFields
    cases hskipped : f.isMarked "skip" with
    | true => simp [hskipped, hskip hskipped, pure, Except.pure]
    | false => cases hid : f.isMarked "id" <;> cases settled <;> simp [hskipped, hid] <;> rfl
  constructor
  · intro h
    obtain ⟨o, ho, -⟩ := exists_ok_of_bind h
    obtain ⟨hsound, -⟩ := FieldOptions.of_eq_ok_iff.1 ho
    rw [hread hsound] at h
    split at h
    next => cases h
    next hfirst =>
      refine ⟨hsound, fun hid => ?_, (Except.ok.inj h).symm⟩
      simpa [hid] using hfirst
  · rintro ⟨hsound, hfirst, rfl⟩
    rw [hread hsound, if_neg]
    simp only [Bool.and_eq_true, not_and]
    rintro rfl hid
    cases hfirst hid

/-- A key is the only one exactly if none was settled before and none comes behind. -/
theorem toNat_add_countP_le_iff {settled : Bool} {f : StructField} {fs : List StructField} :
    settled.toNat + (f :: fs).countP (·.isMarked "id") ≤ 1 ↔
      (f.isMarked "id" → settled = false ∧ fs.countP (·.isMarked "id") = 0) ∧
        (settled || f.isMarked "id").toNat + fs.countP (·.isMarked "id") ≤ 1 := by
  rw [List.countP_cons]
  generalize fs.countP (·.isMarked "id") = count
  cases f.isMarked "id" <;> cases settled <;> grind

/-- Fields are read exactly if each is sound and at most one is marked as the key. -/
theorem foldlM_addField_iff {e : Entity} {settled : Bool} {fs : List StructField} {r : Entity × Bool} :
    fs.foldlM addField (e, settled) = .ok r ↔
      (∀ f ∈ fs, f.Sound) ∧ settled.toNat + fs.countP (·.isMarked "id") ≤ 1 ∧
        r = (withFields e fs, settled || fs.any (·.isMarked "id")) := by
  induction fs generalizing e settled with
  | nil =>
    rw [withFields_nil]
    constructor
    · intro h
      obtain rfl := Except.ok.inj h
      exact ⟨by simp, by cases settled <;> simp, by simp⟩
    · rintro ⟨-, -, rfl⟩
      simp [pure, Except.pure]
  | cons f fs ih =>
    rw [List.foldlM_cons, List.forall_mem_cons, toNat_add_countP_le_iff, List.any_cons, ← Bool.or_assoc]
    constructor
    · intro h
      obtain ⟨next, hnext, hrest⟩ := exists_ok_of_bind h
      obtain ⟨hsound, hfirst, rfl⟩ := addField_eq_ok_iff.1 hnext
      obtain ⟨hsounds, hcount, rfl⟩ := ih.1 hrest
      have honly : f.isMarked "id" → fs.countP (·.isMarked "id") = 0 := fun hid => by
        rw [hid, Bool.or_true, Bool.toNat_true] at hcount
        omega
      exact ⟨⟨hsound, hsounds⟩, ⟨fun hid => ⟨hfirst hid, honly hid⟩, hcount⟩, by rw [withFields_cons e honly]⟩
    · rintro ⟨⟨hsound, hsounds⟩, ⟨hfirst, hcount⟩, rfl⟩
      rw [addField_eq_ok_iff.2 ⟨hsound, fun hid => (hfirst hid).1, rfl⟩]
      exact ih.2 ⟨hsounds, hcount, by rw [withFields_cons e fun hid => (hfirst hid).2]⟩

/-- A declaration describes an entity exactly if it is sound, and only the one it spells out. -/
theorem entity_eq_ok_iff {d : Declaration} {e : Entity} : entity d = .ok e ↔ d.Sound ∧ e = d.described := by
  have hdescribed : ∀ options : EntityOptions, options = ({} : EntityOptions).after (ownItems d.attributes) →
      withFields
        { label := options.app.elim (plainName d.name) (· ++ "." ++ plainName d.name)
          table := options.table.getD (Text.snakeCase (plainName d.name))
          database := options.database } d.fields = d.described := by
    rintro _ rfl
    simp [withFields, EntityOptions.after, Declaration.described, Declaration.kept]
  unfold entity
  constructor
  · intro h
    obtain ⟨options, hoptions, hrest⟩ := exists_ok_of_bind h
    obtain ⟨hitems, hafter⟩ := EntityOptions.foldlM_add_iff.1 hoptions
    split at hrest
    next => cases hrest
    next => cases hrest
    next hnamed =>
      obtain ⟨r, hr, hlast⟩ := exists_ok_of_bind hrest
      obtain ⟨hfields, hcount, rfl⟩ := foldlM_addField_iff.1 hr
      rw [Bool.toNat_false, Nat.zero_add] at hcount
      refine ⟨⟨hnamed, hitems, hfields, hcount⟩, ?_⟩
      rw [← hdescribed options hafter]
      exact (Except.ok.inj hlast).symm
  · rintro ⟨hsound, rfl⟩
    have hcount : Bool.toNat false + d.fields.countP (·.isMarked "id") ≤ 1 := by simpa using hsound.oneKey
    rw [EntityOptions.foldlM_add_iff.2 ⟨hsound.items, rfl⟩, hsound.named, ← hdescribed _ rfl]
    show (List.foldlM addField _ _ >>= _) = _
    rw [foldlM_addField_iff.2 ⟨hsound.fields, hcount, rfl⟩]
    rfl

end DeclaredTriggers.Derive

namespace DeclaredTriggers

open Sql.Expression (Lexeme Spells spells_quoteName)

/-! ## Soft deletes -/

namespace Kind

/-- The test whether a row has the key of the deleted one. -/
def keyTest (key : String) : String := Sql.quoteName key ++ " = OLD." ++ Sql.quoteName key

/-- The body that sets a column where a row was to be deleted, the row being found by its key. -/
def deletion (table column value key : String) : String :=
  "UPDATE " ++ Sql.quote table ++ " SET " ++ Sql.quoteName column ++ " = " ++ value ++
    (" WHERE " ++ keyTest key ++ "; RETURN NULL;")

/-- The test is read as a comparison of the key column with that of the deleted row. -/
theorem spells_keyTest (key : String) : Spells (keyTest key).toList
    [.name key.toList, .operator ['='], .word "OLD".toList, .mark '.', .name key.toList] := by
  have hrest : Spells (" = OLD.".toList ++ (Sql.quoteName key).toList)
      ([.operator ['='], .word "OLD".toList, .mark '.'] ++ [.name key.toList]) :=
    .behind rfl (spells_quoteName key)
  unfold keyTest
  rw [String.append_assoc, String.toList_append, String.toList_append]
  exact (spells_quoteName key).delimited (c := ' ') (by decide) hrest

theorem deletion_inj {table column value key key' : String} :
    deletion table column value key = deletion table column value key' ↔ key = key' := by
  refine ⟨fun h => ?_, fun h => h ▸ rfl⟩
  unfold deletion at h
  have htests : keyTest key = keyTest key' := by
    simpa only [String.append_right_inj, String.append_left_inj] using h
  have hlexemes := (spells_keyTest key).lexemes.symm.trans (htests ▸ (spells_keyTest key').lexemes)
  exact String.toList_injective (Lexeme.name.inj (List.cons.inj hlexemes).1)

/-- A soft delete finds the row by the entity's key. -/
theorem body_softDelete {e : Entity} {field column text : String} {value : Value}
    (hcolumn : e.column? field = some column) (hvalue : value.sql = .ok text) (op : Operation) :
    (softDelete field value).body e op = .ok (deletion e.table column text e.primaryKey) := by
  have hfound : e.column field = .ok column := by
    unfold Entity.column
    rw [hcolumn]
    rfl
  simp only [body, hfound, hvalue]
  show Except.ok _ = _
  simp only [deletion, keyTest, String.append_assoc]
  rfl

end Kind

namespace Derive

/-- Just the sound declarations describe an entity. Its fields are those that are not skipped, in their order and
with their columns. Its key is the column of the field that is marked, or else of the one called `id`, exactly if
that one is marked or its column is called `id`; and exactly then a soft delete finds the row by that column. -/
theorem entity_exact (d : Declaration) :
    ((∃ e, entity d = .ok e) ↔ d.Sound) ∧
      ∀ e, entity d = .ok e →
        e.fields = d.kept.map StructField.described ∧
        ∀ f, d.keyField? = some f →
          (e.primaryKey = f.column ↔ f.isMarked "id" ∨ f.column = "id") ∧
          ∀ field column value text op, e.column? field = some column → value.sql = .ok text →
            ∃ body, (Kind.softDelete field value).body e op = .ok body ∧
              (body = Kind.deletion e.table column text f.column ↔ f.isMarked "id" ∨ f.column = "id") := by
  refine ⟨⟨fun ⟨e, he⟩ => (entity_eq_ok_iff.1 he).1, fun hsound => ⟨_, entity_eq_ok_iff.2 ⟨hsound, rfl⟩⟩⟩, ?_⟩
  intro e he
  obtain ⟨-, rfl⟩ := entity_eq_ok_iff.1 he
  refine ⟨rfl, fun f hf => ?_⟩
  have hkey : d.described.primaryKey = f.column ↔ f.isMarked "id" ∨ f.column = "id" := by
    unfold Declaration.keyField? at hf
    unfold Declaration.described
    cases hmarked : d.fields.find? (·.isMarked "id") with
    | some g =>
      rw [hmarked, Option.some_or] at hf
      obtain rfl := Option.some.inj hf
      exact ⟨fun _ => .inl (by simpa using List.find?_some hmarked), fun _ => rfl⟩
    | none =>
      rw [hmarked, Option.none_or] at hf
      have hunmarked : ¬f.isMarked "id" :=
        List.find?_eq_none.1 hmarked f (List.mem_filter.1 (List.mem_of_find?_eq_some hf)).1
      show "id" = f.column ↔ _
      rw [eq_comm]
      exact ⟨.inr, fun h => h.resolve_left hunmarked⟩
  refine ⟨hkey, fun field column value text op hcolumn hvalue => ?_⟩
  refine ⟨_, Kind.body_softDelete hcolumn hvalue op, ?_⟩
  rw [Kind.deletion_inj, hkey]

/-- An attribute of ours. -/
def own (items : List (String × AttributeValue)) : List Attribute := [{ path := "entity", items }]

/-- Books with a key of another name, a reference, and fields that are renamed and skipped. -/
def book : Declaration where
  name := "Book"
  shape := .named
  attributes := own [("app", .text "library"), ("table", .text "book")]
  fields := [
    { name := "number", attributes := own [("id", .none), ("column", .text "book_id")] },
    { name := "author", attributes := own [("fk", .none)] },
    { name := "pages", attributes := own [("skip", .none)] },
    { name := "r#type", attributes := own [("column", .text "kind"), ("auto", .none)] }]

theorem entity_exact_book :
    ∃ e, entity book = .ok e ∧ e.primaryKey = "book_id" ∧
      e.fields.map (fun f => (f.name, f.column)) =
        [("number", "book_id"), ("author", "author_id"), ("type", "kind")] ∧
      (Kind.softDelete "type" .null).body e .delete = .ok
        "UPDATE \"book\" SET \"kind\" = NULL WHERE \"book_id\" = OLD.\"book_id\"; RETURN NULL;" := by
  have hentity : entity book = .ok book.described := rfl
  obtain ⟨hfields, hkey⟩ := (entity_exact book).2 _ hentity
  obtain ⟨hkey, hbody⟩ := hkey _ rfl
  obtain ⟨body, hbody, hsame⟩ := hbody "type" "kind" .null "NULL" .delete rfl rfl
  refine ⟨_, hentity, hkey.2 (.inl rfl), ?_, ?_⟩
  · rw [hfields]
    rfl
  · rw [hbody, hsame.2 (.inl rfl)]
    rfl

/-- Books whose key is called `id` and stands in another column. -/
def bookById : Declaration where
  name := "Book"
  shape := .named
  attributes := own [("table", .text "book")]
  fields := [
    { name := "id", attributes := own [("column", .text "book_id")] },
    { name := "title", attributes := [] }]

/-- The key field `id` in a column of another name: the key is not that column, and a soft delete looks for the row
in a column that the entity does not have. -/
theorem key_not_described :
    ∃ e, entity bookById = .ok e ∧ bookById.keyField?.map StructField.column = some "book_id" ∧
      e.primaryKey = "id" ∧ (∀ f ∈ e.fields, f.column ≠ "id") ∧
      (Kind.softDelete "title" .null).body e .delete = .ok
        "UPDATE \"book\" SET \"title\" = NULL WHERE \"id\" = OLD.\"id\"; RETURN NULL;" :=
  ⟨_, rfl, rfl, rfl, by decide, rfl⟩

end Derive

end DeclaredTriggers
