import DeclaredTriggers.Proofs.Act
import DeclaredTriggers.Proofs.Sql.Grammar
import DeclaredTriggers.Proofs.Trigger.Identifier
import DeclaredTriggers.Trigger.Builder

/-!
# What is built

A builder starts from one of a few constructors, and whatever is said after that, in whatever order, is held
against what a trigger has to be (`Definition.WellFormed`) only when it is built. The checks let through all
that is well formed and nothing else:

> `Builder.build_eq_ok_iff`: a builder gives a trigger if and only if it says just what the trigger says.
>
> `Builder.build_exact`: whatever was said, what is built is well formed, and so is all that could have been;
> built again it is the same trigger; and to build in between and to go on from what was built changes nothing.
-/

namespace DeclaredTriggers

/-! ## What a trigger has to be -/

/-- What a kind has to have for itself. -/
def Kind.WellFormed : Kind → Prop
  | .custom body => ∃ c ∈ body.toList, ¬ Text.isBlank c
  | .protect => True
  | .readOnly fields exclude => fields = [] ∨ exclude = []
  | .softDelete field _ => field ≠ ""
  | .stateMachine field transitions => field ≠ "" ∧ transitions ≠ [] ∧
      ∀ p ∈ transitions, ∀ c ∈ reserved, c ∉ p.1.toList ∧ c ∉ p.2.toList
  | .searchVector vector documents config => vector ≠ "" ∧ documents ≠ [] ∧ config ≠ ""

/-- What a definition has to be for a trigger. -/
structure Definition.WellFormed (d : Definition) : Prop where
  length : 1 ≤ d.name.length ∧ d.name.length ≤ 47
  characters : ∀ c ∈ d.name.toList, Sql.IsLetter c ∨ Sql.IsDigit c ∨ c = '_' ∨ c = '-'
  operation : d.operation ≠ .anyOf []
  tables : d.tables.isSome → d.level = .statement
  timing : d.timing.isSome → d.level = .row ∧ d.moment = .after
  kind : d.kind.WellFormed

namespace Kind

theorem isReservedState_eq_false_iff {state : String} :
    isReservedState state = false ↔ ∀ c ∈ reserved, c ∉ state.toList := by
  unfold isReservedState
  rw [List.any_eq_false]
  simp only [List.contains_iff_mem]
  exact ⟨fun h c hc hmem => h c hmem hc, fun h c hmem hc => h c hc hmem⟩

theorem fault?_eq_none_iff {k : Kind} : k.fault? = none ↔ k.WellFormed := by
  cases k with
  | custom body => simp [fault?, WellFormed, Text.isBlankText]
  | protect => simp [fault?, WellFormed]
  | readOnly fields exclude => cases fields <;> simp [fault?, WellFormed]
  | softDelete field value => simp [fault?, WellFormed]
  | stateMachine field transitions =>
    simp only [fault?, WellFormed, check_eq_none_iff, Option.map_eq_none_iff, List.find?_eq_none]
    simp [isReservedState_eq_false_iff, forall_and]
  | searchVector vector documents config => simp [fault?, WellFormed, check_eq_none_iff]

end Kind

namespace Definition

theorem isNameCharacter_iff {c : Char} :
    isNameCharacter c ↔ Sql.IsLetter c ∨ Sql.IsDigit c ∨ c = '_' ∨ c = '-' := by
  rw [← Sql.isAlpha_iff, ← Sql.isDigit_iff]
  simp only [isNameCharacter, Char.isAlphanum, Bool.or_eq_true, decide_eq_true_eq, or_assoc]

theorem wellFormed_iff {d : Definition} : d.WellFormed ↔ nameFault? d.name = none ∧ d.fault? = none := by
  have hname : nameFault? d.name = none ↔ (1 ≤ d.name.length ∧ d.name.length ≤ 47) ∧
      ∀ c ∈ d.name.toList, Sql.IsLetter c ∨ Sql.IsDigit c ∨ c = '_' ∨ c = '-' := by
    simp only [nameFault?_eq_none_iff, isNameCharacter_iff, ← and_assoc]
    refine and_congr_left fun hall => ?_
    have hascii : ∀ c ∈ d.name.toList, c.toNat < 128 := fun c hc =>
      toNat_lt_of_isNameCharacter (isNameCharacter_iff.2 (hall c hc))
    have hbytes : Text.byteSize d.name = d.name.length := by
      rw [Text.byteSize, Text.byteLength_of_ascii hascii, String.length_toList]
    rw [hbytes]
    refine and_congr_left' ?_
    rw [Nat.one_le_iff_ne_zero, ← String.length_toList, ne_eq, ne_eq, List.length_eq_zero_iff,
      String.toList_eq_nil_iff]
  have hrest : d.fault? = none ↔ d.operation ≠ .anyOf [] ∧ (d.tables.isSome → d.level = .statement) ∧
      (d.timing.isSome → d.level = .row ∧ d.moment = .after) ∧ d.kind.WellFormed := by
    rw [← Kind.fault?_eq_none_iff]
    simp only [fault?, check_eq_none_iff]
    cases d.level <;> cases d.timing <;> simp
  rw [hname, hrest]
  exact ⟨fun ⟨hlength, hcharacters, hoperation, htables, htiming, hkind⟩ =>
      ⟨⟨hlength, hcharacters⟩, hoperation, htables, htiming, hkind⟩,
    fun ⟨⟨hlength, hcharacters⟩, hoperation, htables, htiming, hkind⟩ =>
      ⟨hlength, hcharacters, hoperation, htables, htiming, hkind⟩⟩

end Definition

theorem Trigger.wellFormed (t : Trigger) : t.WellFormed := Definition.wellFormed_iff.2 ⟨t.named, t.sound⟩

namespace Builder

variable {b : Builder} {t : Trigger}

/-! ## What is said -/

/-- Where a builder starts. -/
inductive Start where
  | blank (name : String)
  | protect (name : String) (operation : Operation)
  | readOnly (name : String) (fields exclude : List String)
  | softDelete (name field : String) (value : Value)
  | stateMachine (name field : String) (transitions : List (String × String))
  | searchVector (name vector : String) (documents : List String)

def Start.builder : Start → Builder
  | .blank name => { name }
  | .protect name operation => .protect name operation
  | .readOnly name fields exclude => .readOnly name fields exclude
  | .softDelete name field value => .softDelete name field value
  | .stateMachine name field transitions => .stateMachine name field transitions
  | .searchVector name vector documents => .searchVector name vector documents

/-- What can be said of a trigger. -/
inductive Call where
  | name (name : String)
  | level (level : Level)
  | moment (moment : Moment)
  | operation (operation : Operation)
  | condition (condition : Condition)
  | tables (tables : TransitionTables)
  | declare (name type : String)
  | timing (timing : Timing)
  | body (body : String)
  | kind (kind : Kind)
  | searching (config : String)

/-- A builder after something more was said. -/
def next (b : Builder) : Call → Builder
  | .name name => { b with name }
  | .level level => { b with level }
  | .moment moment => { b with moment := some moment }
  | .operation operation => { b with operation := some operation }
  | .condition condition => { b with condition := some condition }
  | .tables tables => { b with tables := some tables }
  | .declare name type => b.declaring name type
  | .timing timing => { b with timing := some timing }
  | .body body => { b with kind := some (.custom body) }
  | .kind kind => { b with kind := some kind }
  | .searching config => b.searching config

/-- A builder after some calls. -/
def after (b : Builder) (calls : List Call) : Builder := calls.foldl next b

/-- What a definition says. -/
def saying (d : Definition) : Builder :=
  { name := d.name, level := d.level, moment := some d.moment, operation := some d.operation,
    condition := d.condition, tables := d.tables, declare := d.declare, timing := d.timing, kind := some d.kind }

/-! ## What is built -/

/-- A builder gives a trigger if and only if it says just what the trigger says. -/
theorem build_eq_ok_iff : b.build = .ok t ↔ b = ofTrigger t := by
  constructor
  · intro h
    obtain ⟨name, level, moment?, operation?, condition, tables, declare, timing, kind?⟩ := b
    unfold build at h
    split at h
    next => cases h
    next hnamed =>
      split at h
      next => cases h
      next => cases h
      next => cases h
      next moment operation kind hmoment hoperation hkind =>
        dsimp only at h hmoment hoperation hkind
        split at h
        next => cases h
        next =>
          obtain rfl := Except.ok.inj h
          rw [hmoment, hoperation, hkind]
          rfl
  · rintro rfl
    unfold build
    split
    next fault hfault => exact nomatch t.named.symm.trans hfault
    next hnamed =>
      dsimp only [ofTrigger]
      split
      next fault hfault => exact nomatch t.sound.symm.trans hfault
      next => rfl

/-- A builder gives a trigger if and only if what it says is a well-formed definition. -/
theorem exists_build_iff : (∃ t, b.build = .ok t) ↔ ∃ d : Definition, d.WellFormed ∧ b = saying d := by
  simp only [build_eq_ok_iff]
  constructor
  · rintro ⟨t, rfl⟩
    exact ⟨t.toDefinition, t.wellFormed, rfl⟩
  · rintro ⟨d, hd, rfl⟩
    obtain ⟨hnamed, hsound⟩ := Definition.wellFormed_iff.1 hd
    exact ⟨⟨d, hnamed, hsound⟩, rfl⟩

/-- Whatever is said from whatever start: a trigger is built exactly if what was said is a well-formed definition,
and the trigger is that definition; built again it is the same; and wherever it can be built in between, going on
from what was built comes to the same trigger or the same error. -/
theorem build_exact (s : Start) (calls : List Call) :
    (∀ t, (s.builder.after calls).build = .ok t →
        s.builder.after calls = ofTrigger t ∧ t.WellFormed ∧ (ofTrigger t).build = .ok t) ∧
      ((∃ t, (s.builder.after calls).build = .ok t) ↔
        ∃ d : Definition, d.WellFormed ∧ s.builder.after calls = saying d) ∧
      ∀ before later t, calls = before ++ later → (s.builder.after before).build = .ok t →
        ((ofTrigger t).after later).build = (s.builder.after calls).build := by
  refine ⟨fun t ht => ⟨build_eq_ok_iff.1 ht, t.wellFormed, build_eq_ok_iff.2 rfl⟩, exists_build_iff, ?_⟩
  rintro before later t rfl hbuild
  rw [← build_eq_ok_iff.1 hbuild]
  unfold after
  rw [List.foldl_append]

end Builder

end DeclaredTriggers
