import DeclaredTriggers.Trigger.Basic
import Mathlib.Tactic.Tauto

/-!
# The same trigger

Two triggers are the same if they say the same, and numbers are compared as numbers: the two zeros are one,
and a NaN is not even itself. So sameness is not equality, but it comes down to it. The canonical form of a
trigger has no sign on a zero, and `held` lists the values a trigger compares with or writes:

> `Trigger.same_iff`: two triggers are the same if and only if neither holds a NaN and their canonical forms
> are equal.

That sameness is symmetric and transitive follows, and that it is reflexive but for NaNs. Each definition that
a trigger is made of has its own `same`, and one lemma that says of it what the last one says of triggers.
-/

namespace DeclaredTriggers

open Decimal (Binary)

/-! ## Values -/

/-- A number without the sign of a zero. -/
def Decimal.Binary.canonical : Binary → Binary
  | .finite _ 0 _ => .finite false 0 0
  | x => x

theorem Decimal.Binary.same_iff {x y : Binary} :
    x.same y ↔ .nan ≠ x ∧ .nan ≠ y ∧ x.canonical = y.canonical := by
  rcases x with _ | s | ⟨s, _ | m, e⟩ <;> rcases y with _ | s' | ⟨s', _ | m', e'⟩ <;>
    simp [Binary.same, Binary.canonical]

namespace Value

/-- The one value that is not the same as itself. -/
def notANumber : Value := .float .nan

def canonical : Value → Value
  | .float x => .float x.canonical
  | v => v

theorem same_iff {v w : Value} :
    v.same w ↔ notANumber ≠ v ∧ notANumber ≠ w ∧ v.canonical = w.canonical := by
  cases v <;> cases w <;> simp [same, canonical, notANumber, Binary.same_iff]

theorem sameEach_iff {vs ws : List Value} :
    (vs.length = ws.length ∧ (vs.zip ws).all fun (v, w) => v.same w) ↔
      notANumber ∉ vs ∧ notANumber ∉ ws ∧ vs.map canonical = ws.map canonical := by
  induction vs generalizing ws with
  | nil => cases ws <;> simp
  | cons v vs ih =>
    cases ws with
    | nil => simp
    | cons w ws =>
      have hrest := @ih ws
      simp only [List.length_cons, Nat.add_right_cancel_iff, List.zip_cons_cons, List.all_cons,
        Bool.and_eq_true, same_iff, List.mem_cons, not_or, List.map_cons, List.cons.injEq]
      tauto

end Value

/-! ## Conditions -/

namespace Operand

/-- The values an operand holds. -/
def held : Operand → List Value
  | .value v => [v]
  | .values vs => vs
  | .field _ => []

def canonical : Operand → Operand
  | .value v => .value v.canonical
  | .values vs => .values (vs.map Value.canonical)
  | .field reference => .field reference

theorem same_iff {a b : Operand} : a.same b ↔
    Value.notANumber ∉ a.held ∧ Value.notANumber ∉ b.held ∧ a.canonical = b.canonical := by
  cases a <;> cases b <;> simp [same, held, canonical, Value.same_iff, ← Value.sameEach_iff]

end Operand

namespace Condition

mutual

/-- The values a condition compares with. -/
def held : Condition → List Value
  | .raw _ | .change _ => []
  | .lookup l => l.operand.held
  | .all cs | .any cs => heldEach cs
  | .not c => held c

/-- The values that several conditions compare with. -/
def heldEach : List Condition → List Value
  | [] => []
  | c :: cs => held c ++ heldEach cs

end

mutual

def canonical : Condition → Condition
  | .raw sql => .raw sql
  | .lookup l => .lookup ⟨l.key, l.operand.canonical⟩
  | .change c => .change c
  | .all cs => .all (canonicalEach cs)
  | .any cs => .any (canonicalEach cs)
  | .not c => .not (canonical c)

def canonicalEach : List Condition → List Condition
  | [] => []
  | c :: cs => canonical c :: canonicalEach cs

end

mutual

theorem same_iff {a b : Condition} : a.same b ↔
    Value.notANumber ∉ a.held ∧ Value.notANumber ∉ b.held ∧ a.canonical = b.canonical := by
  cases a <;> cases b <;> simp [same, canonical, held]
  case lookup.lookup l l' =>
    simp only [Lookup.same, Bool.and_eq_true, decide_eq_true_eq, Operand.same_iff]
    tauto
  case all.all cs ds => exact sameEach_iff
  case any.any cs ds => exact sameEach_iff
  case not.not c d => exact same_iff

theorem sameEach_iff {as bs : List Condition} : sameEach as bs ↔
    Value.notANumber ∉ heldEach as ∧ Value.notANumber ∉ heldEach bs ∧ canonicalEach as = canonicalEach bs := by
  cases as <;> cases bs <;> simp [sameEach, canonicalEach, heldEach]
  case cons.cons a as b bs =>
    rw [same_iff, sameEach_iff]
    tauto

end

end Condition

/-! ## Triggers -/

namespace Kind

/-- The values a kind holds: what a field is set to in place of a delete. -/
def held : Kind → List Value
  | .softDelete _ v => [v]
  | _ => []

def canonical : Kind → Kind
  | .softDelete field v => .softDelete field v.canonical
  | k => k

theorem same_iff {a b : Kind} : a.same b ↔
    Value.notANumber ∉ a.held ∧ Value.notANumber ∉ b.held ∧ a.canonical = b.canonical := by
  cases a <;> cases b <;> simp [same, held, canonical, Value.same_iff] <;> tauto

end Kind

namespace Definition

/-- The values a trigger compares with or writes. -/
def held (d : Definition) : List Value := (d.condition.elim [] Condition.held) ++ d.kind.held

def canonical (d : Definition) : Definition :=
  { d with condition := d.condition.map Condition.canonical, kind := d.kind.canonical }

theorem same_iff {a b : Definition} : a.same b ↔
    Value.notANumber ∉ a.held ∧ Value.notANumber ∉ b.held ∧ a.canonical = b.canonical := by
  obtain ⟨name, level, moment, operation, condition, tables, declare, timing, kind⟩ := a
  obtain ⟨name', level', moment', operation', condition', tables', declare', timing', kind'⟩ := b
  cases condition <;> cases condition' <;>
    simp [same, held, canonical, Condition.same_iff, Kind.same_iff]
  all_goals tauto

end Definition

namespace Trigger

variable {t u v : Trigger}

/-- Two triggers are the same if and only if neither holds a NaN and their canonical forms are equal. -/
theorem same_iff : t.same u ↔
    Value.notANumber ∉ t.held ∧ Value.notANumber ∉ u.held ∧ t.canonical = u.canonical := Definition.same_iff

theorem same_self_iff : t.same t ↔ Value.notANumber ∉ t.held := by simp [same_iff]

theorem same_symm (h : t.same u) : u.same t := by
  obtain ⟨ht, hu, heq⟩ := same_iff.1 h
  exact same_iff.2 ⟨hu, ht, heq.symm⟩

theorem same_trans (htu : t.same u) (huv : u.same v) : t.same v := by
  obtain ⟨ht, -, heq⟩ := same_iff.1 htu
  obtain ⟨-, hv, heq'⟩ := same_iff.1 huv
  exact same_iff.2 ⟨ht, hv, heq.trans heq'⟩

end Trigger

end DeclaredTriggers
