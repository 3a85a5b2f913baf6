/-!
# Formulas

Conditions under *and*, *or* and *not*, over whatever stands at their leaves, and their value in the logic of
three values: a comparison with nothing is neither true nor false. A group of a single formula is written as
that formula (`Connective.groupOf`).

> `Connective.value_groupOf`: which changes no value.
-/

namespace DeclaredTriggers.Sql.Expression

/-- The value of a condition. -/
inductive Truth where
  | no
  /-- Neither true nor false. -/
  | unknown
  | yes
  deriving DecidableEq

namespace Truth

def ofBool (b : Bool) : Truth := if b then .yes else .no

def not : Truth → Truth
  | .no => .yes
  | .unknown => .unknown
  | .yes => .no

def and : Truth → Truth → Truth
  | .no, _ | _, .no => .no
  | .yes, t | t, .yes => t
  | .unknown, .unknown => .unknown

def or : Truth → Truth → Truth
  | .yes, _ | _, .yes => .yes
  | .no, t | t, .no => t
  | .unknown, .unknown => .unknown

/-- Whether all of several conditions hold. -/
def all (ts : List Truth) : Truth := ts.foldr and .yes

/-- Whether any of several conditions holds. -/
def any (ts : List Truth) : Truth := ts.foldr or .no

theorem and_yes (t : Truth) : t.and .yes = t := by cases t <;> rfl

theorem yes_and (t : Truth) : Truth.yes.and t = t := by cases t <;> rfl

theorem or_no (t : Truth) : t.or .no = t := by cases t <;> rfl

theorem no_or (t : Truth) : Truth.no.or t = t := by cases t <;> rfl

theorem and_assoc (t u v : Truth) : (t.and u).and v = t.and (u.and v) := by
  cases t <;> cases u <;> cases v <;> rfl

theorem or_assoc (t u v : Truth) : (t.or u).or v = t.or (u.or v) := by
  cases t <;> cases u <;> cases v <;> rfl

theorem all_append (ts us : List Truth) : all (ts ++ us) = (all ts).and (all us) := by
  induction ts with
  | nil => exact (yes_and _).symm
  | cons t ts ih =>
    show t.and (all (ts ++ us)) = (t.and (all ts)).and (all us)
    rw [ih, and_assoc]

theorem any_append (ts us : List Truth) : any (ts ++ us) = (any ts).or (any us) := by
  induction ts with
  | nil => exact (no_or _).symm
  | cons t ts ih =>
    show t.or (any (ts ++ us)) = (t.or (any ts)).or (any us)
    rw [ih, or_assoc]

/-- Of conditions that are all true or false, whether any holds is known. -/
theorem any_map_ofBool {α : Type} (p : α → Bool) (l : List α) :
    any (l.map fun x => ofBool (p x)) = ofBool (l.any p) := by
  induction l with
  | nil => rfl
  | cons x l ih =>
    show (ofBool (p x)).or (any (l.map fun x => ofBool (p x))) = _
    rw [ih, List.any_cons]
    cases p x <;> cases l.any p <;> rfl

end Truth

/-- Conditions under *and*, *or* and *not*. -/
inductive Formula (α : Type) where
  | atom (a : α)
  | not (f : Formula α)
  | all (fs : List (Formula α))
  | any (fs : List (Formula α))

namespace Formula

variable {α : Type}

mutual

/-- The value of a formula, given those of its leaves. -/
def value (v : α → Truth) : Formula α → Truth
  | .atom a => v a
  | .not f => (value v f).not
  | .all fs => .all (values v fs)
  | .any fs => .any (values v fs)

/-- The values of several formulas. -/
def values (v : α → Truth) : List (Formula α) → List Truth
  | [] => []
  | f :: fs => value v f :: values v fs

end

theorem values_eq (v : α → Truth) (fs : List (Formula α)) : values v fs = fs.map (value v) := by
  induction fs with
  | nil => rw [values, List.map_nil]
  | cons f fs ih => rw [values, ih, List.map_cons]

end Formula

/-! ## Groups -/

/-- What joins conditions. -/
inductive Connective where
  | and
  | or
  deriving DecidableEq

namespace Connective

variable {α : Type} (k : Connective)

/-- Formulas that are joined. -/
def group : Connective → List (Formula α) → Formula α
  | .and => .all
  | .or => .any

/-- The same, where a single formula stands for itself. -/
def groupOf : List (Formula α) → Formula α
  | [f] => f
  | fs => k.group fs

/-- Whether all or any of several conditions hold. -/
def truth : Connective → List Truth → Truth
  | .and => .all
  | .or => .any

theorem truth_append (ts us : List Truth) : k.truth (ts ++ us) = k.truth [k.truth ts, k.truth us] := by
  cases k with
  | and =>
    show Truth.all (ts ++ us) = (Truth.all ts).and ((Truth.all us).and .yes)
    rw [Truth.all_append, Truth.and_yes]
  | or =>
    show Truth.any (ts ++ us) = (Truth.any ts).or ((Truth.any us).or .no)
    rw [Truth.any_append, Truth.or_no]

theorem truth_singleton (t : Truth) : k.truth [t] = t := by
  cases k with
  | and => exact Truth.and_yes t
  | or => exact Truth.or_no t

theorem truth_cons (t : Truth) (ts : List Truth) : k.truth (t :: ts) = k.truth [t, k.truth ts] := by
  rw [← List.singleton_append, k.truth_append, k.truth_singleton]

theorem value_group (v : α → Truth) (fs : List (Formula α)) :
    (k.group fs).value v = k.truth (fs.map (Formula.value v)) := by
  cases k <;> exact congrArg _ (Formula.values_eq v fs)

/-- A single formula has the value of its group. -/
theorem value_groupOf (v : α → Truth) (fs : List (Formula α)) :
    (k.groupOf fs).value v = k.truth (fs.map (Formula.value v)) := by
  match fs with
  | [] => exact k.value_group v []
  | [f] => exact (k.truth_singleton _).symm
  | f :: f' :: fs => exact k.value_group v _

end Connective

end DeclaredTriggers.Sql.Expression
