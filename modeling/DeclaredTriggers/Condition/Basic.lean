import DeclaredTriggers.Condition.Change
import DeclaredTriggers.Text.Blank

/-!
# Conditions

A condition says for which rows a trigger fires. It is a tree of comparisons, change predicates
and free SQL under *and*, *or* and *not*; `Condition.sql` writes it for one entity, with the
groups in parentheses, so that the text has the shape of the tree.
-/

namespace DeclaredTriggers

/-- A predicate on the two rows. -/
inductive Condition where
  /-- Free SQL, used as it is. -/
  | raw (sql : String)
  | lookup (l : Lookup)
  | change (c : Change)
  | all (cs : List Condition)
  | any (cs : List Condition)
  | not (c : Condition)

instance : Inhabited Condition := ⟨.all []⟩

namespace Condition

/-- Both conditions; a conjunction on the left takes the other as its last member. -/
def and : Condition → Condition → Condition
  | .all cs, d => .all (cs ++ [d])
  | c, d => .all [c, d]

/-- Either condition; a disjunction on the left takes the other as its last member. -/
def or : Condition → Condition → Condition
  | .any cs, d => .any (cs ++ [d])
  | c, d => .any [c, d]

mutual

/-- The condition in SQL, for one entity. -/
def sql (e : Entity) : Condition → Except Error String
  | .raw sql =>
    if Text.isBlankText sql then throw (.definition .blankCondition) else pure sql
  | .lookup l => l.sql e
  | .change c => c.sql e
  | .all [] | .any [] => throw (.definition .emptyGroup)
  | .all cs => do pure (grouped " AND " (← sqlEach e cs))
  | .any cs => do pure (grouped " OR " (← sqlEach e cs))
  | .not c => do pure ("NOT (" ++ (← sql e c) ++ ")")

/-- Each condition of a group in SQL; the first that has none is the group's error. -/
def sqlEach (e : Entity) : List Condition → Except Error (List String)
  | [] => pure []
  | c :: cs => do
    let part ← sql e c
    let parts ← sqlEach e cs
    pure (part :: parts)

end

mutual

/-- Equality of conditions. -/
def same : Condition → Condition → Bool
  | .raw a, .raw b => a = b
  | .lookup a, .lookup b => a.same b
  | .change a, .change b => a = b
  | .all a, .all b => sameEach a b
  | .any a, .any b => sameEach a b
  | .not a, .not b => same a b
  | _, _ => false

/-- Equality of two lists of conditions, member by member. -/
def sameEach : List Condition → List Condition → Bool
  | [], [] => true
  | a :: as, b :: bs => same a b && sameEach as bs
  | _, _ => false

end

end Condition

end DeclaredTriggers
