import DeclaredTriggers.Entity
import DeclaredTriggers.Sql.Quoting

/-!
# Operations

The operations a trigger fires on: inserts, updates of a row or of named columns, deletes,
truncations, and any combination. `Operation.text` writes them joined by `OR`; the column names
go through a function, which is the identity for showing an operation and the look-up of a
field's column for compiling it.
-/

namespace DeclaredTriggers

/-- What a trigger fires on. -/
inductive Operation where
  | insert
  | update
  | delete
  | truncate
  /-- An update of one of these columns. -/
  | updateOf (columns : List String)
  | anyOf (ops : List Operation)
  deriving Inhabited

namespace Operation

mutual

/-- The operation in SQL, each column name `c` written as `column c`. -/
def text (column : String → String) : Operation → String
  | .insert => "INSERT"
  | .update => "UPDATE"
  | .delete => "DELETE"
  | .truncate => "TRUNCATE"
  | .updateOf cs => "UPDATE OF " ++ ", ".intercalate (cs.map fun c => Sql.quote (column c))
  | .anyOf ops => " OR ".intercalate (texts column ops)

/-- Each of several operations in SQL. -/
def texts (column : String → String) : List Operation → List String
  | [] => []
  | op :: ops => text column op :: texts column ops

end

/-- The operation as it is shown. -/
def display (op : Operation) : String := op.text id

/-- The operation for an entity: a name that is a field stands for its column, any other for
itself. -/
def sql (op : Operation) (e : Entity) : String := op.text fun c => (e.column? c).getD c

/-- The members of a combination, or the one operation. -/
def members : Operation → List Operation
  | .anyOf ops => ops
  | op => [op]

/-- Either operation; combinations on either side are merged into one. -/
def or (a b : Operation) : Operation := .anyOf (a.members ++ b.members)

mutual

/-- Whether two operations are the same. -/
def same : Operation → Operation → Bool
  | .insert, .insert | .update, .update | .delete, .delete | .truncate, .truncate => true
  | .updateOf a, .updateOf b => a = b
  | .anyOf a, .anyOf b => sameEach a b
  | _, _ => false

/-- Whether two lists of operations are the same. -/
def sameEach : List Operation → List Operation → Bool
  | [], [] => true
  | a :: as, b :: bs => same a b && sameEach as bs
  | _, _ => false

end

mutual

theorem eq_of_same {a b : Operation} (h : same a b) : a = b := by
  cases a <;> cases b <;> simp [same] at h ⊢
  · exact h
  · exact eq_of_sameEach h

theorem eq_of_sameEach {as bs : List Operation} (h : sameEach as bs) : as = bs := by
  cases as <;> cases bs <;> simp [sameEach] at h ⊢
  exact ⟨eq_of_same h.1, eq_of_sameEach h.2⟩

end

mutual

theorem same_self : ∀ a : Operation, same a a
  | .insert | .update | .delete | .truncate => by simp [same]
  | .updateOf _ => by simp [same]
  | .anyOf ops => by simp [same, sameEach_self ops]

theorem sameEach_self : ∀ as : List Operation, sameEach as as
  | [] => by simp [sameEach]
  | a :: as => by simp [sameEach, same_self a, sameEach_self as]

end

instance : DecidableEq Operation := fun a b =>
  if h : same a b then isTrue (eq_of_same h)
  else isFalse fun hab => h (hab ▸ same_self a)

end Operation

end DeclaredTriggers
