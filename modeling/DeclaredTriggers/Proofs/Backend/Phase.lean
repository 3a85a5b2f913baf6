import DeclaredTriggers.Connection.Server
import DeclaredTriggers.Proofs.Sql.Splitting
import DeclaredTriggers.Sql.Control

/-!
# Phases of a transaction

What a server does to its transaction is decided by little: whether one is open (`Phase`), what
each statement does to it (`Sql.Control`), and which statement fails. `Phase.Serves` is the rule for
the statements of one request, and leaves open which of them fails; a server whose phases follow the
rule is `Transactional`. Nothing is said about tables, variables or savepoints, so what is proved
about transactional servers is proved about every database that keeps this much.

A request that was done and one that failed say different things about where the server is now:

> `Serves.of_ordinary`: without control statements, a request that was done leaves the phase alone,
> and one that failed leaves what `Phase.aborted` says.
>
> `Serves.ne_inTransaction`: after a failure no usable transaction is open.
-/

namespace DeclaredTriggers

open Sql (Control)

/-- Whether a transaction is open. -/
inductive Phase where
  | idle
  | inTransaction
  /-- A statement failed; the transaction waits for its end. -/
  | failed
  deriving DecidableEq

namespace Phase

/-- The phase after a statement that was done, where the rules allow it. -/
def after? (p : Phase) : Option Control → Option Phase
  | none => if p = .failed then none else some p
  | some .opens => if p = .failed then none else some .inTransaction
  | some .commit | some .rollback => some .idle
  | some .rollbackTo => if p = .idle then none else some .inTransaction
  | some .savepoint | some .release => if p = .inTransaction then some p else none

/-- The phase after something went wrong. -/
def aborted : Phase → Phase
  | .idle => .idle
  | .inTransaction | .failed => .failed

/-- The phase after a statement that failed. The end of a transaction ends it even so. -/
def failedAt (p : Phase) (c : Option Control) : Phase :=
  if c = some .commit ∨ c = some .rollback then .idle else p.aborted

/-- `Serves p ss ok p'`: in phase `p`, the statements `ss` can all be done (`ok`) or be stopped by
the first that fails, and leave phase `p'`. -/
inductive Serves : Phase → List (List Char) → Bool → Phase → Prop where
  | done (p : Phase) : Serves p [] true p
  | went {p p' p'' : Phase} {s : List Char} {rest : List (List Char)} {ok : Bool} :
      p.after? (Control.ofStatement? s) = some p' → Serves p' rest ok p'' →
        Serves p (s :: rest) ok p''
  | stopped (p : Phase) (s : List Char) (rest : List (List Char)) :
      Serves p (s :: rest) false (p.failedAt (Control.ofStatement? s))

theorem aborted_ne_inTransaction (p : Phase) : p.aborted ≠ .inTransaction := by
  cases p <;> simp [aborted]

theorem failedAt_ne_inTransaction (p : Phase) (c : Option Control) :
    p.failedAt c ≠ .inTransaction := by
  unfold failedAt
  split
  next => simp
  next => exact p.aborted_ne_inTransaction

/-- An ordinary statement that is done leaves the phase alone. -/
theorem eq_of_after?_none {p p' : Phase} (h : p.after? none = some p') :
    p' = p ∧ p ≠ .failed := by
  by_cases hp : p = .failed
  · rw [hp] at h
    cases h
  · rw [show p.after? none = some p from if_neg hp] at h
    exact ⟨(Option.some.inj h).symm, hp⟩

namespace Serves

variable {p p' : Phase} {ss : List (List Char)} {ok : Bool}

/-- After a failure no usable transaction is open. -/
theorem ne_inTransaction (h : Serves p ss ok p') (hok : ok = false) : p' ≠ .inTransaction := by
  induction h with
  | done => cases hok
  | went _ _ ih => exact ih hok
  | stopped p s => exact p.failedAt_ne_inTransaction _

/-- Statements that control nothing leave the phase alone, unless one fails. -/
theorem of_ordinary (h : Serves p ss ok p') (hss : ∀ s ∈ ss, Control.ofStatement? s = none) :
    p' = if ok then p else p.aborted := by
  induction h with
  | done => rfl
  | @went p p' p'' s rest ok hafter _ ih =>
    rw [hss s List.mem_cons_self] at hafter
    obtain ⟨rfl, -⟩ := eq_of_after?_none hafter
    exact ih fun s hs => hss s (List.mem_cons_of_mem _ hs)
  | stopped p s rest =>
    rw [hss s List.mem_cons_self]
    simp [failedAt]

/-- Where no transaction is open, a request that fails and opens none leaves it so. -/
theorem idle_of_failed (h : Serves p ss ok p') (hok : ok = false) (hp : p = .idle)
    (hss : ∀ s ∈ ss, Control.ofStatement? s ≠ some .opens) : p' = .idle := by
  induction h with
  | done => exact hp
  | @went p p₁ p'' s rest ok hafter _ ih =>
    have hs := hss s List.mem_cons_self
    refine ih hok ?_ fun s hs => hss s (List.mem_cons_of_mem _ hs)
    subst hp
    -- only an opening statement leads out of the idle phase
    rcases hc : Control.ofStatement? s with _ | _ | _ | _ | _ | _ | _ <;>
      simp_all [after?]
  | stopped p s rest =>
    subst hp
    unfold failedAt
    split <;> rfl

/-- The end of a transaction ends it even if it fails. -/
theorem idle_of_end {s : List Char} (h : Serves p [s] false p')
    (hs : Control.ofStatement? s = some .commit ∨ Control.ofStatement? s = some .rollback) :
    p' = .idle := by
  cases h with
  | went _ hrest => cases hrest
  | stopped => exact if_pos hs

/-- What is done in two parts is done. -/
theorem append {q : Phase} {ts : List (List Char)} (h : Serves p ss true q)
    (h' : Serves q ts ok p') : Serves p (ss ++ ts) ok p' := by
  generalize hok : true = b at h
  induction h with
  | done => exact h'
  | went hafter _ ih => exact .went hafter (ih h' hok)
  | stopped => cases hok

/-- Statements that were done were done one part after the other. -/
theorem split {ts : List (List Char)} (h : Serves p (ss ++ ts) true p') :
    ∃ q, Serves p ss true q ∧ Serves q ts true p' := by
  induction ss generalizing p with
  | nil => exact ⟨p, .done p, h⟩
  | cons s ss ih =>
    cases h with
    | went hafter hrest =>
      obtain ⟨q, hq, hts⟩ := ih hrest
      exact ⟨q, .went hafter hq, hts⟩

end Serves

end Phase

/-- Whether a request was done. -/
def Reply.isDone : Reply → Bool
  | .done .. => true
  | .refused _ | .closed => false

/-- The request for the search path. -/
def showPathRequest : Request := .prepared "SHOW search_path" []

/-- A server whose phases follow the rules of transactions. It stays on the line; a statement with
parameters has to come alone; and the search path that it names is a text in which nothing is left
open and no statement ends. -/
class Transactional (σ : Type) extends Server σ where
  phase : σ → Phase
  stays (q : Request) (s : σ) : (receive q s).1 ≠ .closed
  batch (sql : String) (s : σ) :
    (phase s).Serves (Sql.statements sql.toList) (receive (.batch sql) s).1.isDone
      (phase (receive (.batch sql) s).2)
  prepared (sql : String) (params : List String) (s : σ) :
    (phase s).Serves (Sql.statements sql.toList) (receive (.prepared sql params) s).1.isDone
        (phase (receive (.prepared sql params) s).2) ∨
      1 < (Sql.statements sql.toList).length ∧
        (receive (.prepared sql params) s).1.isDone = false ∧
        phase (receive (.prepared sql params) s).2 = (phase s).aborted
  pathClosed (s : σ) (row : ResultRow) (rows : List ResultRow) (n : Nat) (path : String) :
    (receive showPathRequest s).1 = .done (row :: rows) n → textAt row 0 = .ok path →
      Sql.isClosed path.toList

end DeclaredTriggers
