import DeclaredTriggers.Connection.Isolation
import DeclaredTriggers.Proofs.Act

/-!
# Watched channels

What a program sends is not always left in the state that it ends with. `Watched` is any channel with a
log beside it, in which every batch is written down with what came of it. Watching changes nothing:
`Mirrors a b` says that the watched work `a` is the work `b`, seen from beside, and every way of putting
work together keeps that.

> `mirrors_withSavepoint`: a text under a savepoint is the same, watched or not.
>
> `withSavepoint_sent`: what it sends is a savepoint, the text and a release or a way back, up to the first
> of them that fails.
-/

namespace DeclaredTriggers

open Act (result)

/-- A batch that was sent, and what came of it. -/
structure Sent where
  text : String
  outcome : Except Error Unit

/-- A channel and a log of what was sent through it. -/
structure Watched (κ : Type) where
  inner : κ
  log : List Sent := []

namespace Watched

variable {κ α β : Type} [Channel κ]

instance : Channel (Watched κ) where
  query sql params := Act.focus inner (fun k w => { w with inner := k }) (Channel.query sql params)
  execute sql params := Act.focus inner (fun k w => { w with inner := k }) (Channel.execute sql params)
  batch sql := ExceptT.mk fun w =>
    let (outcome, k) := result (Channel.batch sql) w.inner
    (outcome, ⟨k, w.log ++ [⟨sql, outcome⟩]⟩)
  inTransaction w := Channel.inTransaction w.inner
  journal w := Channel.journal w.inner
  withJournal j w := { w with inner := Channel.withJournal j w.inner }

/-! ## Watching changes nothing -/

/-- The watched work `a` comes to the same as the work `b`, and leaves the same channel. -/
def Mirrors (a : Act (Watched κ) α) (b : Act κ α) : Prop :=
  ∀ w, result b w.inner = ((result a w).1, (result a w).2.inner)

omit [Channel κ] in
theorem mirrors_pure (a : α) : Mirrors (κ := κ) (pure a) (pure a) := fun _ => rfl

omit [Channel κ] in
theorem mirrors_throw (e : Error) : Mirrors (κ := κ) (α := α) (throw e) (throw e) := fun _ => rfl

omit [Channel κ] in
theorem mirrors_lift (a : Except Error α) : Mirrors (κ := κ) (liftM a) (liftM a) := by
  intro w
  rw [Act.result_lift, Act.result_lift]

omit [Channel κ] in
theorem mirrors_bind {a : Act (Watched κ) α} {b : Act κ α} {f : α → Act (Watched κ) β}
    {g : α → Act κ β} (h : Mirrors a b) (hnext : ∀ x, Mirrors (f x) (g x)) :
    Mirrors (a >>= f) (b >>= g) := by
  intro w
  have hw := h w
  rw [Act.result_bind, Act.result_bind]
  generalize result a w = came at hw
  obtain ⟨e | x, w'⟩ := came <;> rw [hw]
  exact hnext x w'

omit [Channel κ] in
theorem mirrors_attempt {a : Act (Watched κ) α} {b : Act κ α} (h : Mirrors a b) :
    Mirrors (Act.attempt a) (Act.attempt b) := by
  intro w
  rw [Act.result_attempt (h w)]
  rfl

omit [Channel κ] in
theorem mirrors_get_bind {f : Watched κ → Act (Watched κ) β} {g : κ → Act κ β}
    (h : ∀ w, Mirrors (f w) (g w.inner)) : Mirrors (get >>= f) (get >>= g) := fun w => h w w

omit [Channel κ] in
theorem mirrors_mapM {f : α → Act (Watched κ) β} {g : α → Act κ β}
    (h : ∀ a, Mirrors (f a) (g a)) (xs : List α) : Mirrors (xs.mapM f) (xs.mapM g) := by
  induction xs with
  | nil => exact mirrors_pure _
  | cons x xs ih =>
    rw [List.mapM_cons, List.mapM_cons]
    exact mirrors_bind (h x) fun _ => mirrors_bind ih fun _ => mirrors_pure _

theorem mirrors_batch (sql : String) :
    Mirrors (κ := κ) (Channel.batch sql) (Channel.batch sql) := fun _ => rfl

theorem mirrors_notify (n : Notice) :
    Mirrors (κ := κ) (Channel.notify n) (Channel.notify n) := fun _ => rfl

theorem mirrors_freshSavepoint :
    Mirrors (κ := κ) Channel.freshSavepoint Channel.freshSavepoint := fun _ => rfl

theorem mirrors_withSavepoint (sql : String) :
    Mirrors (κ := κ) (withSavepoint sql) (withSavepoint sql) := by
  refine mirrors_bind mirrors_freshSavepoint fun n => mirrors_bind (mirrors_batch _) fun _ =>
    mirrors_bind (mirrors_attempt (mirrors_batch sql)) fun came => ?_
  cases came with
  | ok _ => exact mirrors_batch _
  | error e =>
    refine mirrors_bind (mirrors_attempt (mirrors_batch _)) fun came => ?_
    cases came with
    | ok _ => exact mirrors_throw e
    | error again => exact mirrors_bind (mirrors_notify _) fun _ => mirrors_throw e

/-! ## What is sent for a text under a savepoint -/

/-- What is sent for a text under a savepoint of its own, and what comes of it. -/
inductive Isolated (name text : String) : List Sent → Except Error Unit → Prop where
  | refused (e : Error) : Isolated name text [⟨"SAVEPOINT " ++ name, .error e⟩] (.error e)
  | kept (r : Except Error Unit) : Isolated name text
      [⟨"SAVEPOINT " ++ name, .ok ()⟩, ⟨text, .ok ()⟩, ⟨"RELEASE SAVEPOINT " ++ name, r⟩] r
  | undone (e : Error) (r : Except Error Unit) : Isolated name text
      [⟨"SAVEPOINT " ++ name, .ok ()⟩, ⟨text, .error e⟩, ⟨"ROLLBACK TO SAVEPOINT " ++ name, r⟩]
      (.error e)

theorem result_batch (sql : String) (w : Watched κ) :
    result (Channel.batch sql) w =
      ((result (Channel.batch sql) w.inner).1,
        ⟨(result (Channel.batch sql) w.inner).2,
          w.log ++ [⟨sql, (result (Channel.batch sql) w.inner).1⟩]⟩) := rfl

theorem withSavepoint_sent (text : String) (w : Watched κ) :
    ∃ n sent outcome k, result (withSavepoint text) w = (outcome, ⟨k, w.log ++ sent⟩) ∧
      Isolated (savepointName n) text sent outcome := by
  have hbatch : ∀ (sql : String) (w : Watched κ), ∃ r k,
      result (Channel.batch sql) w = (r, ⟨k, w.log ++ [⟨sql, r⟩]⟩) :=
    fun sql w => ⟨_, _, result_batch sql w⟩
  obtain ⟨n, k₀, hfresh⟩ :
      ∃ n k₀, result (Channel.freshSavepoint (κ := Watched κ)) w = (.ok n, ⟨k₀, w.log⟩) :=
    ⟨_, _, rfl⟩
  refine ⟨n, ?_⟩
  unfold withSavepoint
  rw [Act.result_bind_ok hfresh]
  obtain ⟨r₁, k₁, h₁⟩ := hbatch ("SAVEPOINT " ++ savepointName n) ⟨k₀, w.log⟩
  cases r₁ with
  | error e =>
    rw [Act.result_bind_error h₁]
    exact ⟨_, _, _, rfl, .refused e⟩
  | ok _ =>
    rw [Act.result_bind_ok h₁]
    obtain ⟨r₂, k₂, h₂⟩ := hbatch text ⟨k₁, w.log ++ [⟨"SAVEPOINT " ++ savepointName n, .ok ()⟩]⟩
    rw [Act.result_bind_ok (Act.result_attempt h₂)]
    cases r₂ with
    | ok _ =>
      obtain ⟨r₃, k₃, h₃⟩ := hbatch ("RELEASE SAVEPOINT " ++ savepointName n)
        ⟨k₂, w.log ++ [⟨"SAVEPOINT " ++ savepointName n, .ok ()⟩] ++ [⟨text, .ok ()⟩]⟩
      refine ⟨_, _, k₃, h₃.trans ?_, .kept r₃⟩
      rw [List.append_assoc, List.append_assoc]
      rfl
    | error e =>
      obtain ⟨r₃, k₃, h₃⟩ := hbatch ("ROLLBACK TO SAVEPOINT " ++ savepointName n)
        ⟨k₂, w.log ++ [⟨"SAVEPOINT " ++ savepointName n, .ok ()⟩] ++ [⟨text, .error e⟩]⟩
      dsimp only
      rw [Act.result_bind_ok (Act.result_attempt h₃)]
      have hlog : ∀ k : κ, Watched.mk k (w.log ++ [⟨"SAVEPOINT " ++ savepointName n, .ok ()⟩] ++
            [⟨text, .error e⟩] ++ [⟨"ROLLBACK TO SAVEPOINT " ++ savepointName n, r₃⟩]) =
          ⟨k, w.log ++ [⟨"SAVEPOINT " ++ savepointName n, .ok ()⟩, ⟨text, .error e⟩,
            ⟨"ROLLBACK TO SAVEPOINT " ++ savepointName n, r₃⟩]⟩ := by
        intro k
        rw [List.append_assoc, List.append_assoc]
        rfl
      cases r₃ with
      | ok _ => exact ⟨_, _, k₃, congrArg _ (hlog k₃), .undone e (.ok ())⟩
      | error again => exact ⟨_, _, _, congrArg _ (hlog _), .undone e (.error again)⟩

end Watched

end DeclaredTriggers
