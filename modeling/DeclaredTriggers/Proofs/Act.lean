import DeclaredTriggers.Act
import Mathlib.Data.List.Forall2

/-!
# What work comes to

`Act.result` runs some work on a state: what came of it, and the state it left. The lemmas here
say how the result of work that was put together follows from the results of its parts, so that
proofs about programs never look inside the monads they are written in.
-/

namespace DeclaredTriggers

theorem eq_ok_of_toOption {ε α : Type} {x : Except ε α} {a : α} (h : x.toOption = some a) : x = .ok a := by
  cases x with
  | error fault => cases h
  | ok b => exact congrArg Except.ok (Option.some.inj h)

/-- What a computation that gives an answer did first gave one. -/
theorem exists_ok_of_bind {ε α β : Type} {x : Except ε α} {f : α → Except ε β} {b : β}
    (h : (x >>= f) = .ok b) : ∃ a, x = .ok a ∧ f a = .ok b := by
  cases x with
  | error fault => cases h
  | ok a => exact ⟨a, rfl, h⟩

/-- Computations on the members of a list give answers if each does. -/
theorem exists_mapM_iff {ε α β : Type} {f : α → Except ε β} {xs : List α} :
    (∃ ys, xs.mapM f = .ok ys) ↔ ∀ x ∈ xs, ∃ y, f x = .ok y := by
  induction xs with
  | nil => exact ⟨by simp, fun _ => ⟨[], rfl⟩⟩
  | cons x xs ih =>
    rw [List.forall_mem_cons, ← ih]
    constructor
    · rintro ⟨ys, h⟩
      rw [List.mapM_cons] at h
      obtain ⟨y, hy, h⟩ := exists_ok_of_bind h
      obtain ⟨zs, hzs, -⟩ := exists_ok_of_bind h
      exact ⟨⟨y, hy⟩, zs, hzs⟩
    · rintro ⟨⟨y, hy⟩, zs, hzs⟩
      exact ⟨y :: zs, by rw [List.mapM_cons, hy, hzs]; rfl⟩

/-- The answers of such computations, one for each member. -/
theorem forall₂_of_mapM {ε α β : Type} {f : α → Except ε β} {xs : List α} {ys : List β}
    (h : xs.mapM f = .ok ys) : List.Forall₂ (fun x y => f x = .ok y) xs ys := by
  induction xs generalizing ys with
  | nil =>
    obtain rfl : [] = ys := Except.ok.inj h
    exact .nil
  | cons x xs ih =>
    rw [List.mapM_cons] at h
    obtain ⟨y, hy, h⟩ := exists_ok_of_bind h
    obtain ⟨zs, hzs, h⟩ := exists_ok_of_bind h
    obtain rfl := Except.ok.inj h
    exact .cons hy (ih hzs)

/-- Each answer is that of a member. -/
theorem exists_of_mem_mapM {ε α β : Type} {f : α → Except ε β} {xs : List α} {ys : List β}
    (h : xs.mapM f = .ok ys) {y : β} (hy : y ∈ ys) : ∃ x ∈ xs, f x = .ok y := by
  have hall := forall₂_of_mapM h
  clear h
  induction hall with
  | nil => cases hy
  | cons hone _ ih =>
    rcases List.mem_cons.1 hy with rfl | hy
    · exact ⟨_, List.mem_cons_self, hone⟩
    · obtain ⟨x, hx, hxy⟩ := ih hy
      exact ⟨x, List.mem_cons_of_mem _ hx, hxy⟩

/-- A filter that refuses nothing. -/
theorem filterM_pure_true {m : Type → Type} [Monad m] [LawfulMonad m] {α : Type} (xs : List α) :
    xs.filterM (fun _ => (pure true : m Bool)) = pure xs := by
  have hsearch : ∀ acc : List α, xs.filterAuxM (fun _ => (pure true : m Bool)) acc = pure (xs.reverse ++ acc) := by
    induction xs with
    | nil => exact fun acc => rfl
    | cons x xs ih =>
      intro acc
      rw [List.filterAuxM, pure_bind, ih]
      simp
  rw [List.filterM, hsearch]
  simp

end DeclaredTriggers

namespace DeclaredTriggers.Act

variable {κ ρ α β : Type}

/-- What comes of some work, and the state it leaves. -/
def result (act : Act κ α) (k : κ) : Except Error α × κ := act.run.run k

@[simp] theorem result_pure (a : α) (k : κ) : result (pure a) k = (.ok a, k) := rfl

@[simp] theorem result_throw (e : Error) (k : κ) :
    result (throw e : Act κ α) k = (.error e, k) := rfl

theorem result_bind (act : Act κ α) (f : α → Act κ β) (k : κ) :
    result (act >>= f) k =
      match result act k with
      | (.ok a, k) => result (f a) k
      | (.error e, k) => (.error e, k) := by
  simp only [result, ExceptT.run_bind, StateT.run_bind]
  rcases StateT.run (ExceptT.run act) k with ⟨_ | a, k'⟩ <;> rfl

/-- Work after work that succeeded. -/
theorem result_bind_ok {act : Act κ α} {k k' : κ} {a : α} (h : result act k = (.ok a, k'))
    (f : α → Act κ β) : result (act >>= f) k = result (f a) k' := by
  rw [result_bind, h]

/-- Work after work that failed. -/
theorem result_bind_error {act : Act κ α} {k k' : κ} {e : Error}
    (h : result act k = (.error e, k')) (f : α → Act κ β) :
    result (act >>= f) k = (.error e, k') := by
  rw [result_bind, h]

/-- Both parts of work that succeeded did. -/
theorem exists_ok_of_result_bind {act : Act κ α} {f : α → Act κ β} {k k' : κ} {b : β}
    (h : result (act >>= f) k = (.ok b, k')) :
    ∃ a k₁, result act k = (.ok a, k₁) ∧ result (f a) k₁ = (.ok b, k') := by
  rw [result_bind] at h
  split at h
  next a k₁ hact => exact ⟨a, k₁, hact, h⟩
  next => cases h

/-- What work keeps, and whatever follows it, holds of the state that both leave. -/
theorem of_bind {P : κ → Prop} {act : Act κ α} {f : α → Act κ β} {k : κ} (hact : P (result act k).2)
    (hf : ∀ a k', P k' → P (result (f a) k').2) : P (result (act >>= f) k).2 := by
  rw [result_bind]
  split
  next a k' h =>
    rw [h] at hact
    exact hf a k' hact
  next e k' h =>
    rw [h] at hact
    exact hact

@[simp] theorem result_get (k : κ) : result get k = (.ok k, k) := rfl

@[simp] theorem result_set (k k' : κ) : result (set k' : Act κ PUnit) k = (.ok ⟨⟩, k') := rfl

@[simp] theorem result_modify (f : κ → κ) (k : κ) :
    result (modify f : Act κ PUnit) k = (.ok ⟨⟩, f k) := rfl

@[simp] theorem result_lift (a : Except Error α) (k : κ) :
    result (liftM a : Act κ α) k = (a, k) := by
  cases a <;> rfl

/-- An attempt succeeds with whatever came of the work. -/
theorem result_attempt {act : Act κ α} {k k' : κ} {r : Except Error α}
    (h : result act k = (r, k')) : result (attempt act) k = (.ok r, k') := by
  show (Except.ok (result act k).1, (result act k).2) = _
  rw [h]

@[simp] theorem result_focus (part : κ → ρ) (put : ρ → κ → κ) (act : Act ρ α) (k : κ) :
    result (focus part put act) k =
      ((result act (part k)).1, put (result act (part k)).2 k) := rfl

/-- A filter only leaves out. -/
theorem mem_of_filterM {p : α → Act κ Bool} {xs ys : List α} {k k' : κ}
    (h : result (xs.filterM p) k = (.ok ys, k')) : ∀ y ∈ ys, y ∈ xs := by
  have hsearch : ∀ (xs acc : List α) {k : κ} {zs : List α} {k' : κ},
      result (xs.filterAuxM p acc) k = (.ok zs, k') → ∀ z ∈ zs, z ∈ xs ∨ z ∈ acc := by
    intro xs
    induction xs with
    | nil =>
      intro acc k zs k' hzs z hz
      obtain rfl := Except.ok.inj (Prod.mk.inj hzs).1
      exact .inr hz
    | cons x xs ih =>
      intro acc k zs k' hzs z hz
      obtain ⟨b, k₁, -, hrest⟩ := exists_ok_of_result_bind hzs
      rcases ih _ hrest z hz with hz | hz
      · exact .inl (List.mem_cons_of_mem _ hz)
      · cases b with
        | false => exact .inr hz
        | true =>
          rcases List.mem_cons.1 hz with rfl | hz
          · exact .inl List.mem_cons_self
          · exact .inr hz
  obtain ⟨zs, k₁, hzs, hend⟩ := exists_ok_of_result_bind h
  obtain rfl := Except.ok.inj (Prod.mk.inj hend).1
  intro y hy
  rcases hsearch xs [] hzs y (List.mem_reverse.1 hy) with hy | hy
  · exact hy
  · exact absurd hy List.not_mem_nil

/-- Work on one thing after another fails exactly where it fails on one and succeeded on all before it. -/
theorem result_forM_eq_error_iff {f : α → Act κ Unit} {xs : List α} {k k' : κ} {e : Error} :
    result (xs.forM f) k = (.error e, k') ↔ ∃ before x after k₁, xs = before ++ x :: after ∧
      result (before.forM f) k = (.ok (), k₁) ∧ result (f x) k₁ = (.error e, k') := by
  constructor
  · intro h
    induction xs generalizing k with
    | nil => cases (show result (pure ()) k = _ from h)
    | cons y xs ih =>
      cases hy : result (f y) k with
      | mk came k₁ =>
        cases came with
        | error e' =>
          have hhere := result_bind_error hy fun _ => xs.forM f
          exact ⟨[], y, xs, k, rfl, rfl, hy.trans (hhere.symm.trans h)⟩
        | ok u =>
          have hthere := result_bind_ok hy fun _ => xs.forM f
          obtain ⟨before, x, after, k₂, rfl, hbefore, hx⟩ := ih (hthere.symm.trans h)
          exact ⟨y :: before, x, after, k₂, rfl, (result_bind_ok hy _).trans hbefore, hx⟩
  · rintro ⟨before, x, after, k₁, rfl, hbefore, hx⟩
    induction before generalizing k with
    | nil =>
      obtain rfl := (Prod.mk.inj hbefore).2
      exact result_bind_error hx _
    | cons y before ih =>
      obtain ⟨u, k₂, hy, hrest⟩ := exists_ok_of_result_bind hbefore
      exact (result_bind_ok hy _).trans (ih hrest)

/-- Whatever comes of some work, a property of the state is kept. -/
def Keeps (P : κ → Prop) (act : Act κ α) : Prop := ∀ k, P k → P (result act k).2

namespace Keeps

variable {P : κ → Prop}

theorem pure (a : α) : Keeps P (Pure.pure a : Act κ α) := fun _ hk => hk

theorem throw (e : Error) : Keeps P (MonadExcept.throw e : Act κ α) := fun _ hk => hk

theorem lift (a : Except Error α) : Keeps P (liftM a : Act κ α) := by
  intro k hk
  rw [result_lift]
  exact hk

theorem bind {act : Act κ α} {f : α → Act κ β} (hact : Keeps P act) (hf : ∀ a, Keeps P (f a)) :
    Keeps P (act >>= f) := fun k hk => of_bind (hact k hk) fun a k' hk' => hf a k' hk'

theorem attempt {act : Act κ α} (hact : Keeps P act) : Keeps P (attempt act) := fun k hk => hact k hk

theorem filterM {p : α → Act κ Bool} (hp : ∀ a, Keeps P (p a)) (xs : List α) : Keeps P (xs.filterM p) := by
  have hsearch : ∀ (xs acc : List α), Keeps P (xs.filterAuxM p acc) := by
    intro xs
    induction xs with
    | nil => exact fun acc => pure acc
    | cons x xs ih => exact fun acc => bind (hp x) fun b => ih _
  exact bind (hsearch xs []) fun _ => pure _

end Keeps

/-- `Agree R p q`: two runs came to the same, and what they left is related. -/
structure Agree (R : κ → κ → Prop) (p q : Except Error α × κ) : Prop where
  came : p.1 = q.1
  left : R p.2 q.2

namespace Agree

variable {R : κ → κ → Prop} {k l : κ}

theorem refl (hR : ∀ k, R k k) (p : Except Error α × κ) : Agree R p p := ⟨rfl, hR p.2⟩

theorem pure (h : R k l) (a : α) : Agree R (result (Pure.pure a) k) (result (Pure.pure a) l) := ⟨rfl, h⟩

theorem throw (h : R k l) (e : Error) :
    Agree R (result (MonadExcept.throw e : Act κ α) k) (result (MonadExcept.throw e) l) := ⟨rfl, h⟩

theorem lift (h : R k l) (a : Except Error α) :
    Agree R (result (liftM a : Act κ α) k) (result (liftM a : Act κ α) l) := by
  rw [result_lift, result_lift]
  exact ⟨rfl, h⟩

theorem bind {act act' : Act κ α} {f f' : α → Act κ β} (h : Agree R (result act k) (result act' l))
    (hf : ∀ a k l, R k l → Agree R (result (f a) k) (result (f' a) l)) :
    Agree R (result (act >>= f) k) (result (act' >>= f') l) := by
  rw [result_bind, result_bind]
  obtain ⟨hcame, hleft⟩ := h
  generalize result act k = p at hcame hleft
  generalize result act' l = q at hcame hleft
  obtain ⟨r, k'⟩ := p
  obtain ⟨r', l'⟩ := q
  obtain rfl : r = r' := hcame
  cases r with
  | error e => exact ⟨rfl, hleft⟩
  | ok a => exact hf a k' l' hleft

/-- Work that looks at the state first. -/
theorem get {f f' : κ → Act κ β} (h : Agree R (result (f k) k) (result (f' l) l)) :
    Agree R (result (MonadState.get >>= f) k) (result (MonadState.get >>= f') l) := by
  rw [result_bind_ok (result_get k), result_bind_ok (result_get l)]
  exact h

theorem attempt {act act' : Act κ α} (h : Agree R (result act k) (result act' l)) :
    Agree R (result (Act.attempt act) k) (result (Act.attempt act') l) :=
  ⟨congrArg Except.ok h.came, h.left⟩

end Agree

/-- Work that succeeds and gives nothing. -/
theorem result_of_toBool {act : Act κ Unit} {k : κ} (h : (result act k).1.toBool) :
    result act k = (.ok (), (result act k).2) := by
  generalize result act k = r at h ⊢
  obtain ⟨e | u, k'⟩ := r
  · cases h
  · rfl

end DeclaredTriggers.Act
