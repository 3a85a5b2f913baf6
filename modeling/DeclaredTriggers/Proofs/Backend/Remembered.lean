import DeclaredTriggers.Proofs.Backend.Ledger

/-!
# What a variable can come back to

A variable can come back to more than it holds: a rollback brings back what a savepoint remembers, or
what was held before the transaction. `Ledger.All P` says that all of this is as `P` says. The rules of
transactions only move such contents about, so nothing else comes up unless a statement brings it:

> `all_receive`: if all that a variable can come back to is as `P` says, and every statement of a request
> that writes the variable leaves something of that kind, then it is so behind the request as well,
> whatever fails in it.
-/

namespace DeclaredTriggers

open Sql (Control)

/-- What a variable holds is as `P` says, now and once the transaction has ended. -/
structure Held.All (P : Content → Prop) (h : Held) : Prop where
  lasting : P h.lasting
  passing : ∀ v, h.passing = some v → P v

/-- All that a variable can come back to is as `P` says. -/
structure Ledger.All (P : Content → Prop) (l : Ledger) : Prop where
  outside : P l.outside
  held : l.held.All P
  marks : ∀ m ∈ l.marks, m.All P

/-- An effect that leaves nothing else in a variable than `P` says, if it held nothing else. -/
def Effect.Leaves (x : Variable) (P : Content → Prop) (e : Effect) : Prop :=
  ∀ default held, held.All P → (e.on x default held).All P

section

variable {x : Variable} {P : Content → Prop}

namespace Held.All

variable {h : Held}

theorem value (h' : h.All P) : P h.value := by
  unfold Held.value
  cases hp : h.passing with
  | none => exact h'.lasting
  | some v => exact h'.passing v hp

/-- Outside a transaction there is one thing only. -/
theorem alone {v : Content} (hv : P v) : Held.All P ⟨v, none⟩ :=
  ⟨hv, fun _ hnone => (nomatch hnone)⟩

theorem set (h' : h.All P) {v : Content} (hv : P v) (isLocal : Bool) : (h.set isLocal v).All P := by
  cases isLocal with
  | true =>
    refine ⟨h'.lasting, fun u hu => ?_⟩
    cases hu
    exact hv
  | false => exact alone hv

end Held.All

theorem Effect.leaves_of_not_writes {e : Effect} (h : e.writes x = false) : e.Leaves x P := by
  intro default held hheld
  rw [Effect.on_of_not_writes h]
  exact hheld

theorem Effect.leaves_set {isLocal : Bool} {text : List Char}
    (h : ∀ hc : Sql.isClosed text, P ⟨text, hc⟩) : (Effect.set x isLocal text).Leaves x P := by
  intro default held hheld
  by_cases hc : Sql.isClosed text
  · have heffect : (Effect.set x isLocal text).on x default held = held.set isLocal ⟨text, hc⟩ := by
      simp [Effect.on, hc]
    rw [heffect]
    exact hheld.set (h hc) isLocal
  · have heffect : (Effect.set x isLocal text).on x default held = held := by
      simp [Effect.on, hc]
    rw [heffect]
    exact hheld

namespace Ledger.All

variable {l : Ledger}

theorem committed (h : l.All P) : l.committed.All P :=
  ⟨h.held.lasting, .alone h.held.lasting, fun _ hm => (nomatch hm)⟩

theorem rolledBack (h : l.All P) : l.rolledBack.All P :=
  ⟨h.outside, .alone h.outside, fun _ hm => (nomatch hm)⟩

theorem aborted (h : l.All P) : l.aborted.All P := by
  unfold Ledger.aborted
  split
  next => exact h.rolledBack
  next =>
    -- what the newest savepoint remembers is back, or what was there before the transaction
    refine ⟨h.outside, ?_, h.marks⟩
    show (l.marks.head?.getD ⟨l.outside, none⟩).All P
    cases hmarks : l.marks with
    | nil => exact .alone h.outside
    | cons m ms => exact h.marks m (by rw [hmarks]; exact List.mem_cons_self)

theorem rested (h : l.All P) : l.rested.All P := by
  unfold Ledger.rested
  split
  next => exact h.committed
  next => exact h

end Ledger.All

namespace Backend

variable {b b' : Backend}

/-- An accepted statement only moves about what there is, but for what it writes. -/
theorem all_of_accepted? {s : List Char} (h : (b.ledger x).All P)
    (hs : (Effect.ofStatement s).Leaves x P) (haccepted : b.accepted? s = some b') :
    (b'.ledger x).All P := by
  cases hc : Control.ofStatement? s with
  | none =>
    rw [ledger_of_ordinary hc haccepted]
    exact ⟨h.outside, hs _ _ h.held, h.marks⟩
  | some c =>
    cases controlled_of_accepted? hc haccepted with
    | opens => exact ⟨h.outside, h.held, h.marks⟩
    | commit => exact h.committed
    | commitFailed | rollback => exact h.rolledBack
    | savepoint => exact ⟨h.outside, h.held, List.forall_mem_cons.2 ⟨h.held, h.marks⟩⟩
    | @rollbackTo p newer older _ hsplit =>
      -- what comes back was remembered at a savepoint
      have hmarks : ∀ q ∈ newer ++ p :: older, (q.2 x).All P := by
        rw [← hsplit]
        exact fun q hq => h.marks _ (List.mem_map_of_mem hq)
      have hrest : ∀ q ∈ p :: older, (q.2 x).All P :=
        fun q hq => hmarks q (List.mem_append_right _ hq)
      refine ⟨h.outside, hrest p List.mem_cons_self, fun m hm => ?_⟩
      obtain ⟨q, hq, rfl⟩ := List.mem_map.1 hm
      exact hrest q hq
    | @release p newer older _ hsplit =>
      -- what is forgotten leaves what was remembered before it
      refine ⟨h.outside, h.held, fun m hm => ?_⟩
      obtain ⟨q, hq, rfl⟩ := List.mem_map.1 hm
      refine h.marks _ (List.mem_map_of_mem ?_)
      rw [hsplit]
      exact List.mem_append_right _ (List.mem_cons_of_mem _ hq)

theorem Ran.all {ss : List (List Char)} {ok : Bool} (hran : Ran b ss ok b')
    (h : (b.ledger x).All P) (hss : ∀ s ∈ ss, (Effect.ofStatement s).Leaves x P) :
    (b'.ledger x).All P := by
  induction hran with
  | done => exact h
  | went haccepted _ ih =>
    obtain ⟨hs, hrest⟩ := List.forall_mem_cons.1 hss
    have hafter := all_of_accepted? h hs haccepted
    exact ih hafter hrest
  | stopped b s rest =>
    rw [ticked_ledger, failedAt_ledger]
    split
    next => exact h.rolledBack
    next => exact h.aborted

theorem all_serve {ss : List (List Char)} (h : (b.ledger x).All P)
    (hss : ∀ s ∈ ss, (Effect.ofStatement s).Leaves x P) : ((b.serve ss).2.ledger x).All P := by
  obtain ⟨after, hran, hafter⟩ := b.ran_serve ss
  have hall := hran.all h hss
  rw [hafter]
  split
  next =>
    rw [rested_ledger]
    exact hall.rested
  next => exact hall

/-- A request brings up nothing that its statements do not bring. -/
theorem all_receive {q : Request} (h : (b.ledger x).All P)
    (hq : ∀ s ∈ Sql.statements q.sql.toList, (Effect.ofStatement s).Leaves x P) :
    ((b.receive q).2.ledger x).All P := by
  cases q with
  | batch sql => exact all_serve h hq
  | prepared sql params =>
    by_cases hmany : 1 < (Sql.statements sql.toList).length
    · rw [show b.receive (.prepared sql params) = (.refused misplaced, b.aborted) from if_pos hmany]
      show (b.aborted.ledger x).All P
      rw [aborted_ledger]
      exact h.aborted
    · rw [receive_prepared hmany]
      exact all_serve h hq

/-- Nor do several. -/
theorem all_receives {reqs : List Request} (h : (b.ledger x).All P)
    (hreqs : ∀ q ∈ reqs, ∀ s ∈ Sql.statements q.sql.toList, (Effect.ofStatement s).Leaves x P) :
    ((reqs.foldl (fun b q => (b.receive q).2) b).ledger x).All P := by
  induction reqs generalizing b with
  | nil => exact h
  | cons q reqs ih =>
    obtain ⟨hq, hreqs⟩ := List.forall_mem_cons.1 hreqs
    exact ih (all_receive h hq) hreqs

end Backend

end

end DeclaredTriggers
