import DeclaredTriggers.Proofs.Backend.Run

/-!
# One variable of a backend

A backend keeps its variables apart: what a request does to one of them depends on that variable and
on the phase alone. `Ledger` is this part of a backend. Most requests have no control statement in
them, and these change a ledger in one way only:

> `Ran.ledger_of_ordinary`: statements that control nothing, all done, leave the ledger with what
> they set (`heldAfter`); stopped by a failure, they leave `Ledger.aborted`, whatever was done before.

The log is read the same way:

> `Ran.executed`: the statements that a run does are written down, in order, with what variables were
> worth to each.
-/

namespace DeclaredTriggers

open Sql (Control)

/-- A variable after a statement with some effect; `home` is what it holds where nobody set it. -/
def Effect.on (x : Variable) (home : Content) : Effect → Held → Held
  | .reset y, h => if y = x then ⟨home, none⟩ else h
  | .set y isLocal text, h =>
    if hc : Sql.isClosed text then if y = x then h.set isLocal ⟨text, hc⟩ else h else h
  | .control _, h | .showPath, h | .ordinary, h => h

/-- A variable after some statements. -/
def heldAfter (x : Variable) (home : Content) (ss : List (List Char)) (h : Held) : Held :=
  ss.foldl (fun h s => (Effect.ofStatement s).on x home h) h

theorem Effect.on_of_not_writes {x : Variable} {e : Effect} (h : e.writes x = false)
    (home : Content) (held : Held) : e.on x home held = held := by
  cases e with
  | reset y => exact if_neg (by simpa [writes] using h)
  | set y isLocal text =>
    have hy : y ≠ x := by simpa [writes] using h
    simp [on, hy]
  | control | showPath | ordinary => rfl

theorem heldAfter_append (x : Variable) (home : Content) (ss ts : List (List Char)) (h : Held) :
    heldAfter x home (ss ++ ts) h = heldAfter x home ts (heldAfter x home ss h) :=
  List.foldl_append

theorem heldAfter_of_not_writes {x : Variable} {ss : List (List Char)}
    (hss : ∀ s ∈ ss, (Effect.ofStatement s).writes x = false) (home : Content) (h : Held) :
    heldAfter x home ss h = h := by
  induction ss with
  | nil => rfl
  | cons s ss ih =>
    show heldAfter x home ss ((Effect.ofStatement s).on x home h) = h
    rw [Effect.on_of_not_writes (hss s List.mem_cons_self)]
    exact ih fun t ht => hss t (List.mem_cons_of_mem _ ht)

/-- What a backend has on one variable. -/
structure Ledger where
  phase : Phase
  /-- What it held before the transaction. -/
  outside : Content
  held : Held
  /-- What it held at the savepoints, the newest first. -/
  marks : List Held

namespace Ledger

/-- The transaction ended and kept its work. -/
def committed (l : Ledger) : Ledger := ⟨.idle, l.held.lasting, ⟨l.held.lasting, none⟩, []⟩

/-- The transaction ended and its work is undone. -/
def rolledBack (l : Ledger) : Ledger := ⟨.idle, l.outside, ⟨l.outside, none⟩, []⟩

/-- Something went wrong. -/
def aborted (l : Ledger) : Ledger :=
  if l.phase = .idle then l.rolledBack
  else { l with phase := .failed, held := l.marks.head?.getD ⟨l.outside, none⟩ }

/-- A request was done. -/
def rested (l : Ledger) : Ledger := if l.phase = .idle then l.committed else l

theorem aborted_phase (l : Ledger) : l.aborted.phase = l.phase.aborted := by
  unfold aborted
  rcases hp : l.phase with _ | _ | _ <;> rfl

theorem rested_of_inTransaction {l : Ledger} (h : l.phase = .inTransaction) (held : Held) :
    rested { l with held } = { l with held } := by
  have hopen : l.phase ≠ .idle := by
    rw [h]
    simp
  exact if_neg hopen

end Ledger

namespace Backend

/-- What a backend has on a variable. -/
def ledger (b : Backend) (x : Variable) : Ledger :=
  ⟨b.phase, b.outside x, b.holdings x, b.savepoints.map (·.2 x)⟩

section

variable (b : Backend) (x : Variable)

theorem value_eq_ledger : b.value x = (b.ledger x).held.value := rfl

@[simp] theorem ticked_ledger : b.ticked.ledger x = b.ledger x := rfl

@[simp] theorem logged_ledger (before : Backend) (s : List Char) :
    (logged before s b).ledger x = b.ledger x := rfl

theorem committed_ledger : b.committed.ledger x = (b.ledger x).committed := rfl

theorem rolledBack_ledger : b.rolledBack.ledger x = (b.ledger x).rolledBack := rfl

theorem aborted_ledger : b.aborted.ledger x = (b.ledger x).aborted := by
  unfold aborted Ledger.aborted
  by_cases h : b.phase = .idle
  · rw [if_pos h, if_pos (show (b.ledger x).phase = .idle from h)]
    rfl
  · rw [if_neg h, if_neg (show (b.ledger x).phase ≠ .idle from h)]
    unfold ledger sheltered
    cases b.savepoints <;> rfl

theorem rested_ledger : b.rested.ledger x = (b.ledger x).rested := by
  unfold rested Ledger.rested
  by_cases h : b.phase = .idle
  · rw [if_pos h, if_pos (show (b.ledger x).phase = .idle from h)]
    rfl
  · rw [if_neg h, if_neg (show (b.ledger x).phase ≠ .idle from h)]

theorem failedAt_ledger (s : List Char) : (b.failedAt s).ledger x =
    if isEnd s then (b.ledger x).rolledBack else (b.ledger x).aborted := by
  unfold failedAt
  split
  next => rfl
  next => exact b.aborted_ledger x

end

/-- What an accepted ordinary statement leaves in a variable. -/
theorem holdings_of_ordinary {s : List Char} (hs : Control.ofStatement? s = none) {b b' : Backend}
    (h : b.accepted? s = some b') (x : Variable) :
    b'.holdings x = (Effect.ofStatement s).on x (b.conduct.defaults x) (b.holdings x) := by
  unfold accepted? at h
  rcases he : Effect.ofStatement s with c | ⟨y, isLocal, text⟩ | y | _ | _ <;> rw [he] at h
  · rw [ofStatement_control.1 he] at hs
    cases hs
  · simp only at h
    split at h
    next => cases h
    next =>
      unfold assigned? at h
      split at h
      next hclosed =>
        cases h
        by_cases hy : y = x
        · subst hy
          simp [hold, Effect.on, hclosed]
        · have hx : x ≠ y := fun hx => hy hx.symm
          simp [hold, Effect.on, hy, hx]
      next => cases h
  · simp only at h
    split at h
    next => cases h
    next =>
      cases h
      by_cases hy : y = x
      · subst hy
        simp [hold, Effect.on]
      · have hx : x ≠ y := fun hx => hy hx.symm
        simp [hold, Effect.on, hy, hx]
  all_goals
    simp only at h
    split at h
    next => cases h
    next =>
      cases h
      rfl

theorem ledger_of_ordinary {s : List Char} (hs : Control.ofStatement? s = none) {b b' : Backend}
    (h : b.accepted? s = some b') (x : Variable) :
    b'.ledger x = { b.ledger x with
      held := (Effect.ofStatement s).on x (b.conduct.defaults x) (b.holdings x) } := by
  rw [← holdings_of_ordinary hs h, (accepted?_of_ordinary hs h).2]
  rfl

namespace Ran

variable {b b' : Backend} {ss : List (List Char)} {ok : Bool}

/-- Ordinary statements leave what they set, or what a failure leaves. -/
theorem ledger_of_ordinary (h : Ran b ss ok b') (hss : ∀ s ∈ ss, Control.ofStatement? s = none)
    (x : Variable) :
    b'.ledger x =
      if ok then { b.ledger x with held := heldAfter x (b.conduct.defaults x) ss (b.holdings x) }
      else (b.ledger x).aborted := by
  induction h with
  | done b => rfl
  | @went b after b' s rest ok hafter _ ih =>
    have hs := hss s List.mem_cons_self
    have hone := Backend.ledger_of_ordinary hs hafter x
    rw [ih fun t ht => hss t (List.mem_cons_of_mem _ ht), ticked_ledger, logged_ledger, hone]
    cases ok with
    | true =>
      have hconduct : after.conduct = b.conduct := conduct_of_accepted? hafter
      have hheld := holdings_of_ordinary hs hafter x
      show Ledger.mk _ _ (heldAfter x (after.conduct.defaults x) rest (after.holdings x)) _ = _
      rw [hconduct, hheld]
      rfl
    | false =>
      -- what was held before a failure is forgotten
      unfold Ledger.aborted
      by_cases hp : (b.ledger x).phase = .idle
      · simp [hp, Ledger.rolledBack]
      · simp [hp]
  | stopped b s rest =>
    have hend : isEnd s = false := by
      have := hss s List.mem_cons_self
      rw [Bool.eq_false_iff]
      intro hend
      rcases isEnd_iff.1 hend with h | h <;> rw [this] at h <;> cases h
    rw [ticked_ledger, failedAt_ledger, hend]
    rfl

end Ran

/-- A request without control statements. -/
theorem serve_ledger_of_ordinary (b : Backend) {ss : List (List Char)}
    (hss : ∀ s ∈ ss, Control.ofStatement? s = none) (x : Variable) :
    (b.serve ss).2.ledger x =
      if (b.serve ss).1.isDone then
        Ledger.rested
          { b.ledger x with held := heldAfter x (b.conduct.defaults x) ss (b.holdings x) }
      else (b.ledger x).aborted := by
  obtain ⟨after, hran, hafter⟩ := b.ran_serve ss
  have hledger := hran.ledger_of_ordinary hss x
  rw [hafter]
  cases hok : (b.serve ss).1.isDone with
  | true =>
    rw [hok] at hledger
    rw [if_pos rfl, if_pos rfl, rested_ledger, hledger]
    rfl
  | false =>
    rw [hok] at hledger
    exact hledger

/-! ## The log -/

/-- An accepted statement is written down with what variables were worth to it. -/
theorem logged_executed {s : List Char} {b after : Backend} (h : b.accepted? s = some after) :
    (logged b s after).ticked.executed = b.executed ++ [⟨s, b.value⟩] := by
  show after.executed ++ _ = _
  rw [executed_of_accepted? h]

theorem aborted_executed (b : Backend) : b.aborted.executed = b.executed := by
  unfold aborted
  split <;> rfl

/-- One that fails is not. -/
theorem failedAt_executed (b : Backend) (s : List Char) :
    (b.failedAt s).executed = b.executed := by
  unfold failedAt
  split
  next => rfl
  next => exact b.aborted_executed

namespace Ran

variable {b b' : Backend} {ss : List (List Char)} {ok : Bool}

/-- A run writes down the statements that it does, with what variables were worth to each; `I` is
kept by every statement. -/
theorem executed {I : Backend → Prop} (h : Ran b ss ok b') (hb : I b)
    (hstep : ∀ s ∈ ss, ∀ b after, I b → b.accepted? s = some after → I (logged b s after).ticked) :
    ∃ ran : List Execution, b'.executed = b.executed ++ ran ∧
      ran.map Execution.statement <+: ss ∧ (ok → ran.map Execution.statement = ss) ∧
      ∀ e ∈ ran, ∃ mid, I mid ∧ e.values = mid.value := by
  induction h with
  | done b => exact ⟨[], by simp⟩
  | @went b after b' s rest ok hafter _ ih =>
    obtain ⟨ran, hexec, hpre, hall, hvalues⟩ := ih (hstep s List.mem_cons_self b after hb hafter)
      fun t ht => hstep t (List.mem_cons_of_mem _ ht)
    refine ⟨⟨s, b.value⟩ :: ran, ?_, ?_, ?_, ?_⟩
    · rw [hexec, logged_executed hafter, List.append_assoc, List.singleton_append]
    · exact List.prefix_cons_inj s |>.2 hpre
    · intro hok
      rw [List.map_cons, hall hok]
    · intro e he
      rcases List.mem_cons.1 he with rfl | he
      · exact ⟨b, hb, rfl⟩
      · exact hvalues e he
  | stopped b s rest => exact ⟨[], by simp [failedAt_executed]⟩

end Ran

end Backend

end DeclaredTriggers
