import DeclaredTriggers.Proofs.Session.Tracking
import Mathlib.Logic.Relation

/-!
# What is known of a variable, and what it holds

The flags that a client keeps about one variable (`Setting`) and what the server has on it (`Ledger`)
change together. `Books` puts the two side by side, with what is known of the transaction, and
`Books.Step` lists everything that can happen to them: requests that are done and requests that
fail, with or without dues in them, and each kind of transaction control. `Books.Returned` is the one
event that is kept apart, a rollback to a savepoint.

Two invariants are proved over these events. `Accounted` says that the flags cover what was set for
good: unless the variable is marked dirty it holds what it held at home, in the transaction, at every
savepoint and outside; and a dirty variable that no session needs is undone or will be.

> `Accounted.step`, `Accounted.returned`: every event keeps the books accounted.

`Quiet` is about `SET LOCAL`, which no flag covers: no value of it is left in a transaction once the
last session is closed and nothing is pending.

> `Quiet.step`: every event but a rollback to a savepoint keeps the books quiet.

A rollback to a savepoint can break it, since the savepoint may have been taken while the variable
was set.
-/

namespace DeclaredTriggers

/-- What is known of a transaction in which a statement failed. -/
def TransactionStatus.failed : TransactionStatus → TransactionStatus
  | .idle => .idle
  | .inTransaction | .inError => .inError

theorem TransactionStatus.Tracks.failed {st : TransactionStatus} {p : Phase} (h : st.Tracks p) :
    st.failed.Tracks p.aborted := by
  cases st with
  | idle => exact congrArg Phase.aborted h
  | inTransaction | inError => exact p.aborted_ne_inTransaction

namespace Setting

/-- A setting once a request was done or failed: kept or rolled back at once, if no transaction is
open. -/
def settled (s : Setting) (status : TransactionStatus) (ok : Bool) : Setting :=
  if status ≠ .idle then s else if ok then s.committed else s.rolledBack

theorem committed_of_not {s : Setting} (h : s.uncommitted = false) : s.committed = s := by
  unfold committed
  rw [h]
  rfl

theorem rolledBack_of_not {s : Setting} (h : s.uncommitted = false) : s.rolledBack = s := by
  unfold rolledBack
  rw [h]
  rfl

theorem settled_of_not {s : Setting} (h : s.uncommitted = false) (status : TransactionStatus)
    (ok : Bool) : s.settled status ok = s := by
  unfold settled
  rw [committed_of_not h, rolledBack_of_not h]
  split
  next => rfl
  next => split <;> rfl

theorem committed_uncommitted (s : Setting) : s.committed.uncommitted = false := by
  unfold committed
  split
  next => rfl
  next h => simpa using h

theorem rolledBack_uncommitted (s : Setting) : s.rolledBack.uncommitted = false := by
  unfold rolledBack
  split
  next => rfl
  next h => simpa using h

theorem setAlong_of_local (s : Setting) (something : Bool) :
    s.setAlong true something = s.paid := by
  simp [setAlong]

theorem setAlong_of_unneeded {s : Setting} (h : s.sessions = 0) (isLocal something : Bool) :
    s.setAlong isLocal something = s.paid := by
  simp [setAlong, h]

/-- Where nothing is pending and nothing is set, a setting stays as it is. -/
theorem setAlong_of_nothing {s : Setting} (hpending : s.pending = false) {isLocal something : Bool}
    (hnothing : s.sessions = 0 ∨ something = false) : s.setAlong isLocal something = s := by
  have hpaid : s.paid = s := by
    unfold paid
    rw [hpending]
    rfl
  unfold setAlong
  rw [hpaid]
  rcases hnothing with h | h <;> simp [h]

theorem setAlong_sessions (s : Setting) (isLocal something : Bool) :
    (s.setAlong isLocal something).sessions = s.sessions := by
  unfold setAlong
  split
  next => exact s.paid_sessions
  next => exact s.paid_sessions

theorem paid_dirty (s : Setting) : s.paid.dirty = s.dirty := by
  unfold paid
  split <;> rfl

theorem not_dirty_of_setAlong {s : Setting} {isLocal something : Bool}
    (h : (s.setAlong isLocal something).dirty = false) : s.dirty = false := by
  unfold setAlong at h
  split at h
  next => rwa [paid_dirty] at h
  next => cases h

theorem setAlong_flagged {s : Setting} (h : s.uncommitted → s.dirty) (isLocal something : Bool) :
    (s.setAlong isLocal something).uncommitted → (s.setAlong isLocal something).dirty := by
  unfold setAlong
  split
  next =>
    rw [paid_dirty]
    unfold paid
    split
    next =>
      intro hu
      rcases Bool.or_eq_true_iff.1 hu with hu | hu
      · exact h hu
      · exact hu
    next => exact h
  next => exact fun _ => rfl

/-- An undoing that is owed is still owed, or went out. -/
theorem setAlong_owed {s : Setting} (h : s.sessions = 0 → s.dirty → s.pending ∨ s.uncommitted)
    (isLocal something : Bool) :
    (s.setAlong isLocal something).sessions = 0 → (s.setAlong isLocal something).dirty →
      (s.setAlong isLocal something).pending ∨ (s.setAlong isLocal something).uncommitted := by
  intro hsessions hdirty
  rw [setAlong_sessions] at hsessions
  rw [setAlong_of_unneeded hsessions] at hdirty ⊢
  rw [paid_dirty] at hdirty
  unfold paid
  split
  next => exact .inr (Bool.or_eq_true_iff.2 (.inr hdirty))
  next => exact h hsessions hdirty

theorem rolledBack_dirty (s : Setting) : s.rolledBack.dirty = s.dirty := by
  unfold rolledBack
  split <;> rfl

theorem rolledBack_sessions (s : Setting) : s.rolledBack.sessions = s.sessions := by
  unfold rolledBack
  split <;> rfl

/-- An undoing that was rolled back is pending again. -/
theorem rolledBack_owed {s : Setting} (h : s.sessions = 0 → s.dirty → s.pending ∨ s.uncommitted) :
    s.rolledBack.sessions = 0 → s.rolledBack.dirty →
      s.rolledBack.pending ∨ s.rolledBack.uncommitted := by
  intro hsessions hdirty
  rw [rolledBack_sessions] at hsessions
  rw [rolledBack_dirty] at hdirty
  refine .inl ?_
  unfold rolledBack
  split
  next => rfl
  next hu => exact (h hsessions hdirty).resolve_right hu

theorem committed_sessions (s : Setting) : s.committed.sessions = s.sessions := by
  unfold committed
  split <;> rfl

theorem committed_owed {s : Setting} (h : s.sessions = 0 → s.dirty → s.pending ∨ s.uncommitted) :
    s.committed.sessions = 0 → s.committed.dirty →
      s.committed.pending ∨ s.committed.uncommitted := by
  intro hsessions hdirty
  rw [committed_sessions] at hsessions
  unfold committed at hdirty ⊢
  split at hdirty
  next => cases hdirty
  next hu =>
    rw [if_neg hu]
    exact h hsessions hdirty

/-- The three ways to close a session that has an undoing. -/
theorem close_some (s : Setting) (idle canSend : Bool) (undo : String) :
    (s.close idle canSend (some undo) = (none, { s with sessions := s.sessions - 1 }) ∧
        (0 < s.sessions - 1 ∨ idle ∧ s.dirty = false)) ∨
      (s.close idle canSend (some undo) =
        (some undo, ({ s with sessions := s.sessions - 1 } : Setting).resetSent) ∧ canSend) ∨
      s.close idle canSend (some undo) =
        (none, { s with sessions := s.sessions - 1, pending := true }) := by
  unfold Setting.close
  simp only
  split
  next h => exact .inl ⟨rfl, by simpa using h⟩
  next =>
    split
    next h => exact .inr (.inl ⟨rfl, h⟩)
    next => exact .inr (.inr rfl)

/-- What a variable holds once its undoing was done, if one is pending. -/
def heldPaid (s : Setting) (home : Content) (h : Held) : Held :=
  if s.pending then ⟨home, none⟩ else h

/-- What a variable holds once the dues of its setting were done: undone first, if an undoing is
pending, then set to `v` for an open session. -/
def heldAlong (s : Setting) (home : Content) (isLocal : Bool) (v : Option Content) (h : Held) :
    Held :=
  match v with
  | none => s.heldPaid home h
  | some v => if s.sessions = 0 then s.heldPaid home h else (s.heldPaid home h).set isLocal v

/-- Unless something is set for good, the dues leave what was paid. -/
theorem lasting_heldAlong {s : Setting} {isLocal : Bool} {v : Option Content}
    (h : (s.sessions = 0 || isLocal || !v.isSome) = true) (home : Content) (held : Held) :
    (s.heldAlong home isLocal v held).lasting = (s.heldPaid home held).lasting := by
  unfold heldAlong
  cases v with
  | none => rfl
  | some v =>
    simp only
    split
    next => rfl
    next hs =>
      have hlocal : isLocal = true := by simpa [hs] using h
      rw [hlocal]
      rfl

end Setting

/-- What is known of a variable and of the transaction, and what the server has on the variable. -/
structure Books where
  setting : Setting
  status : TransactionStatus
  ledger : Ledger

namespace Books

/-- What can happen to a variable, but for a rollback to a savepoint; `home` is what it is undone
to. -/
inductive Step (home : Content) (k : Books) : Books → Prop where
  /-- A request that says nothing about the variable is done. -/
  | passed {s : Setting} : s = k.setting ∨ s = k.setting.settled k.status true →
      Step home k ⟨s, k.status, k.ledger.rested⟩
  /-- Such a request fails. -/
  | failed {s : Setting} : s = k.setting ∨ s = k.setting.settled k.status.failed false →
      Step home k ⟨s, k.status.failed, k.ledger.aborted⟩
  /-- A request with the dues in it is done. -/
  | paid {isLocal : Bool} {v : Option Content} : k.status ≠ .inError →
      (isLocal = false → k.status = .idle) →
      Step home k ⟨(k.setting.setAlong isLocal v.isSome).settled k.status true, k.status,
        Ledger.rested
          { k.ledger with held := k.setting.heldAlong home isLocal v k.ledger.held }⟩
  /-- Such a request fails. -/
  | unpaid {isLocal : Bool} {v : Option Content} : k.status ≠ .inError →
      Step home k ⟨(k.setting.setAlong isLocal v.isSome).settled k.status.failed false,
        k.status.failed, k.ledger.aborted⟩
  /-- One more session needs the variable. -/
  | opened : Step home k { k with setting := k.setting.opened }
  /-- One session fewer, and others are left or nothing is to be undone. -/
  | closed : 0 < k.setting.sessions - 1 ∨ k.status = .idle ∧ k.setting.dirty = false →
      Step home k { k with setting := { k.setting with sessions := k.setting.sessions - 1 } }
  /-- One session fewer, and an undoing waits. -/
  | queued : Step home k
      { k with setting := { k.setting with sessions := k.setting.sessions - 1, pending := true } }
  | began : k.ledger.phase ≠ .failed →
      Step home k ⟨k.setting, .inTransaction, { k.ledger with phase := .inTransaction }⟩
  /-- A transaction could not be opened. -/
  | strayed : Step home k ⟨k.setting, .inError, k.ledger.aborted⟩
  | committed : k.ledger.phase ≠ .failed →
      Step home k ⟨if k.status = .inError then k.setting.rolledBack else k.setting.committed, .idle,
        k.ledger.committed⟩
  | rolledBack : Step home k ⟨k.setting.rolledBack, .idle, k.ledger.rolledBack⟩
  /-- A savepoint is taken. -/
  | marked : k.ledger.phase = .inTransaction →
      Step home k { k with ledger := { k.ledger with marks := k.ledger.held :: k.ledger.marks } }
  /-- A savepoint is released. -/
  | released {newer older : List Held} {m : Held} : k.ledger.phase = .inTransaction →
      k.ledger.marks = newer ++ m :: older →
      Step home k { k with ledger := { k.ledger with marks := older } }

/-- A rollback to a savepoint. -/
inductive Returned (k : Books) : Books → Prop where
  | mk {newer older : List Held} {m : Held} : k.ledger.marks = newer ++ m :: older →
      Returned k ⟨k.setting.rolledBack, .inTransaction,
        { k.ledger with phase := .inTransaction, held := m, marks := m :: older }⟩

/-- What is known covers what was set for good. -/
structure Accounted (home : Content) (k : Books) : Prop where
  tracks : k.status.Tracks k.ledger.phase
  /-- Where no transaction is open, nothing is left of one. -/
  tidy : k.ledger.phase = .idle → k.ledger.held = ⟨k.ledger.outside, none⟩ ∧ k.ledger.marks = []
  /-- Only what was set for good needs undoing. -/
  flagged : k.setting.uncommitted → k.setting.dirty
  /-- Unless it is known to be set, the variable is at home wherever that is remembered. -/
  clean : k.setting.dirty = false → k.ledger.outside = home ∧ k.ledger.held.lasting = home ∧
    ∀ m ∈ k.ledger.marks, m.lasting = home
  /-- An undoing that went out in the transaction is in effect. -/
  undone : k.setting.uncommitted → k.status = .inTransaction → k.ledger.held.lasting = home
  settled : k.ledger.phase = .idle → k.setting.uncommitted = false
  /-- What nobody needs any longer is undone, or will be. -/
  owed : k.setting.sessions = 0 → k.setting.dirty →
    k.setting.pending ∨ k.setting.uncommitted

/-- No `SET LOCAL` is left in a transaction once nobody needs it and nothing is pending. -/
def Quiet (home : Content) (k : Books) : Prop :=
  k.setting.sessions = 0 → k.setting.pending = false → k.status = .inTransaction →
    k.ledger.held.passing.getD home = home

variable {home : Content} {k k' : Books}

namespace Accounted

/-- Without an open transaction, a request that was done leaves the ledger as it was. -/
theorem rested_eq (h : k.Accounted home) : k.ledger.rested = k.ledger := by
  unfold Ledger.rested
  split
  next hidle =>
    obtain ⟨hheld, hmarks⟩ := h.tidy hidle
    rcases hl : k.ledger with ⟨p, outside, held, marks⟩
    rw [hl] at hidle hheld hmarks
    simp only at hidle hheld hmarks
    rw [hidle, hheld, hmarks]
    rfl
  next => rfl

/-- So does one that failed. -/
theorem aborted_eq (h : k.Accounted home) (hidle : k.ledger.phase = .idle) :
    k.ledger.aborted = k.ledger := by
  obtain ⟨hheld, hmarks⟩ := h.tidy hidle
  unfold Ledger.aborted
  rw [if_pos hidle]
  rcases hl : k.ledger with ⟨p, outside, held, marks⟩
  rw [hl] at hidle hheld hmarks
  simp only at hidle hheld hmarks
  rw [hidle, hheld, hmarks]
  rfl

theorem tracks_idle (h : k.Accounted home) (hs : k.status = .idle) : k.ledger.phase = .idle := by
  have := h.tracks
  rwa [hs] at this

theorem tracks_inTransaction (h : k.Accounted home) (hs : k.status = .inTransaction) :
    k.ledger.phase = .inTransaction := by
  have := h.tracks
  rwa [hs] at this

theorem setting_of_idle (h : k.Accounted home) (hs : k.status = .idle) :
    k.setting.uncommitted = false :=
  h.settled (h.tracks_idle hs)

/-- An undoing that went out is in effect, unless its transaction failed. -/
theorem lasting_of_uncommitted (h : k.Accounted home) (hst : k.status ≠ .inError)
    (hu : k.setting.uncommitted) : k.ledger.held.lasting = home := by
  cases hs : k.status with
  | idle =>
    rw [h.setting_of_idle hs] at hu
    cases hu
  | inTransaction => exact h.undone hu hs
  | inError => exact absurd hs hst

/-- A client that is wrong about an open transaction has none. -/
theorem inTransaction_or_idle (h : k.Accounted home) (hphase : k.ledger.phase ≠ .failed) :
    k.status = .inTransaction ∨ k.ledger.phase = .idle := by
  have htracks := h.tracks
  cases hst : k.status with
  | idle => exact .inr (h.tracks_idle hst)
  | inTransaction => exact .inl rfl
  | inError =>
    rw [hst] at htracks
    rcases hp : k.ledger.phase with _ | _ | _
    · exact .inr rfl
    · exact absurd hp htracks
    · exact absurd hp hphase

/-- What variables hold once the work since the newest savepoint is undone. -/
theorem lasting_head (h : k.Accounted home) (hclean : k.setting.dirty = false) :
    (k.ledger.marks.head?.getD ⟨k.ledger.outside, none⟩).lasting = home := by
  obtain ⟨houtside, -, hmarks⟩ := h.clean hclean
  cases hm : k.ledger.marks with
  | nil => exact houtside
  | cons m marks =>
    rw [hm] at hmarks
    exact hmarks m List.mem_cons_self

/-- A failure, whatever is known of the setting by then. -/
theorem aborted (h : k.Accounted home) {s : Setting} (hdirty : s.dirty = false →
    k.setting.dirty = false) (hflagged : s.uncommitted → s.dirty)
    (hsettled : k.ledger.phase = .idle → s.uncommitted = false)
    (howed : s.sessions = 0 → s.dirty → s.pending ∨ s.uncommitted) {st : TransactionStatus}
    (htracks : st.Tracks k.ledger.phase.aborted) :
    Accounted home ⟨s, st, k.ledger.aborted⟩ := by
  refine ⟨?_, ?_, hflagged, ?_, ?_, ?_, howed⟩
  · rw [Ledger.aborted_phase]
    exact htracks
  · intro hidle
    unfold Ledger.aborted at hidle ⊢
    split
    next => exact ⟨rfl, rfl⟩
    next hp =>
      rw [if_neg hp] at hidle
      cases hidle
  · intro hs
    by_cases hp : k.ledger.phase = .idle
    · rw [h.aborted_eq hp]
      exact h.clean (hdirty hs)
    · obtain ⟨houtside, -, hmarks⟩ := h.clean (hdirty hs)
      unfold Ledger.aborted
      rw [if_neg hp]
      exact ⟨houtside, h.lasting_head (hdirty hs), hmarks⟩
  · intro _ hst
    have hst' : st = .inTransaction := hst
    rw [hst'] at htracks
    exact absurd htracks (Phase.aborted_ne_inTransaction _)
  · intro hidle
    rw [Ledger.aborted_phase] at hidle
    refine hsettled ?_
    rcases hp : k.ledger.phase with _ | _ | _ <;> rw [hp] at hidle <;> first | rfl | cases hidle

theorem failed (h : k.Accounted home) {s : Setting}
    (hs : s = k.setting ∨ s = k.setting.settled k.status.failed false) :
    Accounted home ⟨s, k.status.failed, k.ledger.aborted⟩ := by
  have hsame : s = k.setting := by
    rcases hs with hs | hs
    · exact hs
    · rw [hs]
      unfold Setting.settled
      split
      next => rfl
      next hidle =>
        have hst : k.status = .idle := by
          rcases hst : k.status with _ | _ | _
          · rfl
          · rw [hst] at hidle
            exact absurd (by decide) hidle
          · rw [hst] at hidle
            exact absurd (by decide) hidle
        exact Setting.rolledBack_of_not (h.setting_of_idle hst)
  rw [hsame]
  exact h.aborted id h.flagged h.settled h.owed h.tracks.failed

theorem passed (h : k.Accounted home) {s : Setting}
    (hs : s = k.setting ∨ s = k.setting.settled k.status true) :
    Accounted home ⟨s, k.status, k.ledger.rested⟩ := by
  have hsame : s = k.setting := by
    rcases hs with hs | hs
    · exact hs
    · rw [hs]
      by_cases hidle : k.status = .idle
      · exact Setting.settled_of_not (h.setting_of_idle hidle) _ _
      · exact if_pos hidle
  rw [hsame, h.rested_eq]
  exact h

theorem unpaid (h : k.Accounted home) (hst : k.status ≠ .inError) {isLocal something : Bool} :
    Accounted home ⟨(k.setting.setAlong isLocal something).settled k.status.failed false,
      k.status.failed, k.ledger.aborted⟩ := by
  have hflagged := Setting.setAlong_flagged h.flagged isLocal something
  have howed := Setting.setAlong_owed h.owed isLocal something
  by_cases hidle : k.status.failed = .idle
  · have hs : (k.setting.setAlong isLocal something).settled k.status.failed false =
        (k.setting.setAlong isLocal something).rolledBack := by
      unfold Setting.settled
      rw [if_neg (not_not_intro hidle)]
      rfl
    rw [hs]
    refine h.aborted ?_ ?_ (fun _ => Setting.rolledBack_uncommitted _)
      (Setting.rolledBack_owed howed) h.tracks.failed
    · intro hdirty
      rw [Setting.rolledBack_dirty] at hdirty
      exact Setting.not_dirty_of_setAlong hdirty
    · intro hu
      rw [Setting.rolledBack_uncommitted] at hu
      cases hu
  · have hs : (k.setting.setAlong isLocal something).settled k.status.failed false =
        k.setting.setAlong isLocal something := if_pos hidle
    rw [hs]
    refine h.aborted Setting.not_dirty_of_setAlong hflagged ?_ howed h.tracks.failed
    intro hp
    -- a failure that is not idle was one in a transaction
    have htracks := h.tracks
    rcases hs : k.status with _ | _ | _ <;> rw [hs] at hidle hst htracks
    · exact absurd rfl hidle
    · rw [hp] at htracks
      cases htracks
    · exact absurd rfl hst

/-- Where the dues leave a variable for good. -/
theorem lasting_heldPaid (h : k.Accounted home)
    (hclean : k.setting.pending = false → k.setting.dirty = false) :
    (k.setting.heldPaid home k.ledger.held).lasting = home := by
  unfold Setting.heldPaid
  split
  next => rfl
  next hp => exact (h.clean (hclean (by simpa using hp))).2.1

/-- Outside a transaction, dues that leave nothing marked dirty leave the variable at home. -/
theorem lasting_heldAlong (h : k.Accounted home) (hs : k.status = .idle) {isLocal : Bool}
    {v : Option Content} (hdirty : (k.setting.setAlong isLocal v.isSome).committed.dirty = false) :
    (k.setting.heldAlong home isLocal v k.ledger.held).lasting = home := by
  cases hq : (k.setting.sessions = 0 || isLocal || !v.isSome : Bool) with
  | false =>
    -- what is set for good is marked dirty
    have hset : k.setting.setAlong isLocal v.isSome =
        { k.setting.paid with dirty := true, uncommitted := false } := by
      unfold Setting.setAlong
      rw [hq]
      rfl
    rw [hset, Setting.committed_of_not rfl] at hdirty
    cases hdirty
  | true =>
    have hset : k.setting.setAlong isLocal v.isSome = k.setting.paid := if_pos hq
    rw [Setting.lasting_heldAlong hq]
    refine h.lasting_heldPaid fun hp => ?_
    have hpaid : k.setting.paid = k.setting := by
      unfold Setting.paid
      rw [hp]
      rfl
    rwa [hset, hpaid, Setting.committed_of_not (h.setting_of_idle hs)] at hdirty

/-- The dues are done in a transaction of their own, which is committed at once. -/
theorem paid_of_idle (h : k.Accounted home) (hs : k.status = .idle) {isLocal : Bool}
    {v : Option Content} :
    Accounted home ⟨(k.setting.setAlong isLocal v.isSome).committed, .idle,
      Ledger.committed
        { k.ledger with held := k.setting.heldAlong home isLocal v k.ledger.held }⟩ := by
  refine ⟨rfl, fun _ => ⟨rfl, rfl⟩, ?_, ?_, fun _ hst => (nomatch hst),
    fun _ => Setting.committed_uncommitted _,
    Setting.committed_owed (Setting.setAlong_owed h.owed _ _)⟩
  · intro hu
    rw [Setting.committed_uncommitted] at hu
    cases hu
  · intro hdirty
    have hlasting := h.lasting_heldAlong hs hdirty
    exact ⟨hlasting, hlasting, by simp [Ledger.committed]⟩

/-- In an open transaction the dues are local, and an undoing among them waits for the commit. -/
theorem paid_of_inTransaction (h : k.Accounted home) (hs : k.status = .inTransaction)
    (v : Option Content) :
    Accounted home ⟨k.setting.paid, .inTransaction,
      { k.ledger with held := k.setting.heldAlong home true v k.ledger.held }⟩ := by
  have hphase := h.tracks_inTransaction hs
  have hidle : k.ledger.phase ≠ .idle := by
    rw [hphase]
    simp
  have hlasting : (k.setting.heldAlong home true v k.ledger.held).lasting =
      (k.setting.heldPaid home k.ledger.held).lasting :=
    Setting.lasting_heldAlong (by simp) home k.ledger.held
  have hflagged := Setting.setAlong_flagged h.flagged true v.isSome
  have howed := Setting.setAlong_owed h.owed true v.isSome
  rw [Setting.setAlong_of_local] at hflagged howed
  refine ⟨hphase, fun hp => absurd hp hidle, hflagged, ?_, ?_, fun hp => absurd hp hidle, howed⟩
  · intro hdirty
    have hdirty' : k.setting.dirty = false := by
      rw [← Setting.paid_dirty]
      exact hdirty
    obtain ⟨houtside, -, hmarks⟩ := h.clean hdirty'
    exact ⟨houtside, hlasting.trans (h.lasting_heldPaid fun _ => hdirty'), hmarks⟩
  · intro hu _
    show (k.setting.heldAlong home true v k.ledger.held).lasting = home
    rw [hlasting]
    unfold Setting.heldPaid
    split
    next => rfl
    next hp =>
      -- nothing was pending, so the undoing had gone out before
      have hpaid : k.setting.paid = k.setting := if_neg hp
      refine h.undone ?_ hs
      rw [← hpaid]
      exact hu

theorem paid (h : k.Accounted home) (hst : k.status ≠ .inError) {isLocal : Bool}
    {v : Option Content} (hlocal : isLocal = false → k.status = .idle) :
    Accounted home ⟨(k.setting.setAlong isLocal v.isSome).settled k.status true, k.status,
      Ledger.rested
        { k.ledger with held := k.setting.heldAlong home isLocal v k.ledger.held }⟩ := by
  cases hs : k.status with
  | inError => exact absurd hs hst
  | idle =>
    have hrested : Ledger.rested
        { k.ledger with held := k.setting.heldAlong home isLocal v k.ledger.held } =
        Ledger.committed
          { k.ledger with held := k.setting.heldAlong home isLocal v k.ledger.held } :=
      if_pos (h.tracks_idle hs)
    rw [hrested]
    exact h.paid_of_idle hs
  | inTransaction =>
    have hloc : isLocal = true := by
      cases isLocal with
      | true => rfl
      | false =>
        rw [hlocal rfl] at hs
        cases hs
    subst hloc
    rw [Ledger.rested_of_inTransaction (h.tracks_inTransaction hs), Setting.setAlong_of_local]
    exact h.paid_of_inTransaction hs v

/-- A transaction that ended, by a commit or by a rollback. -/
theorem ended {s : Setting} {outside : Content} (hu : s.uncommitted = false)
    (hclean : s.dirty = false → outside = home)
    (howed : s.sessions = 0 → s.dirty → s.pending ∨ s.uncommitted) :
    Accounted home ⟨s, .idle, ⟨.idle, outside, ⟨outside, none⟩, []⟩⟩ := by
  refine ⟨rfl, fun _ => ⟨rfl, rfl⟩, ?_, ?_, fun _ hst => (nomatch hst), fun _ => hu, howed⟩
  · intro h
    rw [show s.uncommitted = false from hu] at h
    cases h
  · intro hdirty
    exact ⟨hclean hdirty, hclean hdirty, by simp⟩

theorem rolledBack (h : k.Accounted home) :
    Accounted home ⟨k.setting.rolledBack, .idle, k.ledger.rolledBack⟩ := by
  refine ended (Setting.rolledBack_uncommitted _) (fun hdirty => ?_) (Setting.rolledBack_owed h.owed)
  rw [Setting.rolledBack_dirty] at hdirty
  exact (h.clean hdirty).1

theorem committed (h : k.Accounted home) (hphase : k.ledger.phase ≠ .failed) :
    Accounted home ⟨if k.status = .inError then k.setting.rolledBack else k.setting.committed, .idle,
      k.ledger.committed⟩ := by
  split
  next hst =>
    -- an error that the server does not know of was one without a transaction
    have hidle : k.ledger.phase = .idle :=
      (h.inTransaction_or_idle hphase).resolve_left (by rw [hst]; simp)
    refine ended (Setting.rolledBack_uncommitted _) (fun hdirty => ?_)
      (Setting.rolledBack_owed h.owed)
    rw [Setting.rolledBack_dirty] at hdirty
    exact (h.clean hdirty).2.1
  next hst =>
    refine ended (Setting.committed_uncommitted _) (fun hdirty => ?_)
      (Setting.committed_owed h.owed)
    unfold Setting.committed at hdirty
    split at hdirty
    next hu => exact h.lasting_of_uncommitted hst hu
    next => exact (h.clean hdirty).2.1

/-- Every event but a rollback to a savepoint keeps the books accounted. -/
theorem step (h : k.Accounted home) (hstep : Step home k k') : k'.Accounted home := by
  cases hstep with
  | passed hs => exact h.passed hs
  | failed hs => exact h.failed hs
  | paid hst hlocal => exact h.paid hst hlocal
  | unpaid hst => exact h.unpaid hst
  | opened =>
    exact ⟨h.tracks, h.tidy, h.flagged, h.clean, h.undone, h.settled, fun hs => (nomatch hs)⟩
  | closed hnone =>
    refine ⟨h.tracks, h.tidy, h.flagged, h.clean, h.undone, h.settled, fun hs hdirty => ?_⟩
    rcases hnone with hsessions | ⟨-, hclean⟩
    · exact absurd hs (Nat.ne_of_gt hsessions)
    · rw [show k.setting.dirty = true from hdirty] at hclean
      cases hclean
  | queued =>
    exact ⟨h.tracks, h.tidy, h.flagged, h.clean, h.undone, h.settled, fun _ _ => .inl rfl⟩
  | began hphase =>
    refine ⟨rfl, fun hp => (nomatch hp), h.flagged, h.clean, ?_, fun hp => (nomatch hp), h.owed⟩
    intro hu _
    rcases h.inTransaction_or_idle hphase with hst | hidle
    · exact h.undone hu hst
    · rw [h.settled hidle] at hu
      cases hu
  | strayed => exact h.aborted id h.flagged h.settled h.owed (Phase.aborted_ne_inTransaction _)
  | committed hphase => exact h.committed hphase
  | rolledBack => exact h.rolledBack
  | marked hphase =>
    refine ⟨h.tracks, fun hp => ?_, h.flagged, fun hdirty => ?_, h.undone, h.settled, h.owed⟩
    · rw [show k.ledger.phase = .idle from hp] at hphase
      cases hphase
    · obtain ⟨houtside, hheld, hmarks⟩ := h.clean hdirty
      exact ⟨houtside, hheld, List.forall_mem_cons.2 ⟨hheld, hmarks⟩⟩
  | @released newer older m hphase hsplit =>
    refine ⟨h.tracks, fun hp => ?_, h.flagged, fun hdirty => ?_, h.undone, h.settled, h.owed⟩
    · rw [show k.ledger.phase = .idle from hp] at hphase
      cases hphase
    · obtain ⟨houtside, hheld, hmarks⟩ := h.clean hdirty
      refine ⟨houtside, hheld, fun n hn => hmarks n ?_⟩
      rw [hsplit]
      exact List.mem_append_right _ (List.mem_cons_of_mem _ hn)

/-- A rollback to a savepoint keeps the books accounted. -/
theorem returned (h : k.Accounted home) (hreturned : Returned k k') : k'.Accounted home := by
  obtain ⟨hsplit⟩ := hreturned
  rename_i newer older m
  refine ⟨rfl, fun hp => (nomatch hp), ?_, ?_, ?_, fun hp => (nomatch hp),
    Setting.rolledBack_owed h.owed⟩
  · intro hu
    rw [Setting.rolledBack_uncommitted] at hu
    cases hu
  · intro hdirty
    rw [Setting.rolledBack_dirty] at hdirty
    obtain ⟨houtside, -, hmarks⟩ := h.clean hdirty
    rw [hsplit] at hmarks
    have hback : ∀ n ∈ m :: older, n.lasting = home := fun n hn =>
      hmarks n (List.mem_append_right _ hn)
    exact ⟨houtside, hback m List.mem_cons_self, hback⟩
  · intro hu
    rw [Setting.rolledBack_uncommitted] at hu
    cases hu

end Accounted

/-! ## What is set for the transaction only -/

/-- Dues that are done in a transaction set nothing that nobody needs. -/
theorem Quiet.passing_of_paid (h : k.Quiet home) (hk : k.Accounted home)
    (hs : k.status = .inTransaction) {isLocal : Bool} {v : Option Content}
    (hsessions : ((k.setting.setAlong isLocal v.isSome).settled k.status true).sessions = 0) :
    (Ledger.rested { k.ledger with
      held := k.setting.heldAlong home isLocal v k.ledger.held }).held.passing.getD home = home := by
  have hsettled : (k.setting.setAlong isLocal v.isSome).settled k.status true =
      k.setting.setAlong isLocal v.isSome := if_pos (by rw [hs]; simp)
  have hneeded : k.setting.sessions = 0 := by
    rwa [hsettled, Setting.setAlong_sessions] at hsessions
  have hheld : k.setting.heldAlong home isLocal v k.ledger.held =
      k.setting.heldPaid home k.ledger.held := by
    unfold Setting.heldAlong
    cases v with
    | none => rfl
    | some v => exact if_pos hneeded
  rw [Ledger.rested_of_inTransaction (hk.tracks_inTransaction hs)]
  show (k.setting.heldAlong home isLocal v k.ledger.held).passing.getD home = home
  rw [hheld]
  unfold Setting.heldPaid
  split
  next => rfl
  next hp => exact h hneeded (by simpa using hp) hs

/-- Every event but a rollback to a savepoint keeps the books quiet. -/
theorem Quiet.step (h : k.Quiet home) (hk : k.Accounted home) (hstep : Step home k k') :
    k'.Quiet home := by
  have haborted : ∀ {s : Setting} {st : TransactionStatus}, st ≠ .inTransaction →
      Quiet home ⟨s, st, k.ledger.aborted⟩ := fun hst _ _ hin => absurd hin hst
  have hfailed : k.status.failed ≠ .inTransaction := by
    cases k.status <;> simp [TransactionStatus.failed]
  cases hstep with
  | @passed s hs =>
    intro hsessions hpending hst
    have hsame : s = k.setting := by
      rcases hs with hs | hs
      · exact hs
      · rw [hs]
        refine if_pos ?_
        rw [show k.status = .inTransaction from hst]
        simp
    subst hsame
    show k.ledger.rested.held.passing.getD home = home
    rw [hk.rested_eq]
    exact h hsessions hpending hst
  | failed => exact haborted hfailed
  | @paid isLocal v hst hlocal =>
    intro hsessions _ hin
    exact h.passing_of_paid hk hin hsessions
  | unpaid => exact haborted hfailed
  | opened => exact fun hs => (nomatch hs)
  | closed hnone =>
    intro hsessions _ hin
    rcases hnone with hleft | ⟨hidle, -⟩
    · exact absurd hsessions (Nat.ne_of_gt hleft)
    · rw [show k.status = .inTransaction from hin] at hidle
      cases hidle
  | queued => exact fun _ hp => (nomatch hp)
  | began hphase =>
    intro hsessions hpending _
    rcases hk.inTransaction_or_idle hphase with hst | hidle
    · exact h hsessions hpending hst
    · show k.ledger.held.passing.getD home = home
      rw [(hk.tidy hidle).1]
      rfl
  | strayed => exact haborted (by simp)
  | committed | rolledBack => exact fun _ _ hin => (nomatch hin)
  | marked => exact h
  | released => exact h

/-! ## Any number of events -/

theorem Accounted.steps (h : k.Accounted home) (hsteps : Relation.ReflTransGen (Step home) k k') :
    k'.Accounted home := by
  induction hsteps with
  | refl => exact h
  | tail _ hstep ih => exact ih.step hstep

theorem Quiet.steps (h : k.Quiet home) (hk : k.Accounted home)
    (hsteps : Relation.ReflTransGen (Step home) k k') : k'.Quiet home := by
  induction hsteps with
  | refl => exact h
  | tail hsteps hstep ih => exact ih.step (hk.steps hsteps) hstep

/-! ## What the next statement finds -/

/-- Where nobody needs a variable, the next statement finds it at home, unless a `SET LOCAL` of
something else is left that no undoing is pending for. -/
theorem Accounted.value_heldPaid (h : k.Accounted home) (hst : k.status ≠ .inError)
    (hsessions : k.setting.sessions = 0) :
    (k.setting.heldPaid home k.ledger.held).value =
      if k.setting.pending then home else k.ledger.held.passing.getD home := by
  unfold Setting.heldPaid
  split
  next => rfl
  next hp =>
    have hlasting : k.ledger.held.lasting = home := by
      cases hdirty : k.setting.dirty with
      | false => exact (h.clean hdirty).2.1
      | true =>
        have hu : k.setting.uncommitted = true := (h.owed hsessions hdirty).resolve_left hp
        exact h.lasting_of_uncommitted hst hu
    unfold Held.value
    rw [hlasting]

end Books

end DeclaredTriggers
