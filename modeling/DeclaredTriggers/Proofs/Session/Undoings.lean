import DeclaredTriggers.Proofs.Session.Composed
import DeclaredTriggers.Proofs.Session.Groups
import DeclaredTriggers.Proofs.Session.Orderly

/-!
# What a client owes its connection

The flags of a setting say what still has to be undone. This file says that they never lose an undoing
and never make one up, against every server: nothing is assumed about which requests are done, and the
server may hang up at any time.

`Session.Sound` is the invariant. A variable that nobody needs and that was set for good has its undoing
pending, or it went out in a transaction that is still open; and where no transaction is open, none has
gone out that way. One lemma for each way to change a session keeps it, and so does every move:

> `Sound.goes`: whatever comes of a move, a sound session stays sound.

The two ends follow. The next statement that is done outside a transaction pays what is pending
(`Sound.paid`), and a session that owes nothing sends statements as they are and goes on owing nothing
(`Clear.goes`).
-/

namespace DeclaredTriggers

open Act (result)
open Sql (Control)

/-! ## Settings -/

namespace Setting

/-- No undoing of a setting is lost, and none is made up. -/
structure Sound (s : Setting) : Prop where
  /-- Only what was set for good needs undoing. -/
  flagged : s.uncommitted → s.dirty
  /-- What nobody needs any longer is undone, or will be. -/
  owed : s.sessions = 0 → s.dirty → s.pending ∨ s.uncommitted

theorem sound_default : Sound {} := ⟨fun h => (nomatch h), fun _ h => (nomatch h)⟩

namespace Sound

variable {s : Setting}

theorem setAlong (h : s.Sound) (isLocal something : Bool) : (s.setAlong isLocal something).Sound :=
  ⟨setAlong_flagged h.flagged isLocal something, setAlong_owed h.owed isLocal something⟩

theorem committed (h : s.Sound) : s.committed.Sound := by
  refine ⟨fun hu => ?_, committed_owed h.owed⟩
  rw [committed_uncommitted] at hu
  cases hu

theorem rolledBack (h : s.Sound) : s.rolledBack.Sound := by
  refine ⟨fun hu => ?_, rolledBack_owed h.owed⟩
  rw [rolledBack_uncommitted] at hu
  cases hu

theorem opened (h : s.Sound) : s.opened.Sound := ⟨h.flagged, fun hs => (nomatch hs)⟩

/-- Where nobody needs the variable and nothing is set or pending, nothing is under way either. -/
theorem eq_default (h : s.Sound) (hsessions : s.sessions = 0) (hdirty : s.dirty = false)
    (hpending : s.pending = false) : s = {} := by
  have hflagged := h.flagged
  rcases s with ⟨sessions, dirty, pending, uncommitted⟩
  simp only at hsessions hdirty hpending hflagged
  subst hsessions hdirty hpending
  cases uncommitted with
  | true => cases hflagged rfl
  | false => rfl

/-- However a session is closed, its undoing is given, kept or queued. -/
theorem close (h : s.Sound) {undo : Option String} (hundo : undo = none → s = {})
    (idle canSend : Bool) : (s.close idle canSend undo).2.Sound := by
  cases undo with
  | none =>
    rw [hundo rfl]
    exact sound_default
  | some undo =>
    rcases s.close_some idle canSend undo with ⟨hclose, hnone⟩ | ⟨hclose, -⟩ | hclose
    · rw [hclose]
      refine ⟨h.flagged, fun hs hdirty => ?_⟩
      rcases hnone with hleft | ⟨-, hclean⟩
      · exact absurd hs (Nat.ne_of_gt hleft)
      · rw [show s.dirty = true from hdirty] at hclean
        cases hclean
    · rw [hclose]
      refine ⟨fun hu => ?_, fun _ hdirty => .inr (Bool.or_eq_true_iff.2 (.inr hdirty))⟩
      exact (Bool.or_eq_true_iff.1 hu).elim h.flagged id
    · rw [hclose]
      exact ⟨h.flagged, fun _ _ => .inl rfl⟩

end Sound

/-- An undoing that is only counted or queued is not under way. -/
theorem close_none_uncommitted {s : Setting} {idle canSend : Bool} (undo : Option String)
    (h : (s.close idle canSend undo).1 = none) :
    (s.close idle canSend undo).2.uncommitted = s.uncommitted := by
  cases undo with
  | none => rfl
  | some undo =>
    rcases s.close_some idle canSend undo with ⟨hclose, -⟩ | ⟨hclose, -⟩ | hclose
    · rw [hclose]
    · rw [hclose] at h
      cases h
    · rw [hclose]

/-- What is pending where nobody needs the variable is paid by a request that is kept at once. -/
theorem committed_paid {s : Setting} (h : s.Sound) (hsessions : s.sessions = 0)
    (hu : s.uncommitted = false) : s.paid.committed = {} := by
  have howed := h.owed hsessions
  rcases s with ⟨sessions, dirty, pending, uncommitted⟩
  simp only at hsessions hu howed
  subst hsessions hu
  cases dirty <;> cases pending <;> simp_all [paid, resetSent, committed]

end Setting

/-! ## Sessions -/

namespace Session

section

variable {P : Session → Prop} (hcommitted : ∀ s : Session, P s → P s.committed)
  (hrolledBack : ∀ s : Session, P s → P s.rolledBack)

include hcommitted hrolledBack

/-- What commits and rollbacks keep, a request that is settled keeps. -/
theorem settle_keeps {s : Session} (h : P s) (ok : Bool) : P (s.settle ok) := by
  unfold settle
  split
  next => exact h
  next =>
    split
    next => exact hcommitted s h
    next => exact hrolledBack s h

/-- What they keep whatever is known of the transaction, a request that is tracked keeps. -/
theorem track_keeps (hstatus : ∀ (s : Session) (status : TransactionStatus), P s →
    P { s with status }) {s : Session} (h : P s) (sql : String) (ok : Bool) : P (s.track sql ok) := by
  have hcontrol : ∀ (s : Session) (c : Control), P s → P (s.afterControl c) := by
    intro s c h
    cases c with
    | opens => exact hstatus _ _ h
    | commit =>
      refine hstatus (if s.status = .inError then s.rolledBack else s.committed) _ ?_
      split
      next => exact hrolledBack s h
      next => exact hcommitted s h
    | rollback | rollbackTo => exact hstatus _ _ (hrolledBack s h)
    | savepoint | release => exact h
  cases ok with
  | true =>
    rw [track_true]
    induction controlsOf sql generalizing s with
    | nil => exact h
    | cons c cs ih => exact ih (hcontrol s c h)
  | false =>
    rw [track_false]
    unfold afterFailure
    split
    next => exact hstatus _ _ (hrolledBack s h)
    next => split <;> exact hstatus _ _ h

end

/-- Where there is nothing to pay and nothing to tell, a preamble changes nothing. -/
theorem preamble_of_nothing_due {s : Session} {o : Overrides}
    (h : ∀ x, (s.setting x).pending = false ∧ ((s.setting x).sessions = 0 ∨ o.speaksOf x = false))
    {statement : String} {inBatch : Bool} : (s.preamble o statement inBatch).2 = s := by
  have hset : ∀ x isLocal, (s.setting x).setAlong isLocal (o.speaksOf x) = s.setting x :=
    fun x _ => Setting.setAlong_of_nothing (h x).1 (h x).2
  rw [preamble_session]
  split
  next => rfl
  next =>
    show { s with
      ignore := (s.setting .ignore).setAlong _ (o.speaksOf .ignore)
      path := (s.setting .path).setAlong _ (o.speaksOf .path) } = s
    rw [hset, hset]
    rfl

/-- Where no transaction is open, no undoing has gone out that could be lost. -/
def Settled (s : Session) : Prop := s.status = .idle → ∀ x, (s.setting x).uncommitted = false

/-- No undoing is lost, and none is made up; and the search path is not touched before it is known what
it was. -/
structure Sound (s : Session) : Prop where
  setting : ∀ x, (s.setting x).Sound
  known : s.initialPath = none → s.path = {}

theorem sound_default (status : TransactionStatus) : Sound { status } :=
  ⟨fun x => by cases x <;> exact Setting.sound_default, fun _ => rfl⟩

theorem settled_default (status : TransactionStatus) : Settled { status } :=
  fun _ x => by cases x <;> rfl

namespace Sound

variable {s : Session} {o : Overrides}

theorem committed (h : s.Sound) : s.committed.Sound := by
  refine ⟨fun x => ?_, fun hnone => ?_⟩
  · rw [setting_committed]
    exact (h.setting x).committed
  · show s.path.committed = {}
    rw [h.known hnone]
    rfl

theorem rolledBack (h : s.Sound) : s.rolledBack.Sound := by
  refine ⟨fun x => ?_, fun hnone => ?_⟩
  · rw [setting_rolledBack]
    exact (h.setting x).rolledBack
  · show s.path.rolledBack = {}
    rw [h.known hnone]
    rfl

/-- What is known of the transaction does not matter. -/
theorem of_status (h : s.Sound) (status : TransactionStatus) : Sound { s with status } :=
  ⟨fun x => by rw [setting_status]; exact h.setting x, h.known⟩

theorem settle (h : s.Sound) (ok : Bool) : (s.settle ok).Sound :=
  settle_keeps (fun _ h => h.committed) (fun _ h => h.rolledBack) h ok

theorem track (h : s.Sound) (sql : String) (ok : Bool) : (s.track sql ok).Sound :=
  track_keeps (fun _ h => h.committed) (fun _ h => h.rolledBack) (fun _ st h => h.of_status st) h sql
    ok

theorem preamble (h : s.Sound) (o : Overrides) (statement : String) (inBatch : Bool) :
    (s.preamble o statement inBatch).2.Sound := by
  rw [preamble_session]
  split
  next => exact h
  next =>
    refine ⟨fun x => ?_, fun hnone => ?_⟩
    · cases x with
      | ignore => exact (h.setting .ignore).setAlong _ _
      | path => exact (h.setting .path).setAlong _ _
    · have hpath : s.path = {} := h.known hnone
      show s.path.setAlong _ _ = {}
      rw [hpath, Setting.setAlong_of_unneeded rfl]
      rfl

theorem withPreamble (h : s.Sound) (o : Overrides) (sql : String) :
    (s.withPreamble o sql).2.Sound := by
  have hplaced := placed_withPreamble s o sql
  generalize s.withPreamble o sql = sent at hplaced ⊢
  cases hplaced with
  | first | second => exact h.preamble o _ true
  | nowhere => exact h

theorem closeIgnore (h : s.Sound) (queueOnly : Bool) : (s.closeIgnore queueOnly).2.Sound := by
  refine ⟨fun x => ?_, h.known⟩
  cases x with
  | ignore =>
    have hundo : some resetIgnoreSql = none → s.ignore = {} := fun hnone => (nomatch hnone)
    exact (h.setting .ignore).close hundo _ _
  | path => exact h.setting .path

theorem closePath (h : s.Sound) (queueOnly : Bool) : (s.closePath queueOnly).2.Sound := by
  have hknown : s.undoPath? = none → s.path = {} :=
    fun hnone => h.known (Option.map_eq_none_iff.1 hnone)
  refine ⟨fun x => ?_, fun hnone => ?_⟩
  · cases x with
    | ignore => exact h.setting .ignore
    | path => exact (h.setting .path).close hknown _ _
  · have hundo : s.undoPath? = none := Option.map_eq_none_iff.2 hnone
    show (s.path.close _ _ s.undoPath?).2 = {}
    rw [hundo, h.known hnone]
    rfl

end Sound

namespace Settled

variable {s : Session}

/-- Outside a transaction everything is kept or rolled back at once. -/
theorem settle (s : Session) (ok : Bool) : (s.settle ok).Settled := by
  intro hidle x
  rw [settle_status] at hidle
  unfold Session.settle
  rw [if_neg (not_not_intro hidle)]
  cases ok with
  | true =>
    rw [if_pos rfl, setting_committed]
    exact Setting.committed_uncommitted _
  | false =>
    rw [if_neg (by simp), setting_rolledBack]
    exact Setting.rolledBack_uncommitted _

theorem of_uncommitted {s s' : Session} (h : s.Settled) (hstatus : s'.status = s.status)
    (hu : ∀ x, (s'.setting x).uncommitted = (s.setting x).uncommitted) : s'.Settled := by
  intro hidle x
  rw [hu]
  exact h (hstatus ▸ hidle) x

theorem rolledBack (s : Session) (status : TransactionStatus) :
    Settled { s.rolledBack with status } := by
  intro _ x
  cases x <;> exact Setting.rolledBack_uncommitted _

theorem afterControl (h : s.Settled) (c : Control) : (s.afterControl c).Settled := by
  cases c with
  | opens => exact fun hidle => (nomatch hidle)
  | commit =>
    intro _ x
    show ((if s.status = .inError then s.rolledBack else s.committed).setting x).uncommitted = false
    split
    next => rw [setting_rolledBack, Setting.rolledBack_uncommitted]
    next => rw [setting_committed, Setting.committed_uncommitted]
  | rollback | rollbackTo => exact .rolledBack s _
  | savepoint | release => exact h

theorem track (h : s.Settled) (sql : String) (ok : Bool) : (s.track sql ok).Settled := by
  cases ok with
  | true =>
    rw [track_true]
    induction controlsOf sql generalizing s with
    | nil => exact h
    | cons c cs ih => exact ih (h.afterControl c)
  | false =>
    rw [track_false]
    unfold afterFailure
    split
    next => exact .rolledBack s _
    next =>
      split
      next => exact fun hidle => (nomatch hidle)
      next hquiet =>
        simp only [ne_eq, Bool.or_eq_true, decide_eq_true_eq, not_or, Classical.not_not,
          Bool.not_eq_true] at hquiet
        intro _ x
        rw [setting_status]
        exact h hquiet.1 x

end Settled

/-! ## Moves -/

namespace Sound

variable {s s' : Session} {o : Overrides} {m : Move} {reqs : List Request} {ok : Bool}

/-- A preamble without a text changes nothing. -/
theorem preamble_eq_of_empty (h : s.Sound) {statement : String} {inBatch : Bool}
    (hempty : (s.preamble o statement inBatch).1 = "") : (s.preamble o statement inBatch).2 = s := by
  cases hback : s.holdsBack statement with
  | true => rw [preamble_of_holdsBack hback]
  | false => exact preamble_of_nothing_due fun _ => nothing_due (fun _ => h.known) hback hempty

/-- What is sent on its own leaves a sound session sound, and settles it. -/
theorem owns (h : s.Sound) {undo : Option String} (hsettled : undo = none → s.Settled)
    (howns : s.Owns undo reqs ok s') : s'.Sound ∧ s'.Settled := by
  cases howns with
  | nothing => exact ⟨h, hsettled rfl⟩
  | done sql => exact ⟨h.settle true, .settle s true⟩
  | failed sql => exact ⟨(h.track "" false).settle false, .settle _ false⟩

theorem lead (h : s.Sound) (o : Overrides) (sql : String) : (s.lead o sql).2.Sound := by
  unfold Session.lead
  split
  next => exact h.preamble o sql false
  next => exact h

/-- Where nothing leads a statement, nothing changes in front of it. -/
theorem lead_eq_of_none (h : s.Sound) {sql : String} (hnone : (s.lead o sql).1 = none) :
    (s.lead o sql).2 = s := by
  unfold Session.lead at hnone ⊢
  split at hnone
  next hcontrol =>
    rw [if_pos hcontrol]
    refine h.preamble_eq_of_empty ?_
    by_cases htext : (s.preamble o sql false).1 = ""
    · exact htext
    · exact absurd (show (if _ then _ else _ : Option String) = none from hnone) (by simp [htext])
  next hcontrol => rw [if_neg hcontrol]

/-- Whatever comes of a move, a sound session stays sound. -/
theorem goes (h : s.Sound) (hsettled : s.Settled) (hgoes : s.Goes o m reqs ok s') :
    s'.Sound ∧ s'.Settled := by
  -- what has nothing to send in front has changed nothing there
  have hled : ∀ sql, (s.lead o sql).1 = none → (s.lead o sql).2.Settled := by
    intro sql hnone
    rw [h.lead_eq_of_none hnone]
    exact hsettled
  cases hgoes with
  | batch sql => exact ⟨((h.withPreamble o sql).track sql ok).settle ok, .settle _ ok⟩
  | prepared _ howns =>
    obtain ⟨hsound, hsettled'⟩ := (h.lead o _).owns (hled _) howns
    exact ⟨hsound.track _ _, hsettled'.track _ _⟩
  | unled howns => exact (h.lead o _).owns (hled _) howns
  | openIgnore =>
    refine ⟨⟨fun x => ?_, h.known⟩, hsettled.of_uncommitted rfl fun x => by cases x <;> rfl⟩
    cases x with
    | ignore => exact (h.setting .ignore).opened
    | path => exact h.setting .path
  | @closeIgnore queueOnly _ _ _ howns =>
    refine (h.closeIgnore queueOnly).owns (fun hnone => ?_) howns
    refine hsettled.of_uncommitted rfl fun x => ?_
    cases x with
    | ignore =>
      exact Setting.close_none_uncommitted (some resetIgnoreSql) hnone
    | path => rfl
  | captured path =>
    refine ⟨⟨fun x => ?_, fun hnone => (nomatch hnone)⟩,
      hsettled.of_uncommitted rfl fun x => by cases x <;> rfl⟩
    cases x with
    | ignore => exact h.setting .ignore
    | path => exact (h.setting .path).opened
  | uncaptured => exact ⟨h, hsettled⟩
  | openPath hmore =>
    refine ⟨⟨fun x => ?_, fun hnone => ?_⟩,
      hsettled.of_uncommitted rfl fun x => by cases x <;> rfl⟩
    · cases x with
      | ignore => exact h.setting .ignore
      | path => exact (h.setting .path).opened
    · exact absurd (congrArg Setting.sessions (h.known hnone)) hmore
  | @closePath queueOnly _ _ _ howns =>
    refine (h.closePath queueOnly).owns (fun hnone => ?_) howns
    refine hsettled.of_uncommitted rfl fun x => ?_
    cases x with
    | ignore => rfl
    | path => exact Setting.close_none_uncommitted s.undoPath? hnone
  | rest => exact ⟨h, hsettled⟩

end Sound

/-! ## What is paid -/

/-- A preamble that is done outside a transaction leaves nothing owed on what nobody needs. -/
theorem Sound.setting_settle_preamble {s : Session} (h : s.Sound) (hsettled : s.Settled)
    (hidle : s.status = .idle) {statement : String} (hback : s.holdsBack statement = false)
    {x : Variable} (hsessions : (s.setting x).sessions = 0) (o : Overrides) (inBatch : Bool) :
    ((s.preamble o statement inBatch).2.settle true).setting x = {} := by
  have hstatus := (preamble_status s o statement inBatch).1
  have hpaid := setting_preamble hback o inBatch x
  rw [Setting.setAlong_of_unneeded hsessions] at hpaid
  unfold Session.settle
  rw [hstatus, if_neg (not_not_intro hidle), if_pos rfl, setting_committed, hpaid]
  exact Setting.committed_paid (h.setting x) hsessions (hsettled hidle x)

/-- The next ordinary statement that is done outside a transaction leaves nothing owed on what nobody
needs. -/
theorem Sound.paid {s s' : Session} {o : Overrides} {m : Move} {reqs : List Request} {sql : String}
    (h : s.Sound) (hsettled : s.Settled) (hidle : s.status = .idle) {x : Variable}
    (hsessions : (s.setting x).sessions = 0) (hcovered : m.covered? = some ([], sql))
    (hsql : ∀ st ∈ Sql.statements sql.toList, Control.ofStatement? st = none)
    (hconcurrent : Sql.isConcurrent sql.toList = false) (hgoes : s.Goes o m reqs true s') :
    s'.setting x = {} := by
  have hback : s.holdsBack sql = false := holdsBack_eq_false (by simp [hidle]) hconcurrent
  cases hgoes with
  | batch text =>
    rcases cases_of_covered hcovered with ⟨hnone, -, rfl⟩ | ⟨_, _, _, _, -, -, -, -, -, -, hpre, -⟩
    · rw [withPreamble_of_ordinary hnone, track_of_ordinary hsql, if_pos rfl]
      exact h.setting_settle_preamble hsettled hidle hback hsessions o true
    · cases hpre
  | prepared _ howns =>
    obtain ⟨hcontrol, -, rfl⟩ := Move.covered?_prepared hcovered
    rw [track_of_ordinary hsql, if_pos rfl]
    have hlead : s.lead o sql = (if (s.preamble o sql false).1 ≠ "" then
        some (s.preamble o sql false).1 else none, (s.preamble o sql false).2) := by
      unfold Session.lead
      rw [hcontrol]
      rfl
    rw [hlead] at howns
    by_cases htext : (s.preamble o sql false).1 = ""
    · -- an empty preamble pays nothing, so nothing was pending
      rw [if_neg (not_not_intro htext), h.preamble_eq_of_empty htext] at howns
      cases howns
      have hpaid := Setting.committed_paid (h.setting x) hsessions (hsettled hidle x)
      unfold Setting.paid at hpaid
      rwa [(nothing_due (fun _ => h.known) hback htext).1, if_neg (by simp),
        Setting.committed_of_not (hsettled hidle x)] at hpaid
    · rw [if_pos htext] at howns
      cases howns
      exact h.setting_settle_preamble hsettled hidle hback hsessions o false
  | openIgnore | captured | openPath | closeIgnore | closePath | rest => cases hcovered

/-! ## Where nothing is owed -/

/-- Nobody needs a variable, and nothing is known to be set or owed. -/
def Clear (s : Session) : Prop := ∀ x, s.setting x = {}

namespace Clear

variable {s s' : Session} {o : Overrides}

theorem committed (h : s.Clear) : s.committed.Clear := by
  intro x
  rw [setting_committed, h x]
  rfl

theorem rolledBack (h : s.Clear) : s.rolledBack.Clear := by
  intro x
  rw [setting_rolledBack, h x]
  rfl

theorem of_status (h : s.Clear) (status : TransactionStatus) : Clear { s with status } := by
  intro x
  rw [setting_status]
  exact h x

theorem settle (h : s.Clear) (ok : Bool) : (s.settle ok).Clear :=
  settle_keeps (fun _ h => h.committed) (fun _ h => h.rolledBack) h ok

theorem track (h : s.Clear) (sql : String) (ok : Bool) : (s.track sql ok).Clear :=
  track_keeps (fun _ h => h.committed) (fun _ h => h.rolledBack) (fun _ st h => h.of_status st) h sql
    ok

theorem preamble (h : s.Clear) (o : Overrides) (statement : String) (inBatch : Bool) :
    s.preamble o statement inBatch = ("", s) := by
  cases hback : s.holdsBack statement with
  | true => exact preamble_of_holdsBack hback o inBatch
  | false =>
    have htext := preamble_text hback o inBatch
    rw [show s.ignore = {} from h .ignore, show s.path = {} from h .path] at htext
    refine Prod.ext htext (preamble_of_nothing_due fun x => ?_)
    rw [h x]
    exact ⟨rfl, .inl rfl⟩

/-- Then a batch is sent as it is. -/
theorem withPreamble (h : s.Clear) (o : Overrides) (sql : String) :
    s.withPreamble o sql = (sql, s) := by
  have hplaced := placed_withPreamble s o sql
  generalize s.withPreamble o sql = sent at hplaced ⊢
  cases hplaced with
  | first => rw [h.preamble, String.empty_append]
  | @second c head rest _ _ hsplit _ =>
    rw [h.preamble, String.append_empty, ← String.ofList_append, Sql.append_of_split hsplit,
      String.ofList_toList]
  | nowhere => rfl

/-- Nothing leads a statement with parameters. -/
theorem lead (h : s.Clear) (o : Overrides) (sql : String) : s.lead o sql = (none, s) := by
  unfold Session.lead
  rw [h.preamble]
  split <;> rfl

/-- A session that owes nothing sends a statement as it is, and goes on owing nothing. -/
theorem goes (h : s.Clear) {m : Move} {q : Request} (hrequest : m.request? = some q)
    {reqs : List Request} {ok : Bool} (hgoes : s.Goes o m reqs ok s') : reqs = [q] ∧ s'.Clear := by
  cases hgoes with
  | batch sql =>
    cases hrequest
    rw [h.withPreamble]
    exact ⟨rfl, (h.track sql ok).settle ok⟩
  | prepared _ howns =>
    cases hrequest
    rw [h.lead] at howns
    cases howns
    exact ⟨rfl, h.track _ ok⟩
  | unled howns =>
    rw [h.lead] at howns
    cases howns
  | openIgnore | closeIgnore | captured | uncaptured | openPath | closePath | rest => cases hrequest

end Clear

end Session

/-! ## Runs -/

/-- A call that opens no scope or session, and closes none. -/
def Call.IsStatement : Call → Prop
  | .batch _ | .query .. | .execute .. | .elsewhere _ => True
  | .ignore .. | .releaseIgnore _ | .dropIgnore _ | .search _ | .releaseSchema _ | .dropSchema _
  | .joinIgnore | .leaveIgnore _ | .joinPath | .leavePath _ => False

namespace Client

variable {σ : Type} [Server σ] {c : Client σ}

omit [Server σ] in
/-- A statement that hooks refuse sends nothing, and every other is a request. -/
theorem request_or_rest {call : Call} (h : call.IsStatement) :
    (∃ q, (c.move call).request? = some q) ∨ c.move call = .rest := by
  have helim : ∀ (left : Option String) (m : String → Move), (∀ x, ∃ q, (m x).request? = some q) →
      (∃ q, (left.elim .rest m).request? = some q) ∨ left.elim .rest m = .rest := by
    intro left m hm
    cases left with
    | none => exact .inr rfl
    | some x => exact .inl (hm x)
  cases call with
  | batch sql => exact helim (c.left sql 0) .batch fun x => ⟨_, rfl⟩
  | query sql params | execute sql params =>
    exact helim (c.left sql params.length) (.prepared · params) fun x => ⟨_, rfl⟩
  | elsewhere => exact .inr rfl
  | ignore | releaseIgnore | dropIgnore | search | releaseSchema | dropSchema | joinIgnore
  | leaveIgnore | joinPath | leavePath => cases h

theorem sound_after (h : c.session.Sound ∧ c.session.Settled) (call : Call) :
    (c.after call).session.Sound ∧ (c.after call).session.Settled := by
  obtain ⟨reqs, ok, hgoes⟩ := c.goes_after call
  exact h.1.goes h.2 hgoes.session

omit [Server σ] in
theorem Fresh.sound (h : c.Fresh) : c.session.Sound ∧ c.session.Settled := by
  rcases h.session with hs | hs
  · rw [hs]
    exact ⟨Session.sound_default .idle, Session.settled_default .idle⟩
  · rw [hs]
    exact ⟨Session.sound_default .inTransaction, Session.settled_default .inTransaction⟩

theorem clear_after (h : c.session.Clear) {call : Call} (hcall : call.IsStatement) :
    (c.after call).session.Clear := by
  obtain ⟨reqs, ok, hgoes⟩ := c.goes_after call
  have hsession := hgoes.session
  rcases c.request_or_rest hcall with ⟨q, hq⟩ | hrest
  · exact (h.goes hq hsession).2
  · generalize (c.after call).session = s' at hsession ⊢
    rw [hrest] at hsession
    cases hsession
    exact h

/-- A client that owes nothing sends a statement as its hooks left it, and nothing else. -/
theorem sent_of_clear (h : c.session.Clear) (hopen : c.wire.isOpen) {call : Call} {q : Request}
    (hq : (c.move call).request? = some q) :
    (c.after call).journal.sent = c.journal.sent ++ [(c.wire.number, q)] := by
  obtain ⟨reqs, ok, hgoes⟩ := c.goes_after call
  rw [hgoes.sent.sent, if_pos hopen, (h.goes hq hgoes.session).1]
  rfl

/-- It gives its connection back without another word. -/
theorem handOver_of_clear (h : c.session.Clear) : result handOver c = (.ok (), c) := by
  have howed : c.session.owed = "" := by
    unfold Session.owed
    rw [show c.session.ignore = {} from h .ignore, show c.session.path = {} from h .path]
    rfl
  unfold handOver
  rw [Act.result_bind_ok (Act.result_get c), howed]
  rfl

/-- What is done outside a transaction pays what is pending. -/
theorem setting_after_paid (h : c.session.Sound ∧ c.session.Settled) (hidle : c.session.status = .idle)
    {x : Variable} (hsessions : (c.session.setting x).sessions = 0) {call : Call} {sql : String}
    (hcovered : (c.move call).covered? = some ([], sql))
    (hsql : ∀ st ∈ Sql.statements sql.toList, Control.ofStatement? st = none)
    (hconcurrent : Sql.isConcurrent sql.toList = false) (hok : (result call.act c).1.toBool) :
    (c.after call).session.setting x = {} := by
  obtain ⟨reqs, ok, hgoes⟩ := c.goes_after call
  have hdone : ok = true := by
    rw [← hgoes.succeeds]
    cases hr : (result call.act c).1 with
    | ok => rfl
    | error e =>
      rw [hr] at hok
      cases hok
  subst hdone
  exact h.1.paid h.2 hidle hsessions hcovered hsql hconcurrent hgoes.session

end Client

namespace Group

variable {σ : Type} [Server σ] {n : Nat} {g : Group σ n} {i : Fin n}

theorem sound_run {status : TransactionStatus} (hstart : (g.client i).session = { status })
    (steps : List (Fin n × Call)) : ((g.run steps).client i).session.Sound ∧
      ((g.run steps).client i).session.Settled := by
  refine client_run_keeps (I := fun c => c.session.Sound ∧ c.session.Settled) (P := fun _ _ => True)
    (fun c call h _ => Client.sound_after h call) (fun c change h => Client.sound_after h _)
    (fun _ _ h => h) ?_ (along_of_forall (P := fun step => step.1 = i → True)
      (fun _ _ _ => trivial) g)
  rw [hstart]
  exact ⟨Session.sound_default status, Session.settled_default status⟩

theorem clear_run (h : (g.client i).session.Clear) {steps : List (Fin n × Call)}
    (hsteps : ∀ step ∈ steps, step.1 = i → step.2.IsStatement) :
    ((g.run steps).client i).session.Clear :=
  client_run_keeps (I := fun c => c.session.Clear) (P := fun _ call => call.IsStatement)
    (fun _ _ h hcall => Client.clear_after h hcall) (fun _ _ h => Client.clear_after h trivial)
    (fun _ _ h => h) h (along_of_forall (P := fun step => step.1 = i → step.2.IsStatement) hsteps g)

/-- After every run of a group, whatever its servers do: what a client has set for good and nobody needs
on it is pending or went out in a transaction that is still open; outside a transaction it is pending, and
the next ordinary statement that is done there pays it; and where nobody needs anything, nothing is set
and nothing is pending, the client sends each statement as its hooks left it and gives its connection back
without another word, until a scope or session is opened on it, whatever the others do. -/
theorem undoings_kept {status : TransactionStatus} (hstart : (g.client i).session = { status })
    (steps : List (Fin n × Call)) :
    let c := (g.run steps).client i
    (∀ x, (c.session.setting x).sessions = 0 → (c.session.setting x).dirty →
        (c.session.setting x).pending ∨ (c.session.setting x).uncommitted) ∧
      (c.session.status = .idle → ∀ x, (c.session.setting x).sessions = 0 →
        ((c.session.setting x).dirty → (c.session.setting x).pending) ∧
          ∀ call sql, (c.move call).covered? = some ([], sql) →
            (∀ st ∈ Sql.statements sql.toList, Control.ofStatement? st = none) →
            Sql.isConcurrent sql.toList = false → (result call.act c).1.toBool →
            (c.after call).session.setting x = {}) ∧
      ((∀ x, (c.session.setting x).sessions = 0 ∧ (c.session.setting x).dirty = false ∧
          (c.session.setting x).pending = false) →
        ∀ more : List (Fin n × Call), (∀ step ∈ more, step.1 = i → step.2.IsStatement) →
          let d := ((g.run steps).run more).client i
          result Client.handOver d = (.ok (), d) ∧
            (d.wire.isOpen → ∀ call q, (d.move call).request? = some q →
              (d.after call).journal.sent = d.journal.sent ++ [(d.wire.number, q)])) := by
  intro c
  obtain ⟨hsound, hsettled⟩ := sound_run hstart steps
  refine ⟨fun x => (hsound.setting x).owed, fun hidle x hsessions => ⟨fun hdirty => ?_, ?_⟩,
    fun hnothing more hmore => ?_⟩
  · refine ((hsound.setting x).owed hsessions hdirty).resolve_right ?_
    rw [hsettled hidle x]
    simp
  · intro call sql hcovered hsql hconcurrent hok
    exact Client.setting_after_paid ⟨hsound, hsettled⟩ hidle hsessions hcovered hsql hconcurrent hok
  · -- a sound setting that is neither dirty nor pending is as it was made
    have hclear : c.session.Clear := fun x =>
      (hsound.setting x).eq_default (hnothing x).1 (hnothing x).2.1 (hnothing x).2.2
    have hlast := clear_run (g := g.run steps) hclear hmore
    exact ⟨Client.handOver_of_clear hlast, fun hopen call q => Client.sent_of_clear hlast hopen⟩

/-- Two clients of one worker. -/
def pair : Group Backend 2 :=
  { seats := .replicate 2 { wire := { server := { conduct := .cancelling none } } }
    worker := .replicate 2 0 }

/-- The first searches a schema for one statement outside a transaction, and drops the scope. -/
def searchDropped : List (Fin 2 × Call) :=
  [(0, .search ["archive"]), (0, .execute "SELECT 1" []), (0, .dropSchema ⟨["archive"]⟩)]

/-- The undoing waits for the next statement. Once that is done, the client is silent about what the
other one searches. -/
theorem undoings_kept_of_drop :
    let paid := searchDropped ++ [(0, .execute "SELECT 1" [])]
    let others : List (Fin 2 × Call) := [(1, .search ["archive"]), (0, .batch "SELECT 1")]
    (((pair.run searchDropped).client 0).session.setting .path).pending ∧
      (((pair.run searchDropped).client 0).after (.execute "SELECT 1" [])).session.setting .path = {} ∧
      result Client.handOver (((pair.run paid).run others).client 0) =
        (.ok (), ((pair.run paid).run others).client 0) := by
  intro paid others
  have hstart : (pair.client 0).session = { status := .idle } := rfl
  have hfacts : ((pair.run searchDropped).client 0).session.status = .idle ∧
      (((pair.run searchDropped).client 0).session.setting .path).sessions = 0 ∧
      (((pair.run searchDropped).client 0).session.setting .path).dirty ∧
      (((pair.run searchDropped).client 0).move (.execute "SELECT 1" [])).covered? =
        some ([], "SELECT 1") ∧
      (result (Call.execute "SELECT 1" []).act ((pair.run searchDropped).client 0)).1.toBool := by
    decide +kernel
  have hclear : ((pair.run paid).client 0).session.setting .ignore = {} ∧
      ((pair.run paid).client 0).session.setting .path = {} := by decide +kernel
  obtain ⟨hidle, hsessions, hdirty, hcovered, hok⟩ := hfacts
  obtain ⟨-, hpending, -⟩ := undoings_kept hstart searchDropped
  obtain ⟨-, -, hsilent⟩ := undoings_kept hstart paid
  obtain ⟨howed, hpaid⟩ := hpending hidle .path hsessions
  obtain ⟨hover, -⟩ := hsilent
    (fun x => by cases x <;> simp only [hclear.1, hclear.2, and_self]) others
    (by simp [others, Call.IsStatement])
  exact ⟨howed hdirty, hpaid (.execute "SELECT 1" []) "SELECT 1" hcovered (by decide) (by decide) hok,
    hover⟩

end Group

end DeclaredTriggers
