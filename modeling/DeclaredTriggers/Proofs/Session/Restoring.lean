import DeclaredTriggers.Proofs.Session.HandOver
import DeclaredTriggers.Proofs.Session.Undoings

/-!
# What is left of the search path

A client that hands its connection over owes it the search path that it had. What that was, the client
was told when its first session on the path was opened, and each first session asks again. This file says
when the path is the old one in the end:

> `handOver_restores_iff`: where no transaction is open, what is owed leaves the path that was told
> last, and where nothing is owed the path stays as it is; and after a disciplined run that is the path
> from before, unless a first session asked while the path was something else.

Such a session is easily opened. A scope that is dropped leaves its undoing to the next statement, and a
scope that is entered before that asks for the path and is told the one that was to be undone. From then
on the client takes it for its connection's own (`handOver_keeps_dropped`).
-/

namespace DeclaredTriggers

open Act (result)
open Sql (Control)

/-! ## The end of a client -/

namespace Link

variable {l : Link Backend} {home : Content}

/-- The search path that is undone at the end is one that a server can have. -/
theorem closed_of_handOver (hpath : l.session.PathClosed) (hok : l.handOver.1)
    (howed : l.session.path.isOwed) {path : String} (hinitial : l.session.initialPath = some path) :
    Sql.isClosed (Text.trimEnd path.toList) := by
  have hdone : ∀ {b : Backend} {s : Session}, s.PathClosed → s.path.isOwed →
      s.initialPath = some path → (b.receive (.batch s.owed)).1.isDone →
      Sql.isClosed (Text.trimEnd path.toList) := by
    intro b s hpath howed hinitial hdone
    have hstatements := (Session.announces_owed hpath).statements_eq
    obtain ⟨after, hran, -⟩ := b.ran_serve (Sql.statements s.owed.toList)
    rw [show (b.serve (Sql.statements s.owed.toList)).1.isDone = true from hdone, hstatements]
      at hran
    refine hran.closed_of_set rfl ?_ (effect_set .path false (Text.trimEnd path.toList))
    unfold Session.undoings
    rw [if_pos howed, hinitial]
    exact List.mem_append_right _ (List.mem_singleton_self _)
  have hnonempty : l.session.owed ≠ "" := by
    intro hempty
    unfold Session.owed at hempty
    have hundo := (String.append_eq_empty_iff.1 hempty).2
    rw [if_pos howed] at hundo
    unfold Session.undoPath? at hundo
    rw [hinitial] at hundo
    exact absurd hundo (setPathSql_ne_empty path)
  by_cases herror : l.session.status = .inError
  · obtain ⟨-, hlast, -⟩ := handOver_of_error hnonempty herror hok
    refine hdone (s := l.session.rolledBack) hpath ?_ hinitial hlast
    show l.session.path.rolledBack.isOwed
    unfold Setting.rolledBack
    split
    next => simp [Setting.isOwed]
    next => exact howed
  · rw [handOver_of_owed hnonempty herror] at hok
    dsimp only at hok
    exact hdone hpath howed hinitial hok

/-- Where no transaction is open, the search path is left as it was told to be if it is owed, and else as
it is. -/
theorem path_handOver_iff (hphase : l.server.phase = .idle)
    (hheld : l.server.holdings .path = ⟨l.server.outside .path, none⟩)
    (hpath : l.session.PathClosed) (hsound : l.session.Sound) (hok : l.handOver.1) (home : Content) :
    l.handOver.2.server.value .path = home ↔
      if l.session.path.isOwed then
        l.session.initialPath.map (fun path => Text.trimEnd path.toList) = some home.text
      else l.server.value .path = home := by
  have hflagged := (hsound.setting .path).flagged
  have hknown : Variable.path = .path → l.session.initialPath = none → l.session.path = {} :=
    fun _ => hsound.known
  cases howed : l.session.path.isOwed with
  | false =>
    have hvalue : l.handOver.2.server.value .path =
        if (l.session.setting .path).isOwed then home else l.server.value .path :=
      value_handOver hphase hheld hpath hflagged hknown
        (fun h => by rw [Session.setting_path, howed] at h; cases h) hok
    rw [hvalue, Session.setting_path, howed]
    simp
  | true =>
    cases hinitial : l.session.initialPath with
    | none =>
      rw [hsound.known hinitial] at howed
      cases howed
    | some path =>
      -- what was told is something that the variable can hold, since the undoing was done
      let told : Content := ⟨Text.trimEnd path.toList, closed_of_handOver hpath hok howed hinitial⟩
      have hundoes : l.session.Undoes (l.server.conduct.defaults .path) told .path := by
        refine ⟨hsound.known, fun path' hpath' => ?_⟩
        rw [hinitial] at hpath'
        cases hpath'
        rfl
      have hvalue := value_handOver hphase hheld hpath hflagged hknown (fun _ => hundoes) hok
      rw [hvalue, Session.setting_path, howed, if_pos rfl, if_pos rfl, Option.map_some,
        Option.some_inj]
      constructor
      · intro h
        rw [← h]
      · intro h
        rcases home with ⟨text, hclosed⟩
        subst h
        rfl

end Link

/-! ## Runs -/

namespace Client

variable {c : Client Backend} {home : Content}

/-- A call that asks for the search path while that is not the connection's own. -/
def Misreads (home : Content) (c : Client Backend) (call : Call) : Prop :=
  c.move call = .openPath ∧ c.session.path.sessions = 0 ∧ c.wire.server.value .path ≠ home

instance (home : Content) (c : Client Backend) (call : Call) : Decidable (c.Misreads home call) :=
  inferInstanceAs (Decidable (_ ∧ _ ∧ _))

/-- A call whose text, if it sends any, is orderly and leaves the search path alone, that is not blind
and does not misread the path. -/
def Careful (home : Content) (c : Client Backend) (call : Call) : Prop :=
  (c.move call).OrderlyOn .path ∧ ¬ c.Blind call ∧ ¬ c.Misreads home call

/-- What a careful run keeps: the client knows what it owes, and what it was told is the connection's own
search path. -/
structure Minds (home : Content) (c : Client Backend) : Prop where
  composed : c.Composed
  sound : c.session.Sound ∧ c.session.Settled
  told : ∀ path, c.session.initialPath = some path → Text.trimEnd path.toList = home.text
  accounted : (c.link.booksOn .path).Accounted home

theorem Minds.undoes (h : c.Minds home) (default : Content) :
    c.session.Undoes default home .path := ⟨h.sound.1.known, h.told⟩

/-- A careful call keeps that. -/
theorem Minds.after (h : c.Minds home) (htrim : Text.trimEnd home.text = home.text) {call : Call}
    (hcall : c.Careful home call) : (c.after call).Minds home := by
  obtain ⟨horderly, hsighted, hreads⟩ := hcall
  refine ⟨composed_after h.composed call, sound_after h.sound call, ?_, ?_⟩
  · intro path hinitial
    rcases initialPath_after h.composed call with hsame | ⟨hmove, hfirst, hnow⟩
    · exact h.told path (hsame ▸ hinitial)
    · -- the first session asks while the path is the connection's own
      rw [hnow] at hinitial
      cases hinitial
      have hhome : c.wire.server.value .path = home :=
        Classical.not_not.1 fun haway => hreads ⟨hmove, hfirst, haway⟩
      rw [String.toList_ofList, hhome, htrim]
  · rw [link_after h.composed call]
    rcases Link.steps_move (o := c.overrides) h.accounted.tracks h.composed.pathClosed
      h.composed.registered (h.undoes _) horderly hsighted with hsteps | ⟨-, hreturned⟩
    · exact h.accounted.steps hsteps
    · exact h.accounted.returned hreturned

theorem sound_run {σ : Type} [Server σ] {c : Client σ} (h : c.session.Sound ∧ c.session.Settled)
    (calls : List Call) : (c.run calls).session.Sound ∧ (c.run calls).session.Settled := by
  induction calls generalizing c with
  | nil => exact h
  | cons call rest ih => exact ih (sound_after h call)

/-- After every run that leaves no transaction open, a connection that is given back without an error
has the search path that its client was told last, if that is owed, and else the one it has. After a
careful run it has the one from before. -/
theorem handOver_restores_iff {c c' : Client Backend} (hfresh : c.Fresh) (htracks : c.Tracks)
    {home : Content} (hstill : c.wire.server.Still .path home)
    (htrim : Text.trimEnd home.text = home.text) {calls : List Call}
    (hphase : (c.run calls).wire.server.phase = .idle)
    (hover : result handOver (c.run calls) = (.ok (), c')) :
    (c'.wire.server.value .path = home ↔
        if (c.run calls).session.path.isOwed then
          (c.run calls).session.initialPath.map (fun path => Text.trimEnd path.toList) =
            some home.text
        else (c.run calls).wire.server.value .path = home) ∧
      (Along (Careful home) c calls → c'.wire.server.value .path = home) := by
  have hcomposed := composed_run hfresh.composed calls
  have hheld := rest_run hfresh.composed (x := .path)
    (fun _ => by rw [hstill.held, hstill.outside]) calls hphase
  obtain ⟨r, j, hresult, hok⟩ := acts_handOver hcomposed.isOpen
  rw [hresult] at hover
  cases hover
  have hok : (c.run calls).link.handOver.1 := hok.symm
  refine ⟨Link.path_handOver_iff hphase hheld hcomposed.pathClosed (sound_run hfresh.sound calls).1 hok
    home, fun hrun => ?_⟩
  have hstart : c.Minds home := by
    refine ⟨hfresh.composed, hfresh.sound, fun path hinitial => ?_,
      Link.accounted_of_still hstill htracks (hfresh.setting .path)⟩
    rw [hfresh.initialPath] at hinitial
    cases hinitial
  have hminds : (c.run calls).Minds home :=
    run_keeps (fun _ _ hminds hcall => hminds.after htrim hcall) hstart hrun
  exact Link.home_of_idle hminds.accounted hcomposed.pathClosed (hminds.undoes _) hok hphase

/-- Two scopes on the search path, dropped one after the other. -/
def searchTwice (between : List Call) : List Call :=
  [.search ["archive"], .execute "SELECT 1" [], .dropSchema ⟨["archive"]⟩] ++ between ++
    [.search ["books"], .dropSchema ⟨["books"]⟩]

theorem orderly_searchTwice {c : Client Backend} (hc : c.Composed) (h : c.hook = none)
    {between : List Call} (hbetween : between = [] ∨ between = [.execute "SELECT 2" []]) :
    Along (fun d call => (d.move call).OrderlyOn .path) c (searchTwice between) := by
  refine orderly_of_unhooked hc h fun call hcall sql hsql => .inl ?_
  have htexts : ∀ call ∈ searchTwice between, ∀ sql, call.text? = some sql →
      sql = "SELECT 1" ∨ sql = "SELECT 2" := by
    rcases hbetween with rfl | rfl <;> simp [searchTwice, Call.text?]
  rcases htexts call hcall sql hsql with rfl | rfl <;> decide

/-- With a statement between the two, which pays the undoing of the first, the connection is given back
with the search path that it had. -/
theorem handOver_restores_paid :
    let c : Client Backend := connectedTo { conduct := .cancelling none } .idle
    ∃ c', result handOver (c.run (searchTwice [.execute "SELECT 2" []])) = (.ok (), c') ∧
      c'.wire.server.value .path = c.wire.server.value .path := by
  intro c
  have hfresh : c.Fresh := fresh_connectedTo _ (by simp)
  have hstill : c.wire.server.Still .path (c.wire.server.value .path) :=
    ⟨rfl, rfl, fun p hp => (nomatch hp), fun _ => rfl⟩
  have hfacts : (c.run (searchTwice [.execute "SELECT 2" []])).wire.server.phase = .idle ∧
      (result handOver (c.run (searchTwice [.execute "SELECT 2" []]))).1.toBool ∧
      Along (fun d call => ¬ d.Blind call ∧ ¬ d.Misreads (c.wire.server.value .path) call) c
        (searchTwice [.execute "SELECT 2" []]) := by decide +kernel
  obtain ⟨hphase, hok, hcareful⟩ := hfacts
  have hover := Act.result_of_toBool hok
  have horderly := orderly_searchTwice hfresh.composed rfl (.inr rfl)
  exact ⟨_, hover, (handOver_restores_iff hfresh rfl hstill (by decide) hphase hover).2
    (horderly.and hcareful)⟩

/-- Without it, the second scope takes the path of the first for the connection's own, and the connection
is given back with that. -/
theorem handOver_keeps_dropped :
    ¬ ∀ (c c' : Client Backend) (calls : List Call), c.Fresh → c.Tracks →
      c.wire.server.Still .path (c.wire.server.value .path) →
      Along (fun d call => (d.move call).OrderlyOn .path ∧ ¬ d.Blind call) c calls →
      (c.run calls).wire.server.phase = .idle → (c.run calls).session.status = .idle →
      result handOver (c.run calls) = (.ok (), c') →
      c'.wire.server.value .path = c.wire.server.value .path := by
  intro hall
  let c : Client Backend := connectedTo { conduct := .cancelling none } .idle
  have hfresh : c.Fresh := fresh_connectedTo _ (by simp)
  have hfacts : (c.run (searchTwice [])).wire.server.phase = .idle ∧
      (c.run (searchTwice [])).session.status = .idle ∧
      (result handOver (c.run (searchTwice []))).1.toBool ∧
      (result handOver (c.run (searchTwice []))).2.wire.server.value .path ≠
        c.wire.server.value .path ∧
      Along (fun d call => ¬ d.Blind call) c (searchTwice []) := by decide +kernel
  obtain ⟨hphase, hidle, hok, haway, hsighted⟩ := hfacts
  have horderly := orderly_searchTwice hfresh.composed rfl (.inl rfl)
  exact haway (hall c _ _ hfresh rfl ⟨rfl, rfl, fun p hp => (nomatch hp), fun _ => rfl⟩
    (horderly.and hsighted) hphase hidle (Act.result_of_toBool hok))

end Client

end DeclaredTriggers
