import DeclaredTriggers.Proofs.Session.Accounting

/-!
# What is left on a connection

At the end of a client its connection goes to somebody else, and what is still owed to it is undone
first (`Client.handOver`). This file says what a variable holds by then if its books are accounted, and
so what the triggers to ignore are after every disciplined run.

Where the client takes no transaction for open, the variable is at home; and inside a transaction it is
at home once that commits. An error needs one more word. If anything is owed, the transaction is rolled
back and the variable is at home. If nothing is owed, the failed transaction is left as it is, and with
it whatever a savepoint of it remembers:

> `handOver_leaves_iff`: after an error the variable is at home exactly if something was owed, or if it
> was at home before.

So a scope that is released in a failing transaction, behind a savepoint that was taken while it was
open, leaves its setting to whoever gets the connection (`handOver_leaves_setting`).
-/

namespace DeclaredTriggers

open Sql (Control)

/-- Where nothing is sent at the end, nothing is owed. -/
theorem Session.not_isOwed {s : Session} {x : Variable}
    (hknown : x = .path → s.initialPath = none → s.path = {}) (h : s.owed = "") :
    (s.setting x).isOwed = false := by
  cases howed : (s.setting x).isOwed with
  | false => rfl
  | true =>
    unfold owed at h
    obtain ⟨hreset, hundo⟩ := String.append_eq_empty_iff.1 h
    cases x with
    | ignore =>
      rw [show s.ignore.isOwed = true from howed] at hreset
      exact absurd hreset (by decide)
    | path =>
      rw [show s.path.isOwed = true from howed] at hundo
      -- what is owed on the search path can be undone
      cases hinitial : s.initialPath with
      | none =>
        rw [s.setting_path, hknown rfl hinitial] at howed
        cases howed
      | some path =>
        unfold undoPath? at hundo
        rw [hinitial] at hundo
        exact absurd hundo (setPathSql_ne_empty path)

/-- A rollback makes nothing owed that was not. -/
theorem Setting.isOwed_rolledBack {s : Setting} (h : s.uncommitted → s.dirty) :
    s.rolledBack.isOwed = s.isOwed := by
  unfold rolledBack
  split
  next hu => simp [isOwed, h hu]
  next => rfl

theorem Session.rolledBack_undoes {s : Session} {x : Variable} {default home : Content}
    (h : s.Undoes default home x) : s.rolledBack.Undoes default home x := by
  cases x with
  | ignore => exact h
  | path =>
    refine ⟨fun hinitial => ?_, h.2⟩
    show s.path.rolledBack = {}
    rw [h.1 hinitial]
    rfl

namespace Books

variable {home : Content} {k : Books}

/-- What is not owed is not set. -/
theorem Accounted.clean_of_not_owed (h : k.Accounted home) (howed : k.setting.isOwed = false) :
    k.ledger.outside = home ∧ k.ledger.held.lasting = home := by
  have hdirty : k.setting.dirty = false := by
    unfold Setting.isOwed at howed
    exact (Bool.or_eq_false_iff.1 howed).1
  exact ⟨(h.clean hdirty).1, (h.clean hdirty).2.1⟩

end Books

namespace Link

variable {x : Variable} {home : Content} {b : Backend} {s : Session} {l : Link Backend}

/-- The last request, if it is done, leaves what is owed at home. -/
theorem ledger_of_undoings (hundoes : (s.setting x).isOwed → s.Undoes (b.conduct.defaults x) home x)
    (hpath : s.PathClosed) (hok : (b.receive (.batch s.owed)).1.isDone) :
    (b.receive (.batch s.owed)).2.ledger x = Ledger.rested
      { b.ledger x with held := if (s.setting x).isOwed then ⟨home, none⟩ else b.holdings x } := by
  have hstatements := (Session.announces_owed hpath).statements_eq
  have hok' : (b.serve (Sql.statements s.owed.toList)).1.isDone := hok
  have hledger : (b.receive (.batch s.owed)).2.ledger x = _ :=
    b.serve_ledger_of_ordinary
      (by rw [hstatements]; exact fun st hst => Session.ofStatement?_of_mem_undoings hst) x
  have hheld := heldAfter_undoings (fun y => (s.setting y).isOwed) hundoes
    (fun hnone => by rw [Session.setting_path, hnone]; rfl) (b.holdings x)
  rw [if_pos hok', hstatements] at hledger
  rw [← hheld]
  exact hledger

/-- It leaves a variable that lasts at home. -/
theorem ledger_of_owed (hclean : (s.setting x).isOwed = false → (b.holdings x).lasting = home)
    (hundoes : s.Undoes (b.conduct.defaults x) home x) (hpath : s.PathClosed)
    (hok : (b.receive (.batch s.owed)).1.isDone) :
    ∃ held : Held, held.lasting = home ∧ (b.receive (.batch s.owed)).2.ledger x =
      Ledger.rested { b.ledger x with held } := by
  refine ⟨_, ?_, ledger_of_undoings (fun _ => hundoes) hpath hok⟩
  split
  next => rfl
  next howed => exact hclean (by simpa using howed)

/-- A rollback that is done leaves what was there before the transaction. -/
theorem ledger_of_rollback (hok : (b.receive (.batch "ROLLBACK")).1.isDone) (x : Variable) :
    (b.receive (.batch "ROLLBACK")).2.ledger x = (b.ledger x).rolledBack := by
  have hserve : b.receive (.batch "ROLLBACK") = b.serve ["ROLLBACK".toList] := by
    show b.serve (Sql.statements "ROLLBACK".toList) = _
    rw [solo_rollback.statements]
  rw [hserve] at hok ⊢
  rcases b.serve_ledger_of_control solo_rollback.control x with ⟨-, after, hcontrolled, hafter⟩ |
    ⟨hfailed, -⟩
  · rw [hafter]
    cases hcontrolled
    rfl
  · rw [hok] at hfailed
    cases hfailed

/-- The last request after a rollback, if both are done, leaves the variable at home. -/
theorem ledger_of_rollback_owed (h : (l.booksOn x).Accounted home) (hpath : l.session.PathClosed)
    (hundoes : l.session.Undoes (l.server.conduct.defaults x) home x)
    (hrollback : (l.server.receive (.batch "ROLLBACK")).1.isDone)
    (hok : ((l.server.receive (.batch "ROLLBACK")).2.receive
      (.batch l.session.rolledBack.owed)).1.isDone) :
    ((l.server.receive (.batch "ROLLBACK")).2.receive
      (.batch l.session.rolledBack.owed)).2.ledger x = ⟨.idle, home, ⟨home, none⟩, []⟩ := by
  have hrolled := ledger_of_rollback hrollback x
  have hclean : (l.session.rolledBack.setting x).isOwed = false →
      ((l.server.receive (.batch "ROLLBACK")).2.holdings x).lasting = home := by
    intro howed
    rw [Session.setting_rolledBack] at howed
    have hdirty : (l.session.setting x).dirty = false := by
      rw [← (l.session.setting x).rolledBack_dirty]
      exact (Bool.or_eq_false_iff.1 howed).1
    show ((l.server.receive (.batch "ROLLBACK")).2.ledger x).held.lasting = home
    rw [hrolled]
    exact (h.clean hdirty).1
  have hundoes' : l.session.rolledBack.Undoes
      ((l.server.receive (.batch "ROLLBACK")).2.conduct.defaults x) home x := by
    rw [Backend.receive_conduct]
    exact Session.rolledBack_undoes hundoes
  obtain ⟨held, hlasting, hledger⟩ := ledger_of_owed hclean hundoes' hpath hok
  rw [hledger, hrolled]
  show Ledger.committed ⟨.idle, _, held, _⟩ = _
  unfold Ledger.committed
  rw [hlasting]

/-! ## The three ways to hand over -/

theorem handOver_of_nothing (howed : l.session.owed = "") : l.handOver = (true, l) := by
  unfold handOver
  exact if_neg (not_not_intro howed)

theorem handOver_of_owed (howed : l.session.owed ≠ "") (herror : l.session.status ≠ .inError) :
    l.handOver = ((l.server.receive (.batch l.session.owed)).1.isDone,
      { l with server := (l.server.receive (.batch l.session.owed)).2 }) := by
  unfold handOver
  rw [if_pos howed, if_neg herror, send_eq]

theorem handOver_of_error (howed : l.session.owed ≠ "") (herror : l.session.status = .inError)
    (hok : l.handOver.1) :
    (l.server.receive (.batch "ROLLBACK")).1.isDone ∧
      ((l.server.receive (.batch "ROLLBACK")).2.receive
        (.batch l.session.rolledBack.owed)).1.isDone ∧
      l.handOver.2.server = ((l.server.receive (.batch "ROLLBACK")).2.receive
        (.batch l.session.rolledBack.owed)).2 := by
  unfold handOver at hok ⊢
  rw [if_pos howed, if_pos herror, send_eq] at hok ⊢
  cases hrollback : (l.server.receive (.batch "ROLLBACK")).1.isDone with
  | false =>
    rw [hrollback] at hok
    cases hok
  | true =>
    rw [hrollback] at hok
    simp only [learn, send_eq] at hok ⊢
    exact ⟨trivial, hok, trivial⟩

/-- Where no transaction is open, what is owed is undone, and the rest is left as it was. -/
theorem value_handOver (hphase : l.server.phase = .idle)
    (hheld : l.server.holdings x = ⟨l.server.outside x, none⟩) (hpath : l.session.PathClosed)
    (hflagged : (l.session.setting x).uncommitted → (l.session.setting x).dirty)
    (hknown : x = .path → l.session.initialPath = none → l.session.path = {})
    (hundoes : (l.session.setting x).isOwed →
      l.session.Undoes (l.server.conduct.defaults x) home x) (hok : l.handOver.1) :
    l.handOver.2.server.value x =
      if (l.session.setting x).isOwed then home else l.server.value x := by
  have hvalue : l.server.value x = l.server.outside x := by
    show (l.server.holdings x).value = _
    rw [hheld]
    rfl
  have hrested : ∀ {b : Backend} {isOwed : Bool}, b.ledger x = ⟨.idle, l.server.outside x,
      ⟨l.server.outside x, none⟩, []⟩ ∨ b.ledger x = l.server.ledger x →
      (Ledger.rested { b.ledger x with
        held := if isOwed then ⟨home, none⟩ else b.holdings x }).held.value =
          if isOwed then home else l.server.outside x := by
    intro b isOwed hledger
    have hholdings : b.holdings x = ⟨l.server.outside x, none⟩ := by
      rcases hledger with hledger | hledger
      · exact congrArg Ledger.held hledger
      · exact (congrArg Ledger.held hledger).trans hheld
    have hidle : (b.ledger x).phase = .idle := by
      rcases hledger with hledger | hledger
      · rw [hledger]
      · rw [hledger]
        exact hphase
    rw [hholdings]
    unfold Ledger.rested
    rw [if_pos hidle]
    cases isOwed <;> rfl
  rw [Backend.value_eq_ledger, hvalue]
  by_cases howed : l.session.owed = ""
  · rw [handOver_of_nothing howed, Session.not_isOwed hknown howed, if_neg (by simp)]
    exact hvalue
  · by_cases herror : l.session.status = .inError
    · -- the rollback changes nothing, and takes nothing off what is owed
      obtain ⟨hrollback, hdone, hserver⟩ := handOver_of_error howed herror hok
      have hrolled := ledger_of_rollback hrollback x
      have hsame : (l.session.rolledBack.setting x).isOwed = (l.session.setting x).isOwed := by
        rw [Session.setting_rolledBack]
        exact Setting.isOwed_rolledBack hflagged
      have hundoes' : (l.session.rolledBack.setting x).isOwed → l.session.rolledBack.Undoes
          ((l.server.receive (.batch "ROLLBACK")).2.conduct.defaults x) home x := by
        rw [Backend.receive_conduct, hsame]
        exact fun h => Session.rolledBack_undoes (hundoes h)
      rw [hserver, ledger_of_undoings hundoes' hpath hdone, hsame]
      exact hrested (.inl hrolled)
    · rw [handOver_of_owed howed herror] at hok ⊢
      dsimp only at hok ⊢
      rw [ledger_of_undoings hundoes hpath hok]
      exact hrested (.inr rfl)

/-- There, the variable is left at home. -/
theorem home_of_idle (h : (l.booksOn x).Accounted home) (hpath : l.session.PathClosed)
    (hundoes : l.session.Undoes (l.server.conduct.defaults x) home x) (hok : l.handOver.1)
    (hphase : l.server.phase = .idle) : l.handOver.2.server.value x = home := by
  rw [value_handOver hphase (h.tidy hphase).1 hpath h.flagged hundoes.known (fun _ => hundoes) hok]
  split
  next => rfl
  next howed =>
    have hvalue : l.server.value x = l.server.outside x := by
      show (l.server.holdings x).value = _
      rw [show l.server.holdings x = ⟨l.server.outside x, none⟩ from (h.tidy hphase).1]
      rfl
    rw [hvalue]
    exact (h.clean_of_not_owed (Bool.eq_false_iff.2 howed)).1

/-- In a transaction, it is left so that it is at home once that commits. -/
theorem home_of_inTransaction (h : (l.booksOn x).Accounted home) (hpath : l.session.PathClosed)
    (hundoes : l.session.Undoes (l.server.conduct.defaults x) home x) (hok : l.handOver.1)
    (hin : l.session.status = .inTransaction) :
    l.handOver.2.server.committed.value x = home := by
  rw [Backend.value_eq_ledger, Backend.committed_ledger]
  by_cases howed : l.session.owed = ""
  · rw [handOver_of_nothing howed]
    exact (h.clean_of_not_owed (Session.not_isOwed hundoes.known howed)).2
  · have herror : l.session.status ≠ .inError := by
      rw [hin]
      simp
    rw [handOver_of_owed howed herror] at hok ⊢
    simp only at hok
    obtain ⟨held, hlasting, hledger⟩ := ledger_of_owed (b := l.server) (s := l.session)
      (fun h' => (h.clean_of_not_owed h').2) hundoes hpath hok
    rw [hledger]
    unfold Ledger.rested
    split
    next => exact hlasting
    next => exact hlasting

/-- After an error, it is left at home if anything was owed, and else as it was; and it is at home
once the failed transaction is rolled back. -/
theorem home_of_inError (h : (l.booksOn x).Accounted home) (hpath : l.session.PathClosed)
    (hundoes : l.session.Undoes (l.server.conduct.defaults x) home x) (hok : l.handOver.1)
    (herror : l.session.status = .inError) :
    (l.handOver.2.server.value x = home ↔
        l.session.owed ≠ "" ∨ l.server.value x = home) ∧
      l.handOver.2.server.rolledBack.value x = home := by
  by_cases howed : l.session.owed = ""
  · rw [handOver_of_nothing howed]
    exact ⟨⟨.inr, fun hor => hor.resolve_left (not_not_intro howed)⟩,
      (h.clean_of_not_owed (Session.not_isOwed hundoes.known howed)).1⟩
  · obtain ⟨hrollback, hdone, hserver⟩ := handOver_of_error howed herror hok
    have hledger := ledger_of_rollback_owed h hpath hundoes hrollback hdone
    rw [hserver, Backend.value_eq_ledger _ x,
      Backend.value_eq_ledger (Backend.rolledBack _) x, Backend.rolledBack_ledger, hledger]
    exact ⟨⟨fun _ => .inl howed, fun _ => rfl⟩, rfl⟩

end Link

namespace Client

/-- After every disciplined run, a connection that is given back without an error has the variable at
home where the client takes no transaction for open; in a transaction, once that commits. After an
error the variable is at home exactly if something was owed or it was at home before. -/
theorem handOver_leaves_iff {c c' : Client Backend} (hstart : c.Starts) {calls : List Call}
    (hrun : Along Disciplined c calls)
    (hover : Act.result handOver (c.run calls) = (.ok (), c')) :
    ((c.run calls).session.status = .idle → c'.wire.server.value .ignore = c.home) ∧
      ((c.run calls).session.status = .inTransaction →
        c'.wire.server.committed.value .ignore = c.home) ∧
      ((c.run calls).session.status = .inError →
        (c'.wire.server.value .ignore = c.home ↔
          (c.run calls).session.owed ≠ "" ∨ (c.run calls).wire.server.value .ignore = c.home) ∧
        c'.wire.server.rolledBack.value .ignore = c.home) := by
  have hcomposed := composed_run hstart.fresh.composed calls
  have hbooks := accounted_run hstart hrun
  have hhome : (c.run calls).link.server.conduct.defaults .ignore = c.home :=
    home_run hstart.fresh.composed calls
  obtain ⟨r, j, hresult, hok⟩ := acts_handOver hcomposed.isOpen
  rw [hresult] at hover
  cases hover
  have hok : (c.run calls).link.handOver.1 := hok.symm
  exact ⟨fun hidle => Link.home_of_idle (x := .ignore) hbooks hcomposed.pathClosed hhome hok
      (hbooks.tracks_idle hidle),
    Link.home_of_inTransaction (x := .ignore) hbooks hcomposed.pathClosed hhome hok,
    Link.home_of_inError (x := .ignore) hbooks hcomposed.pathClosed hhome hok⟩

/-- A scope is open over a transaction that fails, and its setting was made for good before: the
connection is given back with the variable at home. -/
theorem handOver_after_failure :
    let c : Client Backend := connectedTo { conduct := .cancelling (some 3) } .idle
    let calls : List Call := [.ignore .specimen ["library.Book:protect_deletes"],
      .execute "DELETE FROM library_book" [], .batch "BEGIN", .execute "DELETE FROM library_book" []]
    ∃ c', Act.result handOver (c.run calls) = (.ok (), c') ∧
      c'.wire.server.value .ignore = c.home := by
  intro c calls
  have hcalls : ∀ call ∈ calls, call.Orderly := by
    simp only [calls, List.forall_mem_cons]
    exact ⟨trivial, .inl (by decide), .inr ⟨_, solo_begin⟩, .inl (by decide), by simp⟩
  have hstart : c.Starts := starts_connectedTo _
  have hrun := along_of_unhooked hstart.fresh.composed rfl hcalls
  have hfacts : (c.run calls).session.status = .inError ∧ (c.run calls).session.owed ≠ "" ∧
      (Act.result handOver (c.run calls)).1.toBool := by decide +kernel
  obtain ⟨herror, howed, hok⟩ := hfacts
  have hover := Act.result_of_toBool hok
  exact ⟨_, hover, ((handOver_leaves_iff hstart hrun hover).2.2 herror).1.2 (.inl howed)⟩

/-- A scope is released behind a savepoint that was taken while it was open, and the undoing fails:
nothing is owed any more, and the connection is given back with the setting that the savepoint
remembers. -/
theorem handOver_leaves_setting :
    ¬ ∀ (c c' : Client Backend) (calls : List Call), c.Starts → Along Disciplined c calls →
      Act.result handOver (c.run calls) = (.ok (), c') →
      (c.run calls).session.status = .inError → c'.wire.server.value .ignore = c.home := by
  intro hall
  let c : Client Backend := connectedTo { conduct := .cancelling (some 4) } .idle
  have hstart : c.Starts := starts_connectedTo _
  have hrun := along_of_unhooked hstart.fresh.composed rfl orderly_releaseBehindSavepoint
  have hfacts : (c.run releaseBehindSavepoint).session.status = .inError ∧
      (Act.result handOver (c.run releaseBehindSavepoint)).1.toBool ∧
      (Act.result handOver (c.run releaseBehindSavepoint)).2.wire.server.value .ignore ≠ c.home := by
    decide +kernel
  obtain ⟨herror, hok, haway⟩ := hfacts
  exact haway (hall c _ _ hstart hrun (Act.result_of_toBool hok) herror)

end Client

end DeclaredTriggers
