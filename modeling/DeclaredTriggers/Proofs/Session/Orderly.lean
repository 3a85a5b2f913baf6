import DeclaredTriggers.Proofs.Session.Books

/-!
# Orderly runs

What a variable holds depends on where the savepoints of a transaction are, and a client does not
know that. What it keeps for the variable is enough as long as transactions are controlled one
statement at a time: every text that is sent either controls nothing and leaves the variable alone
(`Silent`), or is one control statement and nothing else (`Solo`). The texts of a client's own calls
are like that, whatever a savepoint is called:

> `solo_of_through`: a text that ends no statement inside, and begins and ends with no blank, is one
> statement; `solo_named`: and so is a lead with a quoted name behind it.

What is known after such a text is a matter of a line each (`track_of_ordinary`, `Solo.track_done`,
`Solo.track_failed`).
-/

namespace DeclaredTriggers

open Sql (Control Mode)

/-- A text that controls no transaction and does not set a variable; the runtime alone does that. -/
def Silent (x : Variable) (sql : String) : Prop :=
  ∀ st ∈ Sql.statements sql.toList,
    Control.ofStatement? st = none ∧ (Effect.ofStatement st).writes x = false

instance (x : Variable) (sql : String) : Decidable (Silent x sql) :=
  inferInstanceAs (Decidable (∀ st ∈ Sql.statements sql.toList, _ ∧ _))

/-- A text that controls no transaction and does not set the triggers to ignore. -/
def Plain (sql : String) : Prop := Silent .ignore sql

instance (sql : String) : Decidable (Plain sql) := inferInstanceAs (Decidable (Silent .ignore sql))

/-- A text that is one control statement and nothing else. -/
structure Solo (sql : String) (c : Control) : Prop where
  statements : Sql.statements sql.toList = [sql.toList]
  uncut : Sql.splitStatement? sql.toList = none
  control : Control.ofStatement? sql.toList = some c

/-- A move that sends a text that is silent about a variable, or one control statement, or neither. -/
def Move.OrderlyOn (x : Variable) : Move → Prop
  | .batch sql | .prepared sql _ => Silent x sql ∨ ∃ c, Solo sql c
  | .openIgnore | .closeIgnore _ | .openPath | .closePath _ | .rest => True

/-- A move that sends a plain text, or one control statement, or neither. -/
def Move.Orderly (m : Move) : Prop := m.OrderlyOn .ignore

theorem Move.orderlyOn_of_text {x : Variable} {m : Move}
    (h : ∀ sql, m.text? = some sql → Silent x sql ∨ ∃ c, Solo sql c) : m.OrderlyOn x := by
  cases m with
  | batch sql | prepared sql params => exact h sql rfl
  | openIgnore | closeIgnore | openPath | closePath | rest => trivial

/-- The text of the caller's that a call asks to send. -/
def Call.text? : Call → Option String
  | .batch sql | .query sql _ | .execute sql _ => some sql
  | .ignore .. | .releaseIgnore _ | .dropIgnore _ | .search _ | .releaseSchema _ | .dropSchema _
  | .joinIgnore | .leaveIgnore _ | .joinPath | .leavePath _ | .elsewhere _ => none

/-- A call that sends a plain text or one control statement, or sends nothing of the caller's and
does not open a session on the search path. -/
def Call.Orderly : Call → Prop
  | .batch sql | .query sql _ | .execute sql _ => Plain sql ∨ ∃ c, Solo sql c
  | .search _ | .joinPath => False
  | .ignore .. | .releaseIgnore _ | .dropIgnore _ | .releaseSchema _ | .dropSchema _ | .joinIgnore
  | .leaveIgnore _ | .leavePath _ | .elsewhere _ => True

/-- A move that sends a rollback to a savepoint. -/
def Move.Returns : Move → Prop
  | .batch sql | .prepared sql _ => Solo sql .rollbackTo
  | .openIgnore | .closeIgnore _ | .openPath | .closePath _ | .rest => False

/-! ## Control statements -/

/-- A text without an end of statement and without blanks around it is one statement. -/
theorem solo_of_through {sql : String} {c : Control} {m : Mode}
    (hthrough : Mode.plain.through sql.toList = some m)
    (htrim : Text.trim sql.toList = sql.toList)
    (hcontrol : Control.ofStatement? sql.toList = some c) : Solo sql c := by
  refine ⟨?_, Sql.splitStatement?_of_segments (Sql.segments_of_through hthrough), hcontrol⟩
  rw [Sql.statements_of_through hthrough]
  unfold Sql.statementOf
  rw [htrim]
  split
  next hempty =>
    rw [List.isEmpty_iff.1 hempty] at hcontrol
    cases hcontrol
  next => rfl

theorem solo_begin : Solo "BEGIN" .opens :=
  solo_of_through (m := .plain) (by decide) (by decide) (by decide)

theorem solo_rollback : Solo "ROLLBACK" .rollback :=
  solo_of_through (m := .plain) (by decide) (by decide) (by decide)

/-- A control statement that ends in a quoted name. -/
theorem solo_named {lead : String} {first : Char} {others : List Char} {c : Control}
    (hlead : lead.toList = first :: others) (hfirst : Text.isBlank first = false)
    (hthrough : Mode.plain.through lead.toList = some .plain) {name : String}
    (hcontrol : Control.ofStatement? (lead.toList ++ (Sql.quoteName name).toList) = some c) :
    Solo (lead ++ Sql.quoteName name) c := by
  refine solo_of_through (m := .quoteEnd '"') ?_ ?_ ?_
  · rw [String.toList_append, Mode.through_append, hthrough, Option.bind_some]
    exact Sql.through_quoteName name
  · have hquoted : (lead ++ Sql.quoteName name).toList =
        first :: (others ++ '"' :: Text.replaced '"' ['"', '"'] name.toList) ++ '"' :: [] := by
      unfold Sql.quoteName
      rw [String.toList_append, hlead]
      simp
    have htrim := Sql.trim_append (d := '"')
      (a := others ++ '"' :: Text.replaced '"' ['"', '"'] name.toList) hfirst (by decide) []
    rw [hquoted, htrim]
    rfl
  · rw [String.toList_append]
    exact hcontrol

theorem solo_savepoint (name : String) : Solo ("SAVEPOINT " ++ Sql.quoteName name) .savepoint :=
  solo_named rfl (by decide) (by decide) rfl

theorem solo_rollbackTo (name : String) :
    Solo ("ROLLBACK TO SAVEPOINT " ++ Sql.quoteName name) .rollbackTo :=
  solo_named rfl (by decide) (by decide) rfl

/-! ## What is known afterwards -/

theorem Silent.ordinary {x : Variable} {sql : String} (h : Silent x sql) :
    ∀ st ∈ Sql.statements sql.toList, Control.ofStatement? st = none := fun st hst => (h st hst).1

/-- A text that controls nothing leaves what is known as it was, but for a failure. -/
theorem Session.track_of_ordinary {sql : String}
    (h : ∀ st ∈ Sql.statements sql.toList, Control.ofStatement? st = none) (s : Session) (ok : Bool) :
    s.track sql ok = if ok then s else { s with status := s.status.failed } := by
  have hcontrols : controlsOf sql = [] := List.filterMap_eq_nil_iff.2 h
  have hends : Session.endsTransaction sql = false := by
    unfold Session.endsTransaction
    rw [hcontrols]
    simp
  cases ok with
  | true =>
    unfold Session.track
    rw [hcontrols]
    rfl
  | false =>
    unfold Session.track Session.afterFailure
    rw [hends, hcontrols]
    cases s.status <;> rfl

theorem silent_empty (x : Variable) : Silent x "" := by
  intro st hst
  cases hst

/-- What ends a transaction, even if it fails. -/
def Sql.Control.isEnd (c : Control) : Bool := c = .commit || c = .rollback

namespace Solo

variable {sql : String} {c : Control}

theorem head (h : Solo sql c) :
    Control.ofStatement? ((Sql.statements sql.toList).headD []) = some c := by
  rw [h.statements]
  exact h.control

theorem controlsOf_eq (h : Solo sql c) : controlsOf sql = [c] := by
  unfold controlsOf
  rw [h.statements, List.filterMap_cons_some h.control]
  rfl

theorem endsTransaction_eq (h : Solo sql c) : Session.endsTransaction sql = c.isEnd := by
  unfold Session.endsTransaction
  rw [h.statements, h.controlsOf_eq]
  cases c <;> rfl

/-- A control statement is sent as it is. -/
theorem withPreamble (h : Solo sql c) (s : Session) (o : Overrides) :
    s.withPreamble o sql = (sql, s) := by
  refine Session.withPreamble_of_control h.head (fun _ head rest hsplit => ?_) s o
  rw [h.uncut] at hsplit
  cases hsplit

theorem track_done (h : Solo sql c) (s : Session) : s.track sql true = s.afterControl c := by
  unfold Session.track
  rw [h.controlsOf_eq]
  rfl

theorem track_failed (h : Solo sql c) (s : Session) :
    s.track sql false =
      if c.isEnd then { s.rolledBack with status := .idle }
      else { s with status := if c = .opens then .inError else s.status.failed } := by
  unfold Session.track Session.afterFailure
  rw [h.endsTransaction_eq, h.controlsOf_eq]
  cases c <;> cases s.status <;> rfl

end Solo

end DeclaredTriggers
