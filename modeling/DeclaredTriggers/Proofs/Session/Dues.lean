import DeclaredTriggers.Proofs.Backend.Ledger
import DeclaredTriggers.Proofs.Sql.Quoting
import DeclaredTriggers.Proofs.Trigger.Identifier
import DeclaredTriggers.Session.Basic

/-!
# What a session sends of its own accord

Before the caller's statements a session sends what it owes (`Session.preamble`), and at the end of
a scope or of a client what undoes it (`Session.owed`). This file reads these texts as statements:

> `announces_preamble`: a preamble is a row of statements (`Session.dues`) in front of the batch it
> is put before, and changes nothing else about it.

Two facts keep the row in one piece. The identifiers that a worker ignores are those of registered
triggers, so the literal that names them closes its quotes (`Overrides.Registered`); and the search
path that the connection had is closed (`Session.PathClosed`), since a server said it.

What a due statement does is known from its first words (`effect_set`, `effect_reset`), and none of
them controls a transaction (`ofStatement?_of_mem_dues`).
-/

namespace DeclaredTriggers

open Sql (Announces Control isClosed)

/-! ## Statements that set and reset -/

theorem ofStatement?_setLead (x : Variable) (isLocal : Bool) (t : List Char) :
    Control.ofStatement? ((Effect.setLead x isLocal).toList ++ t) = none := by
  cases x <;> cases isLocal <;> rfl

/-- A statement that sets a variable is known by how it begins. -/
theorem effect_set (x : Variable) (isLocal : Bool) (t : List Char) :
    Effect.ofStatement ((Effect.setLead x isLocal).toList ++ t) = .set x isLocal t := by
  unfold Effect.ofStatement
  rw [ofStatement?_setLead]
  cases x <;> cases isLocal <;> simp [Effect.assigned?, Effect.setLead, Text.strip?]

/-- The statement that resets the triggers to ignore. -/
def resetIgnore : List Char := "RESET pgtrigger.ignore".toList

theorem ofStatement?_resetIgnore : Control.ofStatement? resetIgnore = none := by decide

theorem effect_reset : Effect.ofStatement resetIgnore = .reset .ignore := by decide

theorem announces_resetIgnore : Announces resetIgnoreSql.toList [resetIgnore] := by
  have hclosed : isClosed resetIgnore := by decide
  exact Announces.statement hclosed

/-- A statement that sets a variable to a text is a statement of its own. -/
theorem announces_set {x : Variable} {isLocal : Bool} {t : List Char}
    (h : isClosed ((Effect.setLead x isLocal).toList ++ t)) :
    Announces ((Effect.setLead x isLocal).toList ++ t ++ [';'])
      [(Effect.setLead x isLocal).toList ++ Text.trimEnd t] := by
  have hstatement : Sql.statementOf ((Effect.setLead x isLocal).toList ++ t) =
      [(Effect.setLead x isLocal).toList ++ Text.trimEnd t] := by
    have hlead : ∃ c a d, Text.isBlank c = false ∧ Text.isBlank d = false ∧
        (Effect.setLead x isLocal).toList = c :: a ++ [d] := by
      refine ⟨'S', (Effect.setLead x isLocal).toList.tail.dropLast, '=', by decide, by decide, ?_⟩
      cases x <;> cases isLocal <;> decide
    obtain ⟨c, a, d, hc, hd, hlead⟩ := hlead
    rw [hlead, List.append_assoc, List.append_assoc, List.singleton_append, List.singleton_append]
    exact Sql.statementOf_append hc hd t
  rw [← hstatement]
  exact Announces.statement h

theorem through_setLead (x : Variable) (isLocal : Bool) (t : List Char) :
    Sql.Mode.plain.through ((Effect.setLead x isLocal).toList ++ t) = Sql.Mode.plain.through t := by
  rw [Sql.Mode.through_append]
  have hlead : Sql.Mode.plain.through (Effect.setLead x isLocal).toList = some .plain := by
    cases x <;> cases isLocal <;> decide
  rw [hlead]
  rfl

theorem isClosed_setLead {x : Variable} {isLocal : Bool} {t : List Char} :
    isClosed ((Effect.setLead x isLocal).toList ++ t) = isClosed t := by
  unfold isClosed
  rw [through_setLead]

/-! ## What overrides say -/

namespace Overrides

/-- The triggers that are ignored are registered ones. -/
def Registered (o : Overrides) : Prop := ∀ id ∈ o.ignored.keys, ∃ x : Entry, x.pgid = id

/-- The literal that names the ignored triggers. -/
def ignoreLiteral (o : Overrides) : List Char :=
  '\'' :: ('\x7b' :: (",".intercalate o.ignored.keys).toList ++ ['\x7d']) ++ ['\'']

/-- The schemas to search, as they are written. -/
def pathList (o : Overrides) : List Char :=
  (",".intercalate (o.schemas.map Sql.quoteName)).toList

theorem ignoreSql_eq (o : Overrides) (isLocal : Bool) :
    (o.ignoreSql isLocal).toList =
      (Effect.setLead .ignore isLocal).toList ++ o.ignoreLiteral ++ [';'] := by
  cases isLocal <;> simp [ignoreSql, setWord, ignoreLiteral, Effect.setLead]

theorem pathSql_eq {o : Overrides} {isLocal : Bool} {sql : String}
    (h : o.pathSql? isLocal = some sql) :
    o.schemas.isEmpty = false ∧
      sql.toList = (Effect.setLead .path isLocal).toList ++ o.pathList ++ [';'] := by
  unfold pathSql? at h
  split at h
  next => cases h
  next hempty =>
    cases h
    refine ⟨by simpa using hempty, ?_⟩
    cases isLocal <;> simp [setWord, pathList, Effect.setLead]

theorem ignoreSql_ne_empty (o : Overrides) (isLocal : Bool) : o.ignoreSql isLocal ≠ "" := by
  intro h
  have := congrArg String.toList h
  rw [ignoreSql_eq] at this
  cases isLocal <;> cases this

theorem pathSql_ne_empty {o : Overrides} {isLocal : Bool} {sql : String}
    (h : o.pathSql? isLocal = some sql) : sql ≠ "" := by
  rintro rfl
  have := (pathSql_eq h).2
  cases isLocal <;> cases this

theorem pathSql?_eq_none {o : Overrides} {isLocal : Bool} (h : o.pathSql? isLocal = none) :
    o.schemas.isEmpty = true := by
  unfold pathSql? at h
  split at h
  next hempty => exact hempty
  next => cases h

/-- Whether there is anything to tell a connection of a variable. -/
def speaksOf (o : Overrides) : Variable → Bool
  | .ignore => true
  | .path => !o.schemas.isEmpty

/-- A character of a joined text stands in a part of it or between two. -/
theorem mem_or_eq_of_mem_intercalate {parts : List String} {c : Char}
    (h : c ∈ (",".intercalate parts).toList) : c = ',' ∨ ∃ t ∈ parts, c ∈ t.toList := by
  induction parts with
  | nil => cases h
  | cons t parts ih =>
    cases parts with
    | nil =>
      rw [String.intercalate_singleton] at h
      exact .inr ⟨t, List.mem_cons_self, h⟩
    | cons u parts =>
      rw [String.intercalate_cons_cons, String.toList_append, String.toList_append,
        List.mem_append, List.mem_append] at h
      rcases h with (h | h) | h
      · exact .inr ⟨t, List.mem_cons_self, h⟩
      · exact .inl (List.mem_singleton.1 h)
      · rcases ih h with h | ⟨v, hv, h⟩
        · exact .inl h
        · exact .inr ⟨v, List.mem_cons_of_mem _ hv, h⟩

/-- The literal that names registered triggers holds no quote but its own. -/
theorem Registered.quote_not_mem {o : Overrides} (h : o.Registered) :
    '\'' ∉ '\x7b' :: (",".intercalate o.ignored.keys).toList ++ ['\x7d'] := by
  intro hmem
  rw [List.cons_append, List.mem_cons, List.mem_append, List.mem_singleton] at hmem
  rcases hmem with hmem | hmem | hmem
  · cases hmem
  · rcases mem_or_eq_of_mem_intercalate hmem with hmem | ⟨id, hid, hmem⟩
    · cases hmem
    · obtain ⟨x, rfl⟩ := h id hid
      exact absurd (x.isNameCharacter_of_mem_pgid hmem) (by decide)
  · cases hmem

theorem Registered.isClosed_ignoreLiteral {o : Overrides} (h : o.Registered) :
    isClosed o.ignoreLiteral := by
  unfold isClosed ignoreLiteral
  rw [Sql.through_literal h.quote_not_mem]
  rfl

theorem isClosed_pathList (o : Overrides) : isClosed o.pathList := by
  unfold isClosed pathList
  rw [Sql.through_names]
  cases o.schemas <;> rfl

theorem trimEnd_ignoreLiteral (o : Overrides) : Text.trimEnd o.ignoreLiteral = o.ignoreLiteral := by
  have hquote : Text.isBlank '\'' = false := by decide
  have := Sql.trimEnd_append (a := '\'' :: ('\x7b' :: (",".intercalate o.ignored.keys).toList ++
    ['\x7d'])) hquote []
  exact this

theorem trimEnd_pathList (o : Overrides) : Text.trimEnd o.pathList = o.pathList := by
  by_cases hschemas : o.schemas = []
  · unfold pathList
    rw [hschemas]
    rfl
  · obtain ⟨a, ha⟩ := Sql.names_eq_append_quote hschemas
    unfold pathList
    rw [ha]
    exact Sql.trimEnd_append (by decide) []

end Overrides

/-! ## Due statements -/

theorem setPathSql_ne_empty (path : String) : setPathSql path ≠ "" := by
  intro h
  have htext := congrArg String.toList h
  unfold setPathSql at htext
  rw [String.toList_append, String.toList_append] at htext
  cases htext

namespace Session

/-- What is known about a variable. -/
def setting (s : Session) : Variable → Setting
  | .ignore => s.ignore
  | .path => s.path

@[simp] theorem setting_ignore (s : Session) : s.setting .ignore = s.ignore := rfl

@[simp] theorem setting_path (s : Session) : s.setting .path = s.path := rfl

theorem setting_committed (s : Session) (x : Variable) :
    s.committed.setting x = (s.setting x).committed := by
  cases x <;> rfl

theorem setting_rolledBack (s : Session) (x : Variable) :
    s.rolledBack.setting x = (s.setting x).rolledBack := by
  cases x <;> rfl

@[simp] theorem setting_status (s : Session) (status : TransactionStatus) (x : Variable) :
    ({ s with status } : Session).setting x = s.setting x := by
  cases x <;> rfl

/-- What is known of the search path before the first session on it is closed. -/
def PathClosed (s : Session) : Prop := ∀ path, s.initialPath = some path → isClosed path.toList

/-- Whether a session sends nothing before a statement, whatever it owes. -/
def holdsBack (s : Session) (statement : String) : Bool :=
  s.status = .inError || Sql.isConcurrent statement.toList

theorem holdsBack_eq_false {s : Session} {statement : String} (hstatus : s.status ≠ .inError)
    (hconcurrent : Sql.isConcurrent statement.toList = false) : s.holdsBack statement = false := by
  unfold holdsBack
  rw [hconcurrent]
  simpa using hstatus

/-- The statement that gives a connection its own search path back. -/
def undoPathStatement (path : String) : List Char :=
  (Effect.setLead .path false).toList ++ Text.trimEnd path.toList

/-- The undoings that go before a statement. -/
def undoings (ignore path : Bool) (initial : Option String) : List (List Char) :=
  (if ignore then [resetIgnore] else []) ++
    (if path then initial.elim [] fun path => [undoPathStatement path] else [])

/-- What open sessions need before a statement. -/
def settings (s : Session) (o : Overrides) (isLocal : Bool) : List (List Char) :=
  (if s.ignore.sessions = 0 then []
    else [(Effect.setLead .ignore isLocal).toList ++ o.ignoreLiteral]) ++
  (if s.path.sessions = 0 || o.schemas.isEmpty then []
    else [(Effect.setLead .path isLocal).toList ++ Text.trimEnd o.pathList])

/-- The statements that go before a statement: undoings first, then what open sessions need. -/
def dues (s : Session) (o : Overrides) (isLocal : Bool) : List (List Char) :=
  undoings s.ignore.pending s.path.pending s.initialPath ++ s.settings o isLocal

theorem announces_undoPath {s : Session} (h : s.PathClosed) :
    Announces (s.undoPath?.getD "").toList
      (s.initialPath.elim [] fun path => [undoPathStatement path]) := by
  unfold undoPath?
  cases hpath : s.initialPath with
  | none => exact Announces.nil
  | some path =>
    have hclosed : isClosed ((Effect.setLead .path false).toList ++ path.toList) := by
      rw [isClosed_setLead]
      exact h path hpath
    have htext : (setPathSql path).toList =
        (Effect.setLead .path false).toList ++ path.toList ++ [';'] := by
      unfold setPathSql
      rw [String.toList_append, String.toList_append]
      rfl
    show Announces (setPathSql path).toList [undoPathStatement path]
    rw [htext]
    exact announces_set hclosed

theorem statements_undoPath {s : Session} (h : s.PathClosed) {sql : String}
    (hsql : s.undoPath? = some sql) :
    ∃ path, s.initialPath = some path ∧
      Sql.statements sql.toList = [undoPathStatement path] := by
  have hstatements := (announces_undoPath h).statements_eq
  rw [hsql, Option.getD_some] at hstatements
  obtain ⟨path, hpath, -⟩ := Option.map_eq_some_iff.1 hsql
  rw [hpath] at hstatements
  exact ⟨path, hpath, hstatements⟩

end Session

/-- Whether a control statement begins something that settings have to be sent inside of. -/
def Sql.Control.entersBlock (c : Control) : Bool := c = .opens || c = .savepoint

namespace Setting

theorem payReset_text (s : Setting) (undo : String) :
    (s.payReset undo).1 = if s.pending then undo else "" := by
  unfold payReset
  split <;> rfl

/-- A setting whose undoing went out, if one was pending. -/
def paid (s : Setting) : Setting := if s.pending then s.resetSent else s

theorem payReset_setting (s : Setting) (undo : String) : (s.payReset undo).2 = s.paid := by
  unfold payReset paid
  split <;> rfl

theorem paid_sessions (s : Setting) : s.paid.sessions = s.sessions := by
  unfold paid
  split <;> rfl

theorem apply_text (s : Setting) (set : Option String) (isLocal : Bool) :
    (s.apply set isLocal).1 = if s.sessions = 0 then "" else set.getD "" := by
  unfold apply
  split
  next =>
    split
    next => rfl
    next => split <;> rfl
  next => split <;> rfl

/-- A setting after what goes before a statement: its undoing first, if one is pending, then what
`something` says is set for an open session. -/
def setAlong (s : Setting) (isLocal something : Bool) : Setting :=
  if s.sessions = 0 || isLocal || !something then s.paid
  else { s.paid with dirty := true, uncommitted := false }

theorem setAlong_eq (s : Setting) (undo : String) (set : Option String) (isLocal : Bool) :
    ((s.payReset undo).2.apply set isLocal).2 = s.setAlong isLocal set.isSome := by
  rw [payReset_setting]
  unfold setAlong apply
  rw [paid_sessions]
  cases set with
  | none => simp
  | some sql =>
    by_cases ht : s.sessions = 0
    · simp [ht]
    · cases isLocal <;> simp [ht, paid_sessions]

end Setting

namespace Session

/-- The text of a preamble. -/
theorem preamble_text {s : Session} {statement : String} (hback : s.holdsBack statement = false)
    (o : Overrides) (inBatch : Bool) :
    (s.preamble o statement inBatch).1 =
      (if s.ignore.pending then resetIgnoreSql else "") ++
        (if s.path.pending then s.undoPath?.getD "" else "") ++
        (if s.ignore.sessions = 0 then ""
          else o.ignoreSql (inBatch || s.status = .inTransaction)) ++
        if s.path.sessions = 0 then ""
        else (o.pathSql? (inBatch || s.status = .inTransaction)).getD "" := by
  unfold holdsBack at hback
  unfold preamble
  rw [hback]
  simp only [Bool.false_eq_true, if_false]
  rw [Setting.payReset_text, Setting.payReset_text, Setting.apply_text, Setting.apply_text,
    Setting.payReset_setting, Setting.payReset_setting, Setting.paid_sessions,
    Setting.paid_sessions, Option.getD_some]

/-- A preamble without a text has nothing to undo and nothing to set. -/
theorem nothing_due {s : Session} {o : Overrides} {x : Variable}
    (hknown : x = .path → s.initialPath = none → s.path = {}) {statement : String} {inBatch : Bool}
    (hback : s.holdsBack statement = false) (hempty : (s.preamble o statement inBatch).1 = "") :
    (s.setting x).pending = false ∧ ((s.setting x).sessions = 0 ∨ o.speaksOf x = false) := by
  rw [preamble_text hback] at hempty
  simp only [String.append_eq_empty_iff] at hempty
  obtain ⟨⟨⟨hreset, hundo⟩, hset⟩, hsearch⟩ := hempty
  cases x with
  | ignore =>
    refine ⟨?_, .inl ?_⟩
    · show s.ignore.pending = false
      split at hreset
      next => exact absurd hreset (by decide)
      next hpending => simpa using hpending
    · show s.ignore.sessions = 0
      split at hset
      next hsessions => exact hsessions
      next => exact absurd hset (o.ignoreSql_ne_empty _)
  | path =>
    refine ⟨?_, ?_⟩
    · show s.path.pending = false
      split at hundo
      next hpending =>
        -- what is pending on the search path can be undone
        cases hinitial : s.initialPath with
        | none =>
          rw [hknown rfl hinitial] at hpending
          cases hpending
        | some path =>
          unfold undoPath? at hundo
          rw [hinitial] at hundo
          exact absurd hundo (setPathSql_ne_empty path)
      next hpending => simpa using hpending
    · show s.path.sessions = 0 ∨ (!o.schemas.isEmpty) = false
      split at hsearch
      next hsessions => exact .inl hsessions
      next =>
        cases hsql : o.pathSql? (inBatch || s.status = .inTransaction) with
        | none => exact .inr (by rw [Overrides.pathSql?_eq_none hsql]; rfl)
        | some sql =>
          rw [hsql] at hsearch
          exact absurd hsearch (Overrides.pathSql_ne_empty hsql)

/-- A preamble is a row of statements in front of the batch it is put before. -/
theorem announces_preamble {s : Session} {o : Overrides} {statement : String} (inBatch : Bool)
    (hback : s.holdsBack statement = false) (hpath : s.PathClosed) (ho : o.Registered) :
    Announces (s.preamble o statement inBatch).1.toList
      (s.dues o (inBatch || s.status = .inTransaction)) := by
  rw [preamble_text hback]
  generalize (inBatch || decide (s.status = .inTransaction)) = isLocal
  unfold dues undoings settings
  rw [String.toList_append, String.toList_append, String.toList_append, List.append_assoc,
    List.append_assoc, List.append_assoc]
  refine .append ?_ (.append ?_ (.append ?_ ?_))
  · split
    next => exact announces_resetIgnore
    next => exact .nil
  · split
    next => exact announces_undoPath hpath
    next => exact .nil
  · split
    next => exact .nil
    next =>
      have hclosed : isClosed ((Effect.setLead .ignore isLocal).toList ++ o.ignoreLiteral) := by
        rw [isClosed_setLead]
        exact ho.isClosed_ignoreLiteral
      rw [o.ignoreSql_eq]
      have := announces_set hclosed
      rwa [o.trimEnd_ignoreLiteral] at this
  · by_cases hsessions : s.path.sessions = 0
    · simpa [hsessions] using Announces.nil
    · cases hsql : o.pathSql? isLocal with
      | none =>
        rw [if_neg hsessions]
        simpa [Overrides.pathSql?_eq_none hsql] using Announces.nil
      | some sql =>
        obtain ⟨hschemas, htext⟩ := Overrides.pathSql_eq hsql
        have hclosed : isClosed ((Effect.setLead .path isLocal).toList ++ o.pathList) := by
          rw [isClosed_setLead]
          exact o.isClosed_pathList
        simpa [hsessions, hschemas, htext] using announces_set hclosed

/-- What is known after a preamble. -/
theorem preamble_session (s : Session) (o : Overrides) (statement : String) (inBatch : Bool) :
    (s.preamble o statement inBatch).2 =
      if s.holdsBack statement then s
      else
        { s with
          ignore := s.ignore.setAlong (inBatch || s.status = .inTransaction) true
          path := s.path.setAlong (inBatch || s.status = .inTransaction) (!o.schemas.isEmpty) } := by
  unfold preamble holdsBack
  by_cases hback : (decide (s.status = .inError) || Sql.isConcurrent statement.toList) = true
  · rw [if_pos hback, if_pos hback]
  · rw [if_neg hback, if_neg hback]
    generalize (inBatch || decide (s.status = .inTransaction)) = isLocal
    have hsome : (o.pathSql? isLocal).isSome = !o.schemas.isEmpty := by
      unfold Overrides.pathSql?
      cases o.schemas.isEmpty <;> rfl
    simp only [Setting.setAlong_eq, hsome, Option.isSome_some]

theorem setting_preamble {s : Session} {statement : String} (hback : s.holdsBack statement = false)
    (o : Overrides) (inBatch : Bool) (x : Variable) :
    (s.preamble o statement inBatch).2.setting x =
      (s.setting x).setAlong (inBatch || s.status = .inTransaction) (o.speaksOf x) := by
  rw [preamble_session, hback]
  cases x <;> rfl

theorem preamble_of_holdsBack {s : Session} {statement : String} (h : s.holdsBack statement)
    (o : Overrides) (inBatch : Bool) : s.preamble o statement inBatch = ("", s) :=
  if_pos h

/-- No undoing controls a transaction. -/
theorem ofStatement?_of_mem_undoings {ignore path : Bool} {initial : Option String}
    {d : List Char} (h : d ∈ undoings ignore path initial) : Control.ofStatement? d = none := by
  unfold undoings at h
  rcases List.mem_append.1 h with h | h
  · split at h
    next =>
      rw [List.mem_singleton.1 h]
      exact ofStatement?_resetIgnore
    next => cases h
  · split at h
    next =>
      cases initial with
      | none => cases h
      | some path =>
        rw [List.mem_singleton.1 h]
        exact ofStatement?_setLead _ _ _
    next => cases h

/-- No due statement controls a transaction. -/
theorem ofStatement?_of_mem_dues {s : Session} {o : Overrides} {isLocal : Bool} {d : List Char}
    (h : d ∈ s.dues o isLocal) : Control.ofStatement? d = none := by
  unfold dues settings at h
  simp only [List.mem_append] at h
  rcases h with h | h | h
  · exact ofStatement?_of_mem_undoings h
  all_goals
    split at h
    next => cases h
    next =>
      rw [List.mem_singleton.1 h]
      exact ofStatement?_setLead _ _ _

/-- What is owed at the end is a row of undoings. -/
theorem announces_owed {s : Session} (h : s.PathClosed) :
    Announces s.owed.toList (undoings s.ignore.isOwed s.path.isOwed s.initialPath) := by
  unfold owed undoings
  rw [String.toList_append]
  refine .append ?_ ?_
  · split
    next => exact announces_resetIgnore
    next => exact .nil
  · split
    next => exact announces_undoPath h
    next => exact .nil

/-! ## Batches with a preamble -/

theorem preamble_status (s : Session) (o : Overrides) (statement : String) (inBatch : Bool) :
    (s.preamble o statement inBatch).2.status = s.status ∧
      (s.preamble o statement inBatch).2.initialPath = s.initialPath := by
  rw [preamble_session]
  split <;> exact ⟨rfl, rfl⟩

/-- In front of an ordinary statement a preamble comes first. -/
theorem withPreamble_of_ordinary {sql : String}
    (h : Control.ofStatement? ((Sql.statements sql.toList).headD []) = none) (s : Session)
    (o : Overrides) :
    s.withPreamble o sql = ((s.preamble o sql true).1 ++ sql, (s.preamble o sql true).2) := by
  unfold withPreamble
  simp only [h]

/-- Behind a statement that opens a transaction or a savepoint a preamble comes second. -/
theorem withPreamble_of_split {sql : String} {c : Control} {head rest : List Char}
    (hc : Control.ofStatement? ((Sql.statements sql.toList).headD []) = some c)
    (henters : c.entersBlock) (hsplit : Sql.splitStatement? sql.toList = some (head, rest))
    (hrest : Control.ofStatement? rest = none) (s : Session) (o : Overrides) :
    s.withPreamble o sql =
      (String.ofList head ++ (s.preamble o (String.ofList rest) true).1 ++ String.ofList rest,
        (s.preamble o (String.ofList rest) true).2) := by
  unfold withPreamble
  rcases c with _ | _ | _ | _ | _ | _ <;> simp_all [Control.entersBlock]

/-- Every other batch is sent as it is. -/
theorem withPreamble_of_control {sql : String} {c : Control}
    (hc : Control.ofStatement? ((Sql.statements sql.toList).headD []) = some c)
    (h : c.entersBlock → ∀ head rest, Sql.splitStatement? sql.toList = some (head, rest) →
      Control.ofStatement? rest ≠ none) (s : Session) (o : Overrides) :
    s.withPreamble o sql = (sql, s) := by
  unfold withPreamble
  rcases hsplit : Sql.splitStatement? sql.toList with _ | ⟨head, rest⟩
  · rcases c with _ | _ | _ | _ | _ | _ <;> simp_all
  · rcases hrest : Control.ofStatement? rest with _ | d
    · rcases c with _ | _ | _ | _ | _ | _ <;> simp_all [Control.entersBlock]
    · rcases c with _ | _ | _ | _ | _ | _ <;> simp_all

theorem preamble_announces {s : Session} (hpath : s.PathClosed) {o : Overrides}
    (ho : o.Registered) (statement : String) (inBatch : Bool) :
    ∃ ds, Announces (s.preamble o statement inBatch).1.toList ds ∧
      ∀ d ∈ ds, Control.ofStatement? d = none := by
  cases hback : s.holdsBack statement with
  | true =>
    rw [preamble_of_holdsBack hback]
    exact ⟨[], .nil, by simp⟩
  | false =>
    exact ⟨_, announces_preamble inBatch hback hpath ho, fun d hd => ofStatement?_of_mem_dues hd⟩

/-- Where the preamble of a batch goes: before it, behind its first statement, or nowhere. -/
inductive Placed (s : Session) (o : Overrides) (sql : String) : String × Session → Prop where
  | first : Control.ofStatement? ((Sql.statements sql.toList).headD []) = none →
      Placed s o sql ((s.preamble o sql true).1 ++ sql, (s.preamble o sql true).2)
  | second {c : Control} {head rest : List Char} :
      Control.ofStatement? ((Sql.statements sql.toList).headD []) = some c → c.entersBlock →
      Sql.splitStatement? sql.toList = some (head, rest) → Control.ofStatement? rest = none →
      Placed s o sql
        (String.ofList head ++ (s.preamble o (String.ofList rest) true).1 ++ String.ofList rest,
          (s.preamble o (String.ofList rest) true).2)
  | nowhere {c : Control} :
      Control.ofStatement? ((Sql.statements sql.toList).headD []) = some c →
      (c.entersBlock → ∀ head rest, Sql.splitStatement? sql.toList = some (head, rest) →
        Control.ofStatement? rest ≠ none) → Placed s o sql (sql, s)

theorem placed_withPreamble (s : Session) (o : Overrides) (sql : String) :
    Placed s o sql (s.withPreamble o sql) := by
  cases hc : Control.ofStatement? ((Sql.statements sql.toList).headD []) with
  | none =>
    rw [withPreamble_of_ordinary hc]
    exact .first hc
  | some c =>
    by_cases hsplit : c.entersBlock ∧ ∃ head rest,
        Sql.splitStatement? sql.toList = some (head, rest) ∧ Control.ofStatement? rest = none
    · obtain ⟨henters, head, rest, hsplit, hrest⟩ := hsplit
      rw [withPreamble_of_split hc henters hsplit hrest]
      exact .second hc henters hsplit hrest
    · have hnone : c.entersBlock → ∀ head rest, Sql.splitStatement? sql.toList = some (head, rest) →
          Control.ofStatement? rest ≠ none :=
        fun henters head rest hhead hrest => hsplit ⟨henters, head, rest, hhead, hrest⟩
      rw [withPreamble_of_control hc hnone]
      exact .nowhere hc hnone

/-- However a batch is sent, its own statements are all there, and what was put between them
controls nothing. -/
theorem statements_withPreamble {s : Session} (hpath : s.PathClosed) {o : Overrides}
    (ho : o.Registered) (sql : String) :
    ∃ pre ds post, Sql.statements sql.toList = pre ++ post ∧
      Sql.statements (s.withPreamble o sql).1.toList = pre ++ ds ++ post ∧
      ∀ d ∈ ds, Control.ofStatement? d = none := by
  have hplaced := placed_withPreamble s o sql
  generalize s.withPreamble o sql = sent at hplaced ⊢
  cases hplaced with
  | first =>
    obtain ⟨ds, hannounces, hds⟩ := preamble_announces hpath ho sql true
    refine ⟨[], ds, Sql.statements sql.toList, rfl, ?_, hds⟩
    rw [String.toList_append, hannounces, List.nil_append]
  | @second c head rest _ _ hsplit _ =>
    obtain ⟨first, hput, hall⟩ := Sql.statements_of_split hsplit
    obtain ⟨ds, hannounces, hds⟩ := preamble_announces hpath ho (String.ofList rest) true
    refine ⟨[first], ds, Sql.statements rest, hall, ?_, hds⟩
    rw [String.toList_append, String.toList_append, String.toList_ofList, String.toList_ofList,
      List.append_assoc, hput, hannounces]
    rfl
  | nowhere => exact ⟨[], [], Sql.statements sql.toList, rfl, rfl, by simp⟩

theorem withPreamble_status (s : Session) (o : Overrides) (sql : String) :
    (s.withPreamble o sql).2.status = s.status ∧
      (s.withPreamble o sql).2.initialPath = s.initialPath := by
  have hplaced := placed_withPreamble s o sql
  generalize s.withPreamble o sql = sent at hplaced ⊢
  cases hplaced with
  | first | second => exact preamble_status s o _ _
  | nowhere => exact ⟨rfl, rfl⟩

end Session

end DeclaredTriggers
