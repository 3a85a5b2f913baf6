import DeclaredTriggers.Connection.Script
import DeclaredTriggers.Proofs.Session.Searching
import DeclaredTriggers.Proofs.Sql.Concurrent
import DeclaredTriggers.Proofs.Sql.Tokens

/-!
# What goes before a concurrent build

An index cannot be built concurrently inside a transaction. Settings that go out in the same request as a statement
would put it into one, so a client says nothing in front of a statement that it takes for such a build. It does
not look at more than the letters, and it looks for the first word behind blanks only.

What a single statement is led by is one text (`Session.leading`), and for all statements that are taken for neither
a build nor transaction control it is the same (`Session.said`). From that and from what the letters tell:

> `Group.concurrent_untouched_iff`: where a client has anything to say, a concurrent build goes out as it is exactly
> if no comment stands in front of it; and any statement that creates something is led like all others exactly if a
> comment does stand in front, or the letters of the word occur nowhere in it.
-/

namespace DeclaredTriggers

open Sql (Control Creates BuildsConcurrently)

/-! ## What leads a statement -/

/-- The requests for a statement that is led by `text`: a batch goes out behind it, in the same request. A statement
with parameters goes out behind a batch of its own, and not at all if that is refused. -/
def Request.Led (q : Request) (text : String) (reqs : List Request) : Prop :=
  match q with
  | .batch sql => reqs = [.batch (text ++ sql)]
  | .prepared sql params =>
    if text = "" then reqs = [.prepared sql params]
    else reqs = [.batch text] ∨ reqs = [.batch text, .prepared sql params]

namespace Request.Led

variable {q : Request} {text : String} {reqs : List Request}

/-- A statement goes out as it is exactly if nothing leads it. -/
theorem untouched_iff (h : q.Led text reqs) : reqs = [q] ↔ text = "" := by
  cases q with
  | batch sql =>
    obtain rfl : reqs = [.batch (text ++ sql)] := h
    rw [List.cons.injEq, and_iff_left rfl, Request.batch.injEq]
    exact String.append_eq_right_iff
  | prepared sql params =>
    unfold Led at h
    dsimp only at h
    by_cases htext : text = ""
    · rw [if_pos htext] at h
      exact iff_of_true h htext
    · rw [if_neg htext] at h
      refine iff_of_false ?_ htext
      rcases h with rfl | rfl <;> simp

/-- Only one text leads a statement. -/
theorem unique {text' : String} (h : q.Led text reqs) (h' : q.Led text' reqs) : text = text' := by
  cases q with
  | batch sql =>
    have hsame : [Request.batch (text ++ sql)] = [.batch (text' ++ sql)] := h.symm.trans h'
    rw [List.cons.injEq, and_iff_left rfl, Request.batch.injEq] at hsame
    exact (String.append_left_inj sql).1 hsame
  | prepared sql params =>
    unfold Led at h h'
    dsimp only at h h'
    -- the first request tells whether anything leads the statement, and what
    split at h <;> split at h'
    next htext htext' => rw [htext, htext']
    next => rcases h' with rfl | rfl <;> simp at h
    next => rcases h with rfl | rfl <;> simp at h'
    next => rcases h with rfl | rfl <;> simpa using h'

end Request.Led

namespace Session

variable {s : Session} {o : Overrides}

/-- What a session says in front of a statement that is not taken for concurrent. -/
def said (s : Session) (o : Overrides) : Request → String
  | .batch _ => (s.preamble o "" true).1
  | .prepared _ _ => (s.preamble o "" false).1

/-- Whether anything has to be said in front of a statement: outside a failed transaction, what is to be undone and
what sessions need. -/
def IsDue (s : Session) (o : Overrides) : Prop :=
  s.status ≠ .inError ∧ ∃ x, (s.setting x).pending ∨ (s.setting x).sessions ≠ 0 ∧ o.speaksOf x

/-- Statements that are not taken for concurrent are led by the same. -/
theorem preamble_of_not_concurrent {statement : String} (h : Sql.isConcurrent statement.toList = false)
    (inBatch : Bool) : s.preamble o statement inBatch = s.preamble o "" inBatch := by
  have hempty : Sql.isConcurrent "".toList = false := by decide
  unfold preamble
  rw [h, hempty]

/-- With nothing to undo and nothing to set, nothing is said. -/
theorem preamble_eq_empty (h : ∀ x, (s.setting x).pending = false ∧ ((s.setting x).sessions = 0 ∨ o.speaksOf x = false))
    {statement : String} (hback : s.holdsBack statement = false) (inBatch : Bool) :
    (s.preamble o statement inBatch).1 = "" := by
  obtain ⟨hreset, hignore⟩ := h .ignore
  obtain ⟨hundo, hsearch⟩ := h .path
  have hset : s.ignore.sessions = 0 := hignore.resolve_right nofun
  rw [preamble_text hback, if_pos hset, show s.ignore.pending = false from hreset,
    show s.path.pending = false from hundo]
  rcases hsearch with hnone | hempty
  · rw [if_pos (show s.path.sessions = 0 from hnone)]
    rfl
  · have hschemas : o.schemas.isEmpty := by simpa [Overrides.speaksOf] using hempty
    unfold Overrides.pathSql?
    rw [if_pos hschemas]
    simp

theorem said_eq_empty_iff (hknown : s.initialPath = none → s.path = {}) (q : Request) :
    s.said o q = "" ↔ ¬ s.IsDue o := by
  have hsaid : ∀ inBatch, (s.preamble o "" inBatch).1 = "" ↔ ¬ s.IsDue o := by
    intro inBatch
    unfold IsDue
    by_cases herror : s.status = .inError
    · have hback : s.holdsBack "" := by simp [holdsBack, herror]
      rw [preamble_of_holdsBack hback]
      simp [herror]
    · have hback : s.holdsBack "" = false := by
        simp only [holdsBack, herror, decide_false, Bool.false_or]
        decide
      have hnothing : (¬∃ x, (s.setting x).pending ∨ (s.setting x).sessions ≠ 0 ∧ o.speaksOf x) ↔
          ∀ x, (s.setting x).pending = false ∧ ((s.setting x).sessions = 0 ∨ o.speaksOf x = false) := by
        simp only [not_exists, not_or, not_and_or, not_not, Bool.not_eq_true]
      rw [and_iff_right herror, hnothing]
      exact ⟨fun hempty x => nothing_due (fun _ => hknown) hback hempty, fun h => preamble_eq_empty h hback inBatch⟩
  cases q with
  | batch sql => exact hsaid true
  | prepared sql params => exact hsaid false

/-- A preamble is what is said, or nothing in front of what is taken for concurrent. -/
theorem preamble_said (s : Session) (o : Overrides) (statement : String) (inBatch : Bool) :
    (s.preamble o statement inBatch).1 =
      if Sql.isConcurrent statement.toList then "" else (s.preamble o "" inBatch).1 := by
  split
  next hconcurrent => rw [preamble_of_holdsBack (by simp [holdsBack, hconcurrent])]
  next hconcurrent => rw [preamble_of_not_concurrent (Bool.eq_false_iff.2 hconcurrent)]

/-- What leads a single statement: nothing if it is taken for transaction control or for concurrent, and otherwise
what is said. -/
def leading (s : Session) (o : Overrides) (m : Move) (q : Request) : String :=
  if m.covered?.isNone || Sql.isConcurrent q.sql.toList then "" else s.said o q

theorem leading_eq_empty_iff {m : Move} {q : Request} :
    s.leading o m q = "" ↔ m.covered? = none ∨ Sql.isConcurrent q.sql.toList ∨ s.said o q = "" := by
  unfold leading
  split
  next hnothing =>
    rw [Bool.or_eq_true, Option.isNone_iff_eq_none] at hnothing
    exact iff_of_true rfl (hnothing.imp_right .inl)
  next hsaid =>
    rw [Bool.or_eq_true, Option.isNone_iff_eq_none, not_or] at hsaid
    rw [or_iff_right hsaid.1, or_iff_right hsaid.2]

theorem leading_eq_said_iff {m : Move} {q : Request} :
    s.leading o m q = s.said o q ↔ (m.covered? ≠ none ∧ Sql.isConcurrent q.sql.toList = false) ∨ s.said o q = "" := by
  unfold leading
  split
  next hnothing =>
    rw [Bool.or_eq_true, Option.isNone_iff_eq_none] at hnothing
    rw [eq_comm, or_iff_right]
    rintro ⟨hcovered, hnot⟩
    rcases hnothing with hnone | hconcurrent
    · exact hcovered hnone
    · rw [hnot] at hconcurrent
      cases hconcurrent
  next hsaid =>
    rw [Bool.or_eq_true, Option.isNone_iff_eq_none, not_or, Bool.not_eq_true] at hsaid
    exact iff_of_true rfl (.inl hsaid)

theorem withPreamble_leading {sql : String} (hsingle : Sql.splitStatement? sql.toList = none) :
    (s.withPreamble o sql).1 = s.leading o (.batch sql) (.batch sql) ++ sql := by
  unfold leading
  cases hc : Control.ofStatement? ((Sql.statements sql.toList).headD []) with
  | none =>
    have hcovered : (Move.batch sql).covered? = some ([], sql) := by
      show covered? sql = _
      unfold covered?
      rw [hc]
    rw [withPreamble_of_ordinary hc, preamble_said, hcovered]
    rfl
  | some c =>
    have hcovered : covered? sql = none := by
      unfold covered?
      rw [hc]
      dsimp only
      rw [hsingle]
      exact ite_self none
    rw [withPreamble_of_uncovered hcovered, show (Move.batch sql).covered? = none from hcovered]
    exact String.empty_append.symm

theorem lead_leading (s : Session) (o : Overrides) (sql : String) (params : List String) :
    (s.lead o sql).1 =
      let text := s.leading o (.prepared sql params) (.prepared sql params)
      if text = "" then none else some text := by
  unfold leading lead Move.covered?
  by_cases hcontrol : (controlOf? sql).isNone
  · simp only [if_pos hcontrol, Option.isNone_some, Bool.false_or]
    rw [preamble_said]
    exact ite_not _ _ _
  · simp only [if_neg hcontrol]
    rfl

/-- A single statement is led by what leads it, by whatever move it is sent. -/
theorem Goes.led {m : Move} {reqs : List Request} {ok : Bool} {s' : Session} (h : s.Goes o m reqs ok s') {q : Request}
    (hq : m.request? = some q) (hsingle : Sql.splitStatement? q.sql.toList = none) :
    q.Led (s.leading o m q) reqs := by
  cases h with
  | batch sql =>
    obtain rfl := Option.some.inj hq
    exact congrArg (fun text => [Request.batch text]) (withPreamble_leading hsingle)
  | @prepared sql params _ _ _ howns =>
    obtain rfl := Option.some.inj hq
    rw [lead_leading s o sql params] at howns
    unfold Request.Led
    dsimp only at howns ⊢
    split at howns
    next htext =>
      cases howns
      rw [if_pos htext]
      rfl
    next htext =>
      cases howns
      rw [if_neg htext]
      exact .inr rfl
  | @unled sql params _ _ howns =>
    obtain rfl := Option.some.inj hq
    rw [lead_leading s o sql params] at howns
    unfold Request.Led
    dsimp only at howns ⊢
    split at howns
    next => cases howns
    next htext =>
      cases howns
      rw [if_neg htext]
      exact .inl rfl
  | openIgnore | closeIgnore | captured | uncaptured | openPath | closePath | rest => cases hq

end Session

namespace Group

variable {σ : Type} [Server σ] {n : Nat} {g : Group σ n} {i : Fin n}

/-- How a single statement that creates something is sent, after any run of a client that starts with nothing open. If
it builds an index concurrently, it goes out as it is exactly if no comment stands in front of it, or it is taken for
transaction control, or nothing is due. And it is led by what leads all other statements exactly if nothing is due,
or if it is not taken for control and a comment stands in front or `concurrently` occurs nowhere in it, be it in a
string, in a comment or in a name. -/
theorem concurrent_untouched_iff {status : TransactionStatus} (hstart : (g.client i).session = { status })
    (steps : List (Fin n × Call)) (hopen : ((g.run steps).client i).wire.isOpen) {call : Call} {q : Request}
    (hq : (((g.run steps).client i).move call).request? = some q)
    (hsingle : Sql.splitStatement? q.sql.toList = none) {commented : Bool}
    (hcreates : Creates commented q.sql.toList) :
    let c := (g.run steps).client i
    ∃ reqs, (c.after call).journal.sent = c.journal.sent ++ reqs.map (c.wire.number, ·) ∧
      (BuildsConcurrently commented q.sql.toList →
        (reqs = [q] ↔
          commented = false ∨ (c.move call).covered? = none ∨ ¬ c.session.IsDue c.overrides)) ∧
      (q.Led (c.session.said c.overrides q) reqs ↔
        ((c.move call).covered? ≠ none ∧
          (commented = true ∨ ¬"concurrently".toList <:+: Sql.lower q.sql.toList)) ∨
            ¬ c.session.IsDue c.overrides) := by
  intro c
  obtain ⟨reqs, ok, hgoes⟩ := c.goes_after call
  have hled := hgoes.session.led hq hsingle
  have hdue : c.session.said c.overrides q = "" ↔ ¬ c.session.IsDue c.overrides :=
    Session.said_eq_empty_iff (sound_run hstart steps).1.known q
  refine ⟨reqs, ?_, fun hbuilds => ?_, ?_⟩
  · rw [hgoes.sent.sent, if_pos hopen]
  · rw [hled.untouched_iff, Session.leading_eq_empty_iff, hdue, hbuilds.isConcurrent_eq, Bool.not_eq_true',
      or_left_comm]
  · have hconcurrent : Sql.isConcurrent q.sql.toList = false ↔
        commented = true ∨ ¬"concurrently".toList <:+: Sql.lower q.sql.toList := by
      rw [hcreates.isConcurrent_eq, Bool.and_eq_false_iff, Bool.not_eq_false', decide_eq_false_iff_not]
    rw [← hconcurrent, ← hdue, ← Session.leading_eq_said_iff]
    constructor
    · exact fun h => hled.unique h
    · intro h
      rw [← h]
      exact hled

/-- One client of a server that does everything. -/
def alone : Group Script 1 where
  seats := #v[{ wire := { server := [] } }]
  worker := .replicate 1 0

/-- While a session is open, a build is not sent as it is if a comment stands in front of it; and a table is created
outside the session if the default of a column is the word that builds are told by. -/
theorem concurrent_mistaken :
    let g := alone.run [(0, .joinIgnore)]
    let build := "-- nightly\nCREATE INDEX CONCURRENTLY book_id ON book (id)"
    let table := "CREATE TABLE job (mode text DEFAULT 'concurrently')"
    let plain := "CREATE TABLE job (mode text DEFAULT 'nightly')"
    let said := "SET LOCAL pgtrigger.ignore='\x7b\x7d';"
    (BuildsConcurrently true build.toList ∧ Sql.splitStatement? build.toList = none ∧
      (g.after (0, .batch build)).journal.sent = [(0, .batch (said ++ build))]) ∧
    (Creates false table.toList ∧ Sql.splitStatement? table.toList = none ∧
      (∀ t ∈ Sql.tokens table.toList, t.isKeyword "CONCURRENTLY" = false) ∧
      (g.after (0, .batch table)).journal.sent = [(0, .batch table)] ∧
      (g.after (0, .batch plain)).journal.sent = [(0, .batch (said ++ plain))]) := by
  intro g build table plain said
  have hblank : Sql.Space false [' '] := .blank rfl .nil
  have hne : [' '] ≠ [] := nofun
  have hcomment : Sql.Space true "-- nightly\n".toList :=
    @Sql.Space.line false " nightly".toList [] '\n' (by decide) (.inl rfl) .nil
  have htext : build.toList = "-- nightly\n".toList ++ ("CREATE".toList ++ ([' '] ++ ("INDEX".toList ++
      ([' '] ++ "CONCURRENTLY book_id ON book (id)".toList)))) := by decide
  have hbuilds : BuildsConcurrently true build.toList :=
    ⟨_, _, htext, hcomment, .inl (.more rfl hblank hne (.more rfl hblank hne (.last (by decide))))⟩
  refine ⟨⟨hbuilds, by decide, ?_⟩, ⟨[], _, rfl, .nil, by decide⟩, by decide, by decide, ?_, ?_⟩
  all_goals decide +kernel

/-- A build without a comment is sent as it is, although there is something to say. -/
theorem concurrent_untouched_in_session :
    let c := (alone.run [(0, .joinIgnore)]).client 0
    let build := "create unique index concurrently book_id on book (id)"
    c.session.IsDue c.overrides ∧ (c.after (.batch build)).journal.sent = [(0, .batch build)] := by
  intro c build
  have hblank : Sql.Space false [' '] := .blank rfl .nil
  have hne : [' '] ≠ [] := nofun
  have htext : build.toList = [] ++ ("create".toList ++ ([' '] ++ ("unique".toList ++ ([' '] ++ ("index".toList ++
      ([' '] ++ "concurrently book_id on book (id)".toList)))))) := by decide
  have hlast : Sql.startsWith "CONCURRENTLY" "concurrently book_id on book (id)".toList := by decide
  have hbuilds : BuildsConcurrently false build.toList := by
    refine ⟨[], _, htext, .nil, .inr (.more ?_ hblank hne (.more ?_ hblank hne (.more ?_ hblank hne (.last hlast))))⟩
    all_goals decide
  obtain ⟨reqs, hsent, huntouched, -⟩ := concurrent_untouched_iff (g := alone) (i := 0) rfl [(0, .joinIgnore)] rfl
    (show ((c.move (.batch build)).request? = some (.batch build)) from rfl) (by decide) hbuilds.creates
  obtain rfl := (huntouched hbuilds).2 (.inl rfl)
  have hdue : c.session.IsDue c.overrides := ⟨by decide, .ignore, .inr ⟨by decide, rfl⟩⟩
  refine ⟨hdue, ?_⟩
  rw [hsent]
  have hnew : c.journal.sent = [] ∧ c.wire.number = 0 := ⟨rfl, rfl⟩
  rw [hnew.1, hnew.2]
  rfl

end Group

end DeclaredTriggers
