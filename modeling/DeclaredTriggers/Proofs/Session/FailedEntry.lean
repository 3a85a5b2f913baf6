import DeclaredTriggers.Connection.Script
import DeclaredTriggers.Proofs.Session.Lookalikes
import DeclaredTriggers.Proofs.Session.Nesting

/-!
# What a failed entry leaves

A session that cannot be entered on one of its clients is dropped on those before it. Dropping queues an undoing
where a transaction is open or the search path was set for good, for it cannot know that nothing was said in between.
So a failed entry is not always undone without a trace, and this file says when it is.

> `Roster.failed_entry`: only clients that were asked for their search path change, and in nothing but the path to go
> back to and a pending undoing. If none of them is in a transaction, and no path that was owed is forgotten, then no
> client ever sends anything else than without the entry.

The undoing itself can be seen: in a transaction it leads the next statement (`Roster.failed_entry_queues`), although
nothing was set.
-/

namespace DeclaredTriggers

open Act (result Agree)
open Sql (Control)

/-! ## One client -/

namespace Session

/-- A session with some more sessions on the search path, and another path to go back to. -/
def joined (s : Session) (told : Option String) (more : Nat) : Session :=
  { s with initialPath := told, path := { s.path with sessions := s.path.sessions + more } }

/-- One session fewer; the undoing waits for the next statement. -/
def leave (s : Session) : Session := (s.closePath true).2

/-- Whether leaving the last session queues an undoing. -/
def isReopened (s : Session) : Bool := s.initialPath.isSome && (s.path.dirty || s.status ≠ .idle)

theorem leave_eq (s : Session) : s.leave = { s with path := { s.path with
    sessions := s.path.sessions - 1
    pending := s.path.pending || (s.path.sessions - 1 = 0 && s.isReopened) } } := by
  obtain ⟨status, ignore, ⟨sessions, dirty, pending, uncommitted⟩, initial⟩ := s
  cases initial with
  | none => simp [leave, closePath, Setting.close, isReopened, undoPath?]
  | some path =>
    by_cases hlast : sessions - 1 = 0
    · cases dirty <;> cases status <;>
        simp [leave, closePath, Setting.close, isReopened, undoPath?, hlast]
    · have hmore : 0 < sessions - 1 := by omega
      simp [leave, closePath, Setting.close, isReopened, undoPath?, hlast, hmore]

/-- Leaving all sessions but some. -/
theorem leave_iterate {s : Session} {m k : Nat} (h : s.path.sessions = m + k) :
    leave^[k] s = { s with path := { s.path with
      sessions := m
      pending := s.path.pending || (m = 0 && 0 < k && s.isReopened) } } := by
  induction k generalizing s with
  | zero =>
    rw [Nat.add_zero] at h
    simp [← h]
  | succ k ih =>
    have hfirst : s.leave.path.sessions = m + k := by
      rw [leave_eq]
      show s.path.sessions - 1 = m + k
      omega
    rw [Function.iterate_succ_apply, ih hfirst, leave_eq]
    have hrest : s.path.sessions - 1 = m + k := by omega
    simp only [isReopened, hrest]
    cases k with
    | zero => simp
    | succ k => simp

/-- A session that was told the path to go back to, joined and left again. -/
def visited (s : Session) (told : String) : Session :=
  { s with
    initialPath := some told
    path := { s.path with pending := s.path.pending || (s.path.dirty || s.status ≠ .idle) } }

/-- What was set for good and needs no session, with no undoing pending, was undone in a transaction that is open. -/
theorem Sound.not_idle_of_dirty {s : Session} (h : s.Sound) (hsettled : s.Settled) {x : Variable}
    (hnone : (s.setting x).sessions = 0) (hpending : (s.setting x).pending = false) (hdirty : (s.setting x).dirty) :
    s.status ≠ .idle := by
  intro hidle
  rcases (h.setting x).owed hnone hdirty with howed | hout
  · rw [hpending] at howed
    cases howed
  · rw [hsettled hidle x] at hout
    cases hout

/-- Where nothing was pending, an undoing is if and only if a transaction is open. -/
theorem visited_of_not_pending {s : Session} (h : s.Sound) (hsettled : s.Settled) (hnone : s.path.sessions = 0)
    (hpending : s.path.pending = false) (told : String) :
    s.visited told =
      { s with initialPath := some told, path := { s.path with pending := s.status ≠ .idle } } := by
  have hreset : (s.path.pending || (s.path.dirty || decide (s.status ≠ .idle))) = decide (s.status ≠ .idle) := by
    rw [hpending, Bool.false_or]
    cases hdirty : s.path.dirty with
    | false => rfl
    | true => simp [h.not_idle_of_dirty (x := .path) hsettled hnone hpending hdirty]
  unfold visited
  rw [hreset]

/-- A visit leaves no trace outside a transaction, and none where the undoing of the path that it was told is pending
already. -/
theorem Sound.looksLike_visited {s : Session} (h : s.Sound) (hsettled : s.Settled) (hnone : s.path.sessions = 0)
    {told : String} (hsame : s.path.pending → some told = s.initialPath)
    (hquiet : s.status = .idle ∨ s.path.pending) :
    s.LooksLike (s.visited told) := by
  cases hpending : s.path.pending with
  | true =>
    have hvisited : s.visited told =
        { s with initialPath := s.initialPath, path := { s.path with pending := true } } := by
      unfold visited
      rw [hsame hpending, hpending, Bool.true_or]
    rw [hvisited, ← hpending]
    exact .same
  | false =>
    -- nothing was set and nothing is owed, so the path to go back to does not matter
    have hidle : s.status = .idle := hquiet.resolve_right (by rw [hpending]; exact Bool.false_ne_true)
    have hclean : s.path.dirty = false :=
      Bool.eq_false_iff.2 fun hdirty => h.not_idle_of_dirty (x := .path) hsettled hnone hpending hdirty hidle
    have hvisited : s.visited told =
        { s with initialPath := some told, path := { s.path with pending := false } } := by
      unfold visited
      rw [hpending, hclean, hidle]
      rfl
    rw [hvisited, ← hpending]
    exact .untouched (some told) ((h.setting .path).eq_default hnone hclean hpending)

end Session

namespace Client

variable {σ : Type} [Server σ]

/-- The search path that is shown is the server's answer. -/
theorem path?_of_showPath {c c' : Client σ} {path : String} (h : result showPath c = (.ok path, c')) :
    (Server.receive showPathRequest c.wire.server).1.path? = some path := by
  obtain ⟨answer, c₁, hsent, hrows⟩ := Act.exists_ok_of_result_bind h
  unfold sendRaw at hsent
  rw [Act.result_focus] at hsent
  have hline : (result (Line.send showPathRequest) (⟨c.wire, c.journal⟩ : Line σ)).1 = .ok answer :=
    congrArg Prod.fst hsent
  have hsend : result (Line.send showPathRequest) (⟨c.wire, c.journal⟩ : Line σ) =
    Line.send showPathRequest ⟨c.wire, c.journal⟩ := rfl
  rw [hsend] at hline
  dsimp only [Line.send, ExceptT.mk] at hline
  split at hline
  next =>
    generalize Server.receive showPathRequest c.wire.server = received at hline ⊢
    obtain ⟨reply, server⟩ := received
    cases reply with
    | done rows affected =>
      obtain rfl := Except.ok.inj hline
      cases rows with
      | nil => cases hrows
      | cons row rows =>
        have htext : textAt row 0 = .ok path := by
          have hlift := Act.result_lift (textAt row 0) c₁
          exact (congrArg Prod.fst hlift).symm.trans (congrArg Prod.fst hrows)
        show (textAt row 0).toOption = some path
        rw [htext]
        rfl
    | refused => cases hline
    | closed => cases hline
  next => cases hline

/-- A client that joins a session learns the path to go back to from its server, if it had none open. -/
theorem session_joined {c : Client σ} (hok : (result openPath c).1.toOption.isSome) :
    ∃ told, (c.after .joinPath).session = c.session.joined told 1 ∧
      if c.session.path.sessions = 0 then
        told.isSome ∧ told = (Server.receive showPathRequest c.wire.server).1.path?
      else told = c.session.initialPath := by
  show ∃ told, (result openPath c).2.session = _ ∧ _
  unfold openPath at hok ⊢
  rw [Act.result_bind_ok (Act.result_get c)] at hok ⊢
  split
  next hnone =>
    rw [if_pos hnone] at hok
    obtain ⟨_, r, c', hshow, -, -, -, -, hs⟩ := leads_showPath c
    cases r with
    | error e =>
      rw [Act.result_bind_error hshow] at hok
      cases hok
    | ok path =>
      rw [Act.result_bind_ok hshow]
      refine ⟨some path, ?_, rfl, (path?_of_showPath hshow).symm⟩
      rw [← hs]
      rfl
  next => exact ⟨_, rfl, rfl⟩

/-- A client that cannot join one knows what it knew. -/
theorem session_not_joined {c : Client σ} (hfails : ¬ (result openPath c).1.toOption.isSome) :
    (c.after .joinPath).session = c.session := by
  obtain ⟨reqs, ok, hgoes⟩ := c.goes_after .joinPath
  have hsession : c.session.Goes c.overrides .openPath reqs ok (c.after .joinPath).session := hgoes.session
  have hok : (result openPath c).1.toOption.isSome = ok := hgoes.succeeds
  rw [Bool.not_eq_true, hok] at hfails
  subst hfails
  generalize (c.after .joinPath).session = s at hsession ⊢
  cases hsession with
  | uncaptured => rfl

end Client

/-! ## A row of clients -/

namespace Group

variable {σ τ : Type} {n : Nat}

section

variable [Server σ]

/-- What is asked of a client is nothing to the seats of the others. -/
theorem seat_after_of_ne (g : Group σ n) {i j : Fin n} (h : j ≠ i) (call : Call) :
    ((g.after (j, call)).client i).toSeat = (g.client i).toSeat := by
  obtain ⟨o, hclient, -⟩ := client_withClient_of_ne g h.symm ((g.client j).after call)
  rw [after_eq, hclient]

/-- Each client of a row has as many sessions more as it is in the row, and knows a path to go back to. -/
theorem session_run_joining {row : List (Fin n)} {g : Group σ n} (hall : Along Succeeds g (row.map (·, .joinPath)))
    (i : Fin n) :
    ∃ told, ((g.run (row.map (·, .joinPath))).client i).session = (g.client i).session.joined told (row.count i) ∧
      if 0 < row.count i ∧ (g.client i).session.path.sessions = 0 then
        told.isSome ∧ told = (Server.receive showPathRequest (g.client i).wire.server).1.path?
      else told = (g.client i).session.initialPath := by
  induction row generalizing g with
  | nil => exact ⟨_, rfl, by simp⟩
  | cons j rest ih =>
    obtain ⟨hfirst, hrest⟩ := hall
    obtain ⟨told, hsession, htold⟩ := ih hrest
    by_cases hij : j = i
    · subst hij
      obtain ⟨first, hjoined, hcame⟩ := Client.session_joined hfirst
      have hclient : ((g.after (j, .joinPath)).client j).session = (g.client j).session.joined first 1 := by
        rw [after_eq, client_withClient, hjoined]
      rw [hclient] at hsession htold
      -- behind the first session the path to go back to is known
      have hopen : ¬(0 < rest.count j ∧ ((g.client j).session.joined first 1).path.sessions = 0) :=
        fun h => Nat.succ_ne_zero _ h.2
      rw [if_neg hopen] at htold
      obtain rfl : told = first := htold
      refine ⟨told, ?_, ?_⟩
      · rw [List.map_cons, run_cons, hsession, List.count_cons_self]
        simp [Session.joined, Nat.add_assoc, Nat.add_comm 1]
      · simpa using hcame
    · have hseat := seat_after_of_ne g hij .joinPath
      rw [congrArg (·.session) hseat, congrArg (·.wire) hseat] at htold
      rw [congrArg (·.session) hseat] at hsession
      refine ⟨told, ?_, ?_⟩
      · rw [List.map_cons, run_cons, hsession, List.count_cons_of_ne hij]
      · rw [List.count_cons_of_ne hij]
        exact htold

theorem session_run_leaving (row : List (Fin n)) (g : Group σ n) (i : Fin n) :
    ((g.run (row.map (·, .leavePath true))).client i).session =
      Session.leave^[row.count i] (g.client i).session := by
  induction row generalizing g with
  | nil => rfl
  | cons j rest ih =>
    rw [List.map_cons, run_cons, ih]
    by_cases hij : j = i
    · subst hij
      rw [List.count_cons_self, Function.iterate_succ_apply, after_eq, client_withClient]
      rfl
    · rw [List.count_cons_of_ne hij, congrArg (·.session) (seat_after_of_ne g hij _)]

/-- What a failed entry leaves of a client's session: all of it, if the client was not reached or had one open
already; otherwise the path to go back to was asked for, and an undoing is pending if it was, if the search path was
set for good, or if a transaction is open. -/
theorem session_failedEntry {joined : List (Fin n)} {failed : Fin n} {g : Group σ n}
    (hall : Along Succeeds g (joined.map (·, .joinPath)))
    (hfails : ¬ Succeeds (g.run (joined.map (·, .joinPath))) (failed, .joinPath)) (i : Fin n) :
    let s := (g.client i).session
    let g' := g.run (joined.map (·, .joinPath) ++ (failed, .joinPath) :: joined.map (·, .leavePath true))
    (i ∉ joined ∨ s.path.sessions ≠ 0 → (g'.client i).session = s) ∧
      (i ∈ joined → s.path.sessions = 0 → ∃ told,
        (Server.receive showPathRequest (g.client i).wire.server).1.path? = some told ∧
          (g'.client i).session = s.visited told) := by
  intro s g'
  obtain ⟨told, hjoined, htold⟩ := session_run_joining hall i
  have hfailed : (((g.run (joined.map (·, .joinPath))).after (failed, .joinPath)).client i).session =
      s.joined told (joined.count i) := by
    rw [← hjoined]
    by_cases hi : failed = i
    · subst hi
      rw [after_eq, client_withClient]
      exact Client.session_not_joined hfails
    · rw [session_after_of_ne _ hi]
  have hlast : (g'.client i).session = { s with
      initialPath := told
      path := { s.path with pending := s.path.pending || (s.path.sessions = 0 && 0 < joined.count i &&
        (told.isSome && (s.path.dirty || s.status ≠ .idle))) } } := by
    show ((g.run _).client i).session = _
    rw [run_append, run_cons, session_run_leaving, hfailed,
      Session.leave_iterate (m := s.path.sessions) (s := s.joined told (joined.count i)) rfl]
    rfl
  rw [hlast]
  refine ⟨fun hspared => ?_, fun hi hnone => ?_⟩
  · have hnot : ¬(0 < joined.count i ∧ s.path.sessions = 0) := by
      rintro ⟨hi, hnone⟩
      rcases hspared with hspared | hspared
      · exact hspared (List.count_pos_iff.1 hi)
      · exact hspared hnone
    have hsame : told = s.initialPath := by rwa [if_neg hnot] at htold
    have hlate : (decide (s.path.sessions = 0) && decide (0 < joined.count i)) = false := by
      rw [← Bool.not_eq_true, Bool.and_eq_true, decide_eq_true_eq, decide_eq_true_eq]
      exact fun h => hnot ⟨h.2, h.1⟩
    rw [hsame, hlate]
    simp
  · rw [if_pos ⟨List.count_pos_iff.2 hi, hnone⟩] at htold
    obtain ⟨hsome, hreply⟩ := htold
    obtain ⟨path, rfl⟩ := Option.isSome_iff_exists.1 hsome
    refine ⟨path, hreply.symm, ?_⟩
    unfold Session.visited
    simp [hnone, List.count_pos_iff.2 hi]

/-- Groups that differ in what their clients know and in what was sent, and in nothing else. -/
structure Kept (g g' : Group σ n) : Prop where
  worker : g'.worker = g.worker
  overrides : g'.overrides = g.overrides
  hook : ∀ i, (g'.client i).hook = (g.client i).hook
  tag : ∀ i, (g'.client i).tag = (g.client i).tag

/-- A session that is joined or left changes what its client knows. -/
theorem kept_after (g : Group σ n) {step : Fin n × Call} (h : step.2.Spares) : Kept g (g.after step) := by
  obtain ⟨j, call⟩ := step
  obtain ⟨reqs, ok, hgoes⟩ := (g.client j).goes_after call
  have hshared : ((g.client j).after call).overrides = g.overrides[g.worker[j]] :=
    Client.overrides_after_of_spares _ h
  refine ⟨rfl, ?_, fun i => ?_, fun i => ?_⟩
  · show g.overrides.set g.worker[j] ((g.client j).after call).overrides = g.overrides
    rw [hshared]
    exact Vector.set_getElem_self _
  · by_cases hij : j = i
    · subst hij
      rw [after_eq, client_withClient]
      exact hgoes.sent.hook
    · exact congrArg (·.hook) (seat_after_of_ne g hij call)
  · by_cases hij : j = i
    · subst hij
      rw [after_eq, client_withClient]
      exact hgoes.sent.tag
    · exact congrArg (·.tag) (seat_after_of_ne g hij call)

theorem kept_run {steps : List (Fin n × Call)} (h : ∀ step ∈ steps, step.2.Spares) (g : Group σ n) :
    Kept g (g.run steps) := by
  induction steps generalizing g with
  | nil => exact ⟨rfl, rfl, fun _ => rfl, fun _ => rfl⟩
  | cons step rest ih =>
    have hfirst := g.kept_after (h step List.mem_cons_self)
    have hrest := ih (fun other hother => h other (List.mem_cons_of_mem _ hother)) (g.after step)
    exact ⟨hrest.worker.trans hfirst.worker, hrest.overrides.trans hfirst.overrides,
      fun i => (hrest.hook i).trans (hfirst.hook i), fun i => (hrest.tag i).trans (hfirst.tag i)⟩

end

/-! ## What can be told apart -/

/-- The clients of a group on other connections, over which nothing was sent yet. -/
def connected (g : Group σ n) (wires : Vector (Wire τ) n) : Group τ n where
  seats := .ofFn fun i =>
    { wire := wires.get i, session := (g.client i).session, hook := (g.client i).hook, tag := (g.client i).tag }
  worker := g.worker
  overrides := g.overrides

theorem client_connected (g : Group σ n) (wires : Vector (Wire τ) n) (i : Fin n) :
    (g.connected wires).client i =
      { wire := wires.get i, session := (g.client i).session, hook := (g.client i).hook, tag := (g.client i).tag,
        overrides := (g.client i).overrides } := by
  simp [client, connected]

theorem Kept.looksLike_connected {g g' : Group σ n} (h : g.Kept g')
    (hsession : ∀ i, (g.client i).session.LooksLike (g'.client i).session) (wires : Vector (Wire τ) n) :
    (g.connected wires).LooksLike (g'.connected wires) := by
  refine ⟨h.worker, h.overrides, rfl, fun i => ?_⟩
  have hover : (g'.client i).overrides = (g.client i).overrides := by
    show g'.overrides[g'.worker[i]] = g.overrides[g.worker[i]]
    simp only [h.worker, h.overrides]
  rw [client_connected, client_connected, h.hook, h.tag, hover]
  exact ⟨hsession i, rfl⟩

end Group

/-! ### A statement in a transaction -/

/-- An undoing that is pending leads the next statement in a transaction. -/
theorem Session.lead_ne_of_pending {s : Session} (path : String) (hstatus : s.status = .inTransaction)
    (hpending : s.path.pending = false) (o : Overrides) :
    ∃ text, (Session.lead { s with initialPath := some path, path := { s.path with pending := true } } o
        "SELECT 1").1 = some text ∧ (s.lead o "SELECT 1").1 ≠ some text := by
  have hcontrol : (controlOf? "SELECT 1").isNone := by decide
  have hback : ∀ t : Session, t.status = s.status → t.holdsBack "SELECT 1" = false := by
    intro t ht
    exact Session.holdsBack_eq_false (by simp [ht, hstatus]) (by decide)
  have hlead : ∀ t : Session, (t.lead o "SELECT 1").1 =
      if (t.preamble o "SELECT 1" false).1 ≠ "" then some (t.preamble o "SELECT 1" false).1 else none := by
    intro t
    unfold Session.lead
    rw [if_pos hcontrol]
  have hset := setPathSql_ne_empty path
  have hundo := Session.preamble_text
    (hback { s with initialPath := some path, path := { s.path with pending := true } } rfl) o false
  have hplain := Session.preamble_text (hback s rfl) o false
  rw [hlead, hlead, hundo, hplain]
  simp only [hpending, if_true, Bool.false_eq_true, if_false, String.append_empty, Session.undoPath?, Option.map_some,
    Option.getD_some]
  generalize (if s.ignore.pending = true then resetIgnoreSql else "") = before
  generalize (if s.ignore.sessions = 0 then ""
    else o.ignoreSql (false || decide (s.status = .inTransaction))) = ignoring
  generalize (if s.path.sessions = 0 then ""
    else (o.pathSql? (false || decide (s.status = .inTransaction))).getD "") = searching
  refine ⟨before ++ setPathSql path ++ ignoring ++ searching, if_pos ?_, fun hsame => ?_⟩
  · simp only [ne_eq, String.append_eq_empty_iff, hset, and_false, false_and, not_false_eq_true]
  · split at hsame
    next =>
      have hlength := congrArg String.length (Option.some.inj hsame)
      simp only [String.length_append] at hlength
      have hlong : (setPathSql path).length ≠ 0 := fun h => hset (String.length_eq_zero_iff.1 h)
      omega
    next => cases hsame

namespace Client

/-- A server without rules does what it is asked for. -/
theorem result_sendRaw_obliging {c : Client Script} (hopen : c.wire.isOpen) (hserver : c.wire.server = [])
    (q : Request) : result (sendRaw q) c = (.ok ⟨[], 0⟩,
      { c with journal := { c.journal with sent := c.journal.sent ++ [(c.wire.number, q)] } }) := by
  obtain ⟨⟨⟨number, server, isOpen⟩, session, hook, tag⟩, overrides, journal⟩ := c
  subst hserver hopen
  rfl

theorem after_begin {c : Client Script} (hhook : c.hook = none) (hopen : c.wire.isOpen)
    (hserver : c.wire.server = []) : c.after (.batch "BEGIN") = { c with
      session := { c.session with status := .inTransaction }
      journal := { c.journal with sent := c.journal.sent ++ [(c.wire.number, .batch "BEGIN")] } } := by
  have hinspect : result (inspect "BEGIN" 0) c = (.ok (c.contextOf "BEGIN" 0), c) := by
    unfold inspect
    rw [Act.result_bind_ok (Act.result_get c), hhook]
    rfl
  have hplaced : c.session.withPreamble c.overrides "BEGIN" = ("BEGIN", c.session) := by
    have hsplit : Sql.splitStatement? "BEGIN".toList = none := by decide
    refine Session.withPreamble_of_control (c := .opens) (by decide) (fun _ head rest h => ?_) _ _
    rw [hsplit] at h
    cases h
  have hdecide : result (decide fun s o => s.withPreamble o "BEGIN") c = (.ok "BEGIN", c) := by
    show (Except.ok (c.session.withPreamble c.overrides "BEGIN").1,
      { c with session := (c.session.withPreamble c.overrides "BEGIN").2 }) = _
    rw [hplaced]
  have hsent : result (sendBatch "BEGIN") c = (.ok (), { c with
      journal := { c.journal with sent := c.journal.sent ++ [(c.wire.number, .batch "BEGIN")] } }) :=
    (Act.result_bind_ok (result_sendRaw_obliging hopen hserver _) _).trans rfl
  show (result (batch "BEGIN") c).2 = _
  unfold batch
  rw [Act.result_bind_ok hinspect, show (c.contextOf "BEGIN" 0).exec = "BEGIN" from rfl,
    Act.result_bind_ok hdecide, Act.result_bind_ok (Act.result_attempt hsent)]
  obtain ⟨⟨⟨number, server, isOpen⟩, session, hook, tag⟩, overrides, journal⟩ := c
  subst hhook
  rfl

/-- The first thing that is sent for a statement with parameters is what leads it, if anything does. -/
theorem exists_sent_execute {σ : Type} [Server σ] {c : Client σ} (hhook : c.hook = none) (hopen : c.wire.isOpen)
    (sql : String) : ∃ reqs : List Request,
      (c.after (.execute sql [])).journal.sent = c.journal.sent ++ reqs.map (c.wire.number, ·) ∧
        reqs.head? = some ((c.session.lead c.overrides sql).1.elim (.prepared sql []) .batch) := by
  obtain ⟨reqs, ok, hgoes⟩ := c.goes_after (.execute sql [])
  have hsession := hgoes.session
  have hmove : c.move (.execute sql []) = .prepared sql [] := by
    have hleft : c.left sql 0 = some sql := by
      unfold left
      rw [hhook]
      rfl
    show (c.left sql 0).elim Move.rest (.prepared · []) = _
    rw [hleft]
    rfl
  refine ⟨reqs, by rw [hgoes.sent.sent, if_pos hopen], ?_⟩
  rw [hmove] at hsession
  generalize (c.after (.execute sql [])).session = s' at hsession
  cases hsession with
  | prepared _ howns =>
    generalize c.session.lead c.overrides sql = led at howns ⊢
    obtain ⟨text, s⟩ := led
    cases howns with
    | nothing => rfl
    | done => rfl
  | unled howns =>
    generalize c.session.lead c.overrides sql = led at howns ⊢
    obtain ⟨text, s⟩ := led
    cases howns with
    | failed => rfl

end Client

namespace Roster

variable {σ : Type} {n : Nat}

/-- The clients of a roster on other connections. -/
def connected {τ : Type} (s : Roster σ n) (wires : Vector (Wire τ) n) : Roster τ n :=
  ⟨s.group.connected wires, s.guards⟩

/-- Whatever connections their clients are put on, whatever the servers answer there and whichever steps are taken,
the same is sent and the same happens, and so when a client gives its connection back at the end. -/
def Indistinct (s t : Roster σ n) : Prop :=
  ∀ (τ : Type) [Server τ] (wires : Vector (Wire τ) n) (steps : List (Step n)),
    ((s.connected wires).run steps).group.journal = ((t.connected wires).run steps).group.journal ∧
      ∀ i, (result (Group.on i Client.handOver) ((s.connected wires).run steps).group).2.journal =
        (result (Group.on i Client.handOver) ((t.connected wires).run steps).group).2.journal

/-- Clients with exact counts that are alike cannot be told apart. -/
theorem indistinct_of_looksLike {s t : Roster σ n} (hexact : s.Exact) (hguards : t.guards = s.guards)
    (hkept : s.group.Kept t.group) (hsession : ∀ i, (s.group.client i).session.LooksLike (t.group.client i).session) :
    s.Indistinct t := by
  intro τ _ wires steps
  have hover : (s.connected wires).Exact := by
    intro x i
    show ((s.group.connected wires).client i |>.session.setting x).sessions = _
    rw [Group.client_connected]
    exact hexact x i
  have hlike : (s.connected wires).LooksLike (t.connected wires) :=
    ⟨hkept.looksLike_connected hsession wires, hguards⟩
  have hrun := looksLike_run hlike hover steps
  exact ⟨hrun.group.journal.symm, fun i =>
    (hrun.group.on i (Client.agree_handOver (hrun.group.clients i))).left.journal.symm⟩

/-- An undoing that was not pending before can be seen: it leads the next statement in a transaction. -/
theorem distinct_of_pending {s t : Roster σ n} (hkept : s.group.Kept t.group) {i : Fin n} (path : String)
    (hhook : (s.group.client i).hook = none) (hpending : (s.group.client i).session.path.pending = false)
    (hsession : (t.group.client i).session = { (s.group.client i).session with
      initialPath := some path
      path := { (s.group.client i).session.path with pending := true } }) : ¬ s.Indistinct t := by
  intro hsame
  have hover : (t.group.client i).overrides = (s.group.client i).overrides := by
    show t.group.overrides[t.group.worker[i]] = s.group.overrides[s.group.worker[i]]
    simp only [hkept.worker, hkept.overrides]
  -- the client is asked to open a transaction and for one statement in it, and its server does both
  let wires : Vector (Wire Script) n := .replicate n { server := [] }
  let steps : List (Step n) := [.state i (.batch "BEGIN") trivial, .state i (.execute "SELECT 1" []) trivial]
  have hsent : ∀ r : Roster σ n, (r.group.client i).hook = none → ∃ reqs : List Request,
      ((r.connected wires).run steps).group.journal.sent = (0, .batch "BEGIN") :: reqs.map (0, ·) ∧
        reqs.head? = some ((Session.lead { (r.group.client i).session with status := .inTransaction }
          (r.group.client i).overrides "SELECT 1").1.elim (.prepared "SELECT 1" []) .batch) := by
    intro r hhook
    let c := (r.connected wires).group.client i
    have hc : c = {
        wire := { server := [] }
        session := (r.group.client i).session
        hook := none
        tag := (r.group.client i).tag
        overrides := (r.group.client i).overrides } := by
      show (r.group.connected wires).client i = _
      have hwire : wires.get i = { server := [] } := by
        show wires[i] = _
        simp [wires]
      rw [Group.client_connected, hhook, hwire]
    have hbegun : c.after (.batch "BEGIN") = { c with
        session := { c.session with status := .inTransaction }
        journal := { c.journal with sent := c.journal.sent ++ [(c.wire.number, .batch "BEGIN")] } } := by
      rw [hc]
      exact Client.after_begin rfl rfl rfl
    have hjournal : ((r.connected wires).run steps).group.journal =
        ((c.after (.batch "BEGIN")).after (.execute "SELECT 1" [])).journal := by
      show ((((r.connected wires).group.after (i, .batch "BEGIN")).client i).after
        (.execute "SELECT 1" [])).journal = _
      rw [Group.after_eq, Group.client_withClient]
    obtain ⟨reqs, hreqs, hhead⟩ := Client.exists_sent_execute (c := c.after (.batch "BEGIN"))
      (by rw [hbegun, hc]) (by rw [hbegun, hc]) "SELECT 1"
    rw [← hjournal] at hreqs
    rw [hbegun, hc] at hreqs hhead
    exact ⟨reqs, hreqs, hhead⟩
  obtain ⟨reqs, hreqs, hhead⟩ := hsent s hhook
  obtain ⟨reqs', hreqs', hhead'⟩ := hsent t ((hkept.hook i).trans hhook)
  have hrow : reqs.map ((0 : Nat), ·) = reqs'.map ((0 : Nat), ·) :=
    (List.cons.inj (hreqs.symm.trans ((congrArg (·.sent) (hsame Script wires steps).1).trans hreqs'))).2
  have hequal : reqs = reqs' := List.map_injective_iff.2 (fun a b h => (Prod.mk.inj h).2) hrow
  rw [← hequal, hhead, hsession, hover] at hhead'
  obtain ⟨text, htext, hnot⟩ := Session.lead_ne_of_pending path
    (s := { (s.group.client i).session with status := .inTransaction }) rfl hpending (s.group.client i).overrides
  have hlead : _ = Request.batch text := (Option.some.inj hhead').trans
    (congrArg (·.elim (Request.prepared "SELECT 1" []) Request.batch) htext)
  generalize (Session.lead { (s.group.client i).session with status := .inTransaction }
    (s.group.client i).overrides "SELECT 1").1 = led at hlead hnot
  cases led with
  | none => cases hlead
  | some other => exact hnot (congrArg some (Request.batch.inj hlead))

/-- What a failed entry leaves behind, after any steps, wherever in the row it fails. The clients in front are asked
for their search path unless they have a session on it. What the others know stays as it was. One that was asked and
has no undoing pending has the one to what it was shown pending exactly if it takes a transaction to be open. If that
is so of none of them, and what is pending elsewhere was to the path that was shown, then the entry leaves no trace:
whatever is done next and whatever is answered, the clients send what they would have sent without it. Otherwise they
do not. -/
theorem failed_entry {g : Group σ n} [Server σ] (hnew : ∀ i, ∃ status, (g.client i).session = { status })
    (steps : List (Step n)) {clients : List (Fin n)} {e : Error} {left : Group σ n}
    (hfails : result (SchemaSession.enter clients) ((⟨g, []⟩ : Roster σ n).run steps).group = (.error e, left)) :
    let s := (⟨g, []⟩ : Roster σ n).run steps
    let session := fun i => (s.group.client i).session
    let shown := fun i => (Server.receive showPathRequest (s.group.client i).wire.server).1.path?
    ∃ opened failed rest, clients = opened ++ failed :: rest ∧
      let asked := fun i => i ∈ opened ∧ (session i).path.sessions = 0
      (∀ i, ¬ asked i → (left.client i).session = session i) ∧
      (∀ i, asked i → (session i).path.pending = false → ∃ path, shown i = some path ∧
        (left.client i).session = { session i with
          initialPath := some path
          path := { (session i).path with pending := (session i).status ≠ .idle } }) ∧
      ((∀ i, asked i → (session i).path.pending → shown i = (session i).initialPath) →
        (∀ i, asked i → (session i).status = .idle ∨ (session i).path.pending) → s.Indistinct ⟨left, s.guards⟩) ∧
      ∀ i, asked i → (session i).status ≠ .idle → (session i).path.pending = false →
        (s.group.client i).hook = none → ¬ s.Indistinct ⟨left, s.guards⟩ := by
  intro s session shown
  have hsound := sound_of_new hnew steps
  rcases s.group.joining_cases [] clients with
    ⟨-, -, hresult⟩ | ⟨opened, failed, rest, e', hclients, hcalls, hall, hfailed, hresult⟩
  · cases hfails.symm.trans hresult
  rw [hcalls, List.nil_append] at hresult
  have hleft : left = _ := (Prod.mk.inj (hfails.symm.trans hresult)).2
  have hleaves := Group.session_failedEntry hall hfailed
  rw [← hleft] at hleaves
  have hkept : s.group.Kept left := by
    rw [hleft]
    refine Group.kept_run (fun step hstep => ?_) s.group
    simp only [List.mem_append, List.mem_cons, List.mem_map] at hstep
    rcases hstep with ⟨_, -, rfl⟩ | rfl | ⟨_, -, rfl⟩ <;> trivial
  have hasked : ∀ i, i ∈ opened ∧ (session i).path.sessions = 0 → (session i).path.pending = false →
      ∃ path, shown i = some path ∧ (left.client i).session = { session i with
        initialPath := some path
        path := { (session i).path with pending := (session i).status ≠ .idle } } := by
    rintro i ⟨hi, hnone⟩ hpending
    obtain ⟨path, hshown, hsession⟩ := (hleaves i).2 hi hnone
    obtain ⟨hkeeps, hsettled⟩ := hsound i
    exact ⟨path, hshown, hsession.trans (Session.visited_of_not_pending hkeeps hsettled hnone hpending path)⟩
  refine ⟨opened, failed, rest, hclients, fun i hnot => (hleaves i).1 (not_and_or.1 hnot), hasked,
    fun hsame hquiet => ?_, fun i hi hbusy hpending hhook => ?_⟩
  · refine indistinct_of_looksLike (exact_of_new hnew steps) rfl hkept fun i => ?_
    show (session i).LooksLike (left.client i).session
    by_cases hi : i ∈ opened ∧ (session i).path.sessions = 0
    · obtain ⟨path, hshown, hsession⟩ := (hleaves i).2 hi.1 hi.2
      obtain ⟨hkeeps, hsettled⟩ := hsound i
      rw [hsession]
      refine hkeeps.looksLike_visited hsettled hi.2 (fun hpending => ?_) (hquiet i hi)
      exact hshown.symm.trans (hsame i hi hpending)
    · rw [(hleaves i).1 (not_and_or.1 hi)]
      exact .same
  · obtain ⟨path, -, hsession⟩ := hasked i hi hpending
    refine distinct_of_pending hkept path hhook hpending (hsession.trans ?_)
    rw [decide_eq_true hbusy]

/-- Two clients that know a status of their transactions. The first one's server shows its search path, and the
second one's refuses to. -/
def halfShown (status : TransactionStatus) : Group Script 2 where
  seats := #v[
    { wire := { number := 0, server := [{ contains := "SHOW", reply := .done [[some "public"]] 1 }] }
      session := { status } },
    { wire := { number := 1, server := [{ contains := "SHOW", reply := .refused ⟨"57014", "", none⟩ }] }
      session := { status } }]
  worker := .ofFn id

theorem session_halfShown (status : TransactionStatus) (i : Fin 2) :
    ((halfShown status).client i).session = { status } := by
  cases i using Fin.cases with
  | zero => rfl
  | succ i =>
    obtain rfl : i = 0 := Subsingleton.elim _ _
    rfl

/-- In a transaction the first client is left with an undoing of what was never set. -/
theorem failed_entry_queues :
    let g := halfShown .inTransaction
    let left := (result (SchemaSession.enter [0, 1]) g).2
    (result (SchemaSession.enter [0, 1]) g).1.toBool = false ∧
      (left.after (0, .execute "SELECT 1" [])).journal.sent =
        left.journal.sent ++ [(0, .batch "SET search_path=public;"), (0, .prepared "SELECT 1" [])] ∧
      (g.after (0, .execute "SELECT 1" [])).journal.sent = [(0, .prepared "SELECT 1" [])] := by
  decide +kernel

theorem failed_entry_idle :
    let left := (result (SchemaSession.enter [0, 1]) (halfShown .idle)).2
    (result (SchemaSession.enter [0, 1]) (halfShown .idle)).1.toBool = false ∧
      Indistinct (⟨halfShown .idle, []⟩ : Roster Script 2) ⟨left, []⟩ := by
  intro left
  have hnew : ∀ i, ∃ status, ((halfShown .idle).client i).session = { status } :=
    fun i => ⟨.idle, session_halfShown .idle i⟩
  obtain ⟨e, hfails⟩ : ∃ e, result (SchemaSession.enter [0, 1]) (halfShown .idle) = (.error e, left) := ⟨_, rfl⟩
  obtain ⟨opened, failed, rest, -, -, -, htraceless, -⟩ := failed_entry hnew [] hfails
  refine ⟨by rw [hfails]; rfl, htraceless (fun i _ hpending => ?_) fun i _ => .inl ?_⟩
  · have hclean : ((halfShown .idle).client i).session.path.pending = false := by rw [session_halfShown]
    exact absurd (hpending.symm.trans hclean) Bool.noConfusion
  · exact congrArg (·.status) (session_halfShown .idle i)

end Roster

end DeclaredTriggers
