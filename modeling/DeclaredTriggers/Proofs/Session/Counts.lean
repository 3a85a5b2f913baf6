import DeclaredTriggers.Proofs.Session.Undoings

/-!
# How many sessions are open

A client counts the sessions that are open on each of its two variables. A call that opens one and succeeds adds
one to the count, a call that closes one takes one away, and every other leaves both counts as they are, whatever
the server does (`Client.sessions_after`). A row of clients is opened or closed one after the other, and a client
counts as often as it is in the row (`Group.sessions_run_opening`, `Group.sessions_run_closing`).

A session that is entered on several clients is open on all of them or on none:

> `Group.joining_cases`: the clients are joined in their order; if one cannot be, the session is closed on all
> before it.
-/

namespace DeclaredTriggers

open Act (result)

/-! ## Moves and calls -/

/-- The variable that a move opens a session on, if it succeeds. -/
def Move.opens? : Move → Option Variable
  | .openIgnore => some .ignore
  | .openPath => some .path
  | .batch _ | .prepared .. | .closeIgnore _ | .closePath _ | .rest => none

/-- The variable that a move closes a session on. -/
def Move.closes? : Move → Option Variable
  | .closeIgnore _ => some .ignore
  | .closePath _ => some .path
  | .batch _ | .prepared .. | .openIgnore | .openPath | .rest => none

theorem Move.eq_openPath_of_opens {m : Move} (h : m.opens? = some .path) : m = .openPath := by
  cases m with
  | openPath => rfl
  | openIgnore | batch | prepared | closeIgnore | closePath | rest => cases h

/-- The variable that a call opens a session on, if it succeeds. -/
def Call.opens? : Call → Option Variable
  | .ignore .. | .joinIgnore => some .ignore
  | .search _ | .joinPath => some .path
  | .batch _ | .query .. | .execute .. | .releaseIgnore _ | .dropIgnore _ | .releaseSchema _ | .dropSchema _
  | .leaveIgnore _ | .leavePath _ | .elsewhere _ => none

/-- The variable that a call closes a session on. -/
def Call.closes? : Call → Option Variable
  | .releaseIgnore _ | .dropIgnore _ | .leaveIgnore _ => some .ignore
  | .releaseSchema _ | .dropSchema _ | .leavePath _ => some .path
  | .batch _ | .query .. | .execute .. | .ignore .. | .search _ | .joinIgnore | .joinPath | .elsewhere _ => none

theorem Call.IsStatement.opens? {call : Call} (h : call.IsStatement) :
    call.opens? = none ∧ call.closes? = none := by
  cases call with
  | batch | query | execute | elsewhere => exact ⟨rfl, rfl⟩
  | ignore | releaseIgnore | dropIgnore | search | releaseSchema | dropSchema | joinIgnore | leaveIgnore
  | joinPath | leavePath => cases h

theorem Setting.close_sessions (s : Setting) (idle canSend : Bool) (undo : Option String) :
    (s.close idle canSend undo).2.sessions = s.sessions - 1 := by
  cases undo with
  | none => rfl
  | some undo =>
    rcases s.close_some idle canSend undo with ⟨hclose, -⟩ | ⟨hclose, -⟩ | hclose <;> rw [hclose]
    rfl

namespace Session

variable {s s' : Session} {o : Overrides} {m : Move} {reqs : List Request} {ok : Bool}

theorem sessions_settle (s : Session) (ok : Bool) (x : Variable) :
    ((s.settle ok).setting x).sessions = (s.setting x).sessions :=
  settle_keeps (P := fun t => (t.setting x).sessions = (s.setting x).sessions)
    (fun t h => by rw [setting_committed, Setting.committed_sessions, h])
    (fun t h => by rw [setting_rolledBack, Setting.rolledBack_sessions, h]) rfl ok

theorem sessions_track (s : Session) (sql : String) (ok : Bool) (x : Variable) :
    ((s.track sql ok).setting x).sessions = (s.setting x).sessions :=
  track_keeps (P := fun t => (t.setting x).sessions = (s.setting x).sessions)
    (fun t h => by rw [setting_committed, Setting.committed_sessions, h])
    (fun t h => by rw [setting_rolledBack, Setting.rolledBack_sessions, h])
    (fun t status h => by rw [setting_status, h]) rfl sql ok

theorem sessions_preamble (s : Session) (o : Overrides) (statement : String) (inBatch : Bool) (x : Variable) :
    ((s.preamble o statement inBatch).2.setting x).sessions = (s.setting x).sessions := by
  cases hback : s.holdsBack statement with
  | true => rw [preamble_of_holdsBack hback]
  | false => rw [setting_preamble hback, Setting.setAlong_sessions]

theorem sessions_withPreamble (s : Session) (o : Overrides) (sql : String) (x : Variable) :
    ((s.withPreamble o sql).2.setting x).sessions = (s.setting x).sessions := by
  have hplaced := placed_withPreamble s o sql
  generalize s.withPreamble o sql = sent at hplaced ⊢
  cases hplaced with
  | first | second => exact s.sessions_preamble o _ true x
  | nowhere => rfl

theorem sessions_lead (s : Session) (o : Overrides) (sql : String) (x : Variable) :
    ((s.lead o sql).2.setting x).sessions = (s.setting x).sessions := by
  unfold lead
  split
  next => exact s.sessions_preamble o sql false x
  next => rfl

theorem Owns.sessions {text : Option String} (h : s.Owns text reqs ok s') (x : Variable) :
    (s'.setting x).sessions = (s.setting x).sessions := by
  cases h with
  | nothing => rfl
  | done => exact s.sessions_settle true x
  | failed => rw [sessions_settle, sessions_track]

theorem sessions_closeIgnore (s : Session) (queueOnly : Bool) (x : Variable) :
    ((s.closeIgnore queueOnly).2.setting x).sessions =
      (s.setting x).sessions - if some Variable.ignore = some x then 1 else 0 := by
  cases x with
  | ignore =>
    rw [if_pos rfl]
    exact Setting.close_sessions s.ignore _ _ (some resetIgnoreSql)
  | path => rfl

theorem sessions_closePath (s : Session) (queueOnly : Bool) (x : Variable) :
    ((s.closePath queueOnly).2.setting x).sessions =
      (s.setting x).sessions - if some Variable.path = some x then 1 else 0 := by
  cases x with
  | ignore => rfl
  | path =>
    rw [if_pos rfl]
    exact Setting.close_sessions s.path _ _ s.undoPath?

/-- What a move does to the count of a variable: one more if it opens a session, one less if it closes one. -/
theorem Goes.sessions (h : s.Goes o m reqs ok s') (x : Variable) :
    (s'.setting x).sessions =
      ((s.setting x).sessions + if m.opens? = some x ∧ ok then 1 else 0) - if m.closes? = some x then 1 else 0 := by
  cases h with
  | batch sql =>
    exact (sessions_settle _ ok x).trans ((sessions_track _ sql ok x).trans (s.sessions_withPreamble o sql x))
  | @prepared sql _ _ _ _ howns =>
    exact (sessions_track _ sql ok x).trans ((howns.sessions x).trans (s.sessions_lead o sql x))
  | @unled sql _ _ _ howns => exact (howns.sessions x).trans (s.sessions_lead o sql x)
  | openIgnore | captured | openPath => cases x <;> rfl
  | uncaptured | rest => cases x <;> rfl
  | @closeIgnore queueOnly _ _ _ howns => exact (howns.sessions x).trans (s.sessions_closeIgnore queueOnly x)
  | @closePath queueOnly _ _ _ howns => exact (howns.sessions x).trans (s.sessions_closePath queueOnly x)

end Session

namespace Client

variable {σ : Type} [Server σ]

omit [Server σ] in
theorem closes?_move (c : Client σ) (call : Call) : (c.move call).closes? = call.closes? := by
  cases call with
  | batch sql =>
    show ((c.left sql 0).elim .rest .batch : Move).closes? = none
    cases c.left sql 0 <;> rfl
  | query sql params | execute sql params =>
    show ((c.left sql params.length).elim .rest (.prepared · params) : Move).closes? = none
    cases c.left sql params.length <;> rfl
  | ignore registry uris =>
    show (if (registry.ignorable uris).toBool then Move.openIgnore else .rest).closes? = none
    split <;> rfl
  | search schemas =>
    show (if (schemas.mapM schemaName : Except Error _).toBool then Move.openPath else .rest).closes? = none
    split <;> rfl
  | releaseIgnore | dropIgnore | releaseSchema | dropSchema | joinIgnore | leaveIgnore | joinPath | leavePath
  | elsewhere => rfl

/-- A call that succeeds is the move that it is there for. -/
theorem opens?_move {c : Client σ} {call : Call} (hok : (result call.act c).1.toOption.isSome) :
    (c.move call).opens? = call.opens? := by
  cases call with
  | batch sql =>
    show ((c.left sql 0).elim .rest .batch : Move).opens? = none
    cases c.left sql 0 <;> rfl
  | query sql params | execute sql params =>
    show ((c.left sql params.length).elim .rest (.prepared · params) : Move).opens? = none
    cases c.left sql params.length <;> rfl
  | ignore registry uris =>
    show (if (registry.ignorable uris).toBool then Move.openIgnore else .rest).opens? = some .ignore
    have hlift := Act.result_lift (registry.ignorable uris) c
    cases hids : registry.ignorable uris with
    | ok ids => rfl
    | error e =>
      rw [hids] at hlift
      have hfails : result (ignore registry uris) c = (.error e, c) := by
        unfold ignore
        rw [hids]
        exact Act.result_bind_error hlift _
      rw [show (Call.ignore registry uris).act = do let _ ← ignore registry uris from rfl,
        Act.result_bind_error hfails] at hok
      cases hok
  | search schemas =>
    show (if (schemas.mapM schemaName : Except Error _).toBool then Move.openPath else .rest).opens? = some .path
    have hlift := Act.result_lift (schemas.mapM schemaName : Except Error _) c
    cases hnames : (schemas.mapM schemaName : Except Error _) with
    | ok names => rfl
    | error e =>
      rw [hnames] at hlift
      have hfails : result (searching schemas) c = (.error e, c) := by
        unfold searching
        rw [hnames]
        exact Act.result_bind_error hlift _
      rw [show (Call.search schemas).act = do let _ ← searching schemas from rfl,
        Act.result_bind_error hfails] at hok
      cases hok
  | releaseIgnore | dropIgnore | releaseSchema | dropSchema | joinIgnore | leaveIgnore | joinPath | leavePath
  | elsewhere => rfl

/-- What a call does to the count of a variable, whatever the server does. -/
theorem sessions_after (c : Client σ) (call : Call) (x : Variable) :
    ((c.after call).session.setting x).sessions =
      ((c.session.setting x).sessions +
          if call.opens? = some x ∧ (result call.act c).1.toOption.isSome then 1 else 0) -
        if call.closes? = some x then 1 else 0 := by
  obtain ⟨reqs, ok, hgoes⟩ := c.goes_after call
  rw [hgoes.session.sessions x, closes?_move, ← hgoes.succeeds]
  by_cases hok : (result call.act c).1.toOption.isSome
  · rw [opens?_move hok]
  · simp only [hok, Bool.false_eq_true, and_false]

end Client

namespace Group

/-! ## Groups -/

/-- How many sessions are open on a variable of a client. -/
def sessions {σ : Type} {n : Nat} (g : Group σ n) (x : Variable) (i : Fin n) : Nat :=
  ((g.client i).session.setting x).sessions

variable {σ : Type} [Server σ] {n : Nat}

/-- A call succeeds. -/
def Succeeds (g : Group σ n) (step : Fin n × Call) : Prop :=
  (result step.2.act (g.client step.1)).1.toOption.isSome

/-- A call that closes a session finds one open. -/
def FindsOpen (g : Group σ n) (step : Fin n × Call) : Prop :=
  ∀ x, step.2.closes? = some x → 0 < g.sessions x step.1

theorem sessions_after (g : Group σ n) (step : Fin n × Call) (x : Variable) (j : Fin n) :
    (g.after step).sessions x j =
      if step.1 = j then
        (g.sessions x j + if step.2.opens? = some x ∧ (result step.2.act (g.client j)).1.toOption.isSome
            then 1 else 0) -
          if step.2.closes? = some x then 1 else 0
      else g.sessions x j := by
  obtain ⟨i, call⟩ := step
  unfold sessions
  dsimp only
  split
  next heq =>
    subst heq
    rw [after_eq, client_withClient, Client.sessions_after]
  next hne => rw [session_after_of_ne g hne]

theorem along_append {P : Group σ n → Fin n × Call → Prop} {g : Group σ n} {steps more : List (Fin n × Call)} :
    Along P g (steps ++ more) ↔ Along P g steps ∧ Along P (g.run steps) more := by
  induction steps generalizing g with
  | nil => exact (iff_of_eq (true_and _)).symm
  | cons step rest ih => exact (and_congr_right fun _ => ih).trans and_assoc.symm

/-- Nothing keeps a client from a session on the triggers to ignore. -/
theorem succeeds_joinIgnore (clients : List (Fin n)) (g : Group σ n) :
    Along Succeeds g (clients.map (·, .joinIgnore)) := by
  induction clients generalizing g with
  | nil => trivial
  | cons i rest ih => exact ⟨rfl, ih _⟩

/-- Calls that close nothing need nothing open. -/
theorem findsOpen_of_closes_none {steps : List (Fin n × Call)} (h : ∀ step ∈ steps, step.2.closes? = none)
    (g : Group σ n) : Along FindsOpen g steps := by
  induction steps generalizing g with
  | nil => trivial
  | cons step rest ih =>
    refine ⟨fun x hx => ?_, ih (fun other hother => h other (List.mem_cons_of_mem _ hother)) _⟩
    rw [h step List.mem_cons_self] at hx
    cases hx

/-- Each client that is in the row counts one more. -/
theorem sessions_run_opening {call : Call} {y : Variable} (hopens : call.opens? = some y)
    (hcloses : call.closes? = none) {clients : List (Fin n)} {g : Group σ n}
    (hall : Along Succeeds g (clients.map (·, call))) (x : Variable) (j : Fin n) :
    (g.run (clients.map (·, call))).sessions x j = g.sessions x j + if y = x then clients.count j else 0 := by
  induction clients generalizing g with
  | nil => simp
  | cons i rest ih =>
    have hsucceeds : (result call.act (g.client i)).1.toOption.isSome := hall.1
    rw [List.map_cons, run_cons, ih hall.2, sessions_after, List.count_cons]
    by_cases hij : i = j
    · subst hij
      simp only [hopens, hcloses, hsucceeds]
      by_cases hyx : y = x <;> simp [hyx]
      omega
    · simp [hij]

/-- Each client that is in the row counts one less, if it counted enough for all. -/
theorem sessions_run_closing (call : Call) {y : Variable} (hopens : call.opens? = none)
    (hcloses : call.closes? = some y) {clients : List (Fin n)} {g : Group σ n}
    (henough : ∀ j, clients.count j ≤ g.sessions y j) :
    Along FindsOpen g (clients.map (·, call)) ∧
      ∀ x j, (g.run (clients.map (·, call))).sessions x j =
        g.sessions x j - if y = x then clients.count j else 0 := by
  induction clients generalizing g with
  | nil => exact ⟨trivial, fun x j => by simp⟩
  | cons i rest ih =>
    have hfirst : ∀ x j, (g.after (i, call)).sessions x j =
        g.sessions x j - if y = x ∧ i = j then 1 else 0 := by
      intro x j
      rw [sessions_after]
      by_cases hij : i = j <;> by_cases hyx : y = x <;> simp [hopens, hcloses, hij, hyx]
    have hcount : ∀ j, (i :: rest).count j = rest.count j + if i = j then 1 else 0 := by
      intro j
      rw [List.count_cons]
      simp
    obtain ⟨halong, hrest⟩ := ih (g := g.after (i, call)) fun j => by
      have := henough j
      rw [hcount] at this
      rw [hfirst]
      simp only [true_and]
      omega
    refine ⟨⟨fun x hx => ?_, halong⟩, fun x j => ?_⟩
    · rw [hcloses] at hx
      obtain rfl := Option.some.inj hx
      have := henough i
      rw [hcount, if_pos rfl] at this
      show 0 < g.sessions y i
      omega
    · rw [List.map_cons, run_cons, hrest, hfirst, hcount]
      by_cases hyx : y = x <;> simp [hyx]
      omega

/-! ## Sessions on several clients -/

/-- The calls with which a session is entered on some clients, behind those that it is open on: the clients are
joined in their order, and where one cannot be, the session is closed on all before it. -/
def joining (g : Group σ n) (opened : List (Fin n)) : List (Fin n) → List (Fin n × Call)
  | [] => []
  | i :: rest =>
    (i, .joinPath) ::
      if (result Client.openPath (g.client i)).1.toOption.isSome then
        (g.after (i, .joinPath)).joining (opened ++ [i]) rest
      else opened.map (·, .leavePath true)

/-- A session is entered on all of some clients, or up to the first one on which it cannot be; then it is closed
again on those before. -/
theorem joining_cases (opened clients : List (Fin n)) (g : Group σ n) :
    (g.joining opened clients = clients.map (·, .joinPath) ∧
        Along Succeeds g (clients.map (·, .joinPath)) ∧
        result (SchemaSession.enterAfter opened clients) g =
          (.ok ⟨opened ++ clients⟩, g.run (g.joining opened clients))) ∨
      ∃ joined failed rest e, clients = joined ++ failed :: rest ∧
        g.joining opened clients =
          joined.map (·, .joinPath) ++ (failed, .joinPath) :: (opened ++ joined).map (·, .leavePath true) ∧
        Along Succeeds g (joined.map (·, .joinPath)) ∧
        ¬ Succeeds (g.run (joined.map (·, .joinPath))) (failed, .joinPath) ∧
        result (SchemaSession.enterAfter opened clients) g = (.error e, g.run (g.joining opened clients)) := by
  induction clients generalizing opened g with
  | nil => exact .inl ⟨rfl, trivial, by rw [List.append_nil]; rfl⟩
  | cons i rest ih =>
    generalize hfirst : result (on i Client.openPath) g = first
    obtain ⟨r, g'⟩ := first
    have hg' : g' = g.after (i, .joinPath) := (congrArg Prod.snd hfirst).symm
    have hr : (result Client.openPath (g.client i)).1 = r := congrArg Prod.fst hfirst
    rw [SchemaSession.enterAfter, Act.result_bind_ok (Act.result_attempt hfirst), joining, hr]
    subst hg'
    cases r with
    | ok u =>
      have hsucceeds : Succeeds g (i, .joinPath) := by
        show (result Client.openPath (g.client i)).1.toOption.isSome
        rw [hr]
        rfl
      rw [if_pos (show (Except.ok u : Except Error Unit).toOption.isSome from rfl)]
      rcases ih (opened ++ [i]) (g.after (i, .joinPath)) with
        ⟨hcalls, hall, hresult⟩ | ⟨joined, failed, more, e, rfl, hcalls, hall, hfails, hresult⟩
      · refine .inl ⟨by rw [hcalls]; rfl, ⟨hsucceeds, hall⟩, ?_⟩
        rw [List.append_cons opened i rest]
        exact hresult
      · refine .inr ⟨i :: joined, failed, more, e, rfl, ?_, ⟨hsucceeds, hall⟩, hfails, hresult⟩
        rw [hcalls, List.append_cons opened i joined]
        rfl
    | error e =>
      have hfails : ¬ Succeeds g (i, .joinPath) := fun h => by
        have hsome : (result Client.openPath (g.client i)).1.toOption.isSome := h
        rw [hr] at hsome
        cases hsome
      rw [if_neg (show ¬ (Except.error e : Except Error Unit).toOption.isSome from Bool.false_ne_true)]
      refine .inr ⟨[], i, rest, e, rfl, by rw [List.append_nil]; rfl, trivial, hfails, ?_⟩
      simp only
      rw [Act.result_bind_ok (run_dropSchemas ⟨opened⟩ _), Act.result_throw, run_cons]

/-- What entering a session leaves: it is open on each client of the row, or the counts are as they were; and it
closes nothing that it has not opened. -/
theorem sessions_joining (clients : List (Fin n)) (g : Group σ n) :
    Along FindsOpen g (g.joining [] clients) ∧
      ((∃ g', result (SchemaSession.enter clients) g = (.ok ⟨clients⟩, g') ∧
          ∀ x j, g'.sessions x j = g.sessions x j + if Variable.path = x then clients.count j else 0) ∨
        ∃ e g', result (SchemaSession.enter clients) g = (.error e, g') ∧
          ∀ x j, g'.sessions x j = g.sessions x j) := by
  have hjoins : ∀ (row : List (Fin n)), ∀ step ∈ row.map (·, Call.joinPath), step.2.closes? = none := by
    intro row step hstep
    obtain ⟨i, -, rfl⟩ := List.mem_map.1 hstep
    rfl
  rcases g.joining_cases [] clients with
    ⟨hcalls, hall, hresult⟩ | ⟨joined, failed, rest, e, rfl, hcalls, hall, hfails, hresult⟩
  · rw [hcalls] at hresult ⊢
    exact ⟨findsOpen_of_closes_none (hjoins clients) g, .inl ⟨_, hresult, sessions_run_opening rfl rfl hall⟩⟩
  · rw [hcalls, List.nil_append] at hresult ⊢
    have hopened := sessions_run_opening (y := .path) rfl rfl hall
    have hfailed : ∀ x j, ((g.run (joined.map (·, .joinPath))).after (failed, .joinPath)).sessions x j =
        (g.run (joined.map (·, .joinPath))).sessions x j := by
      intro x j
      rw [sessions_after]
      split
      next heq =>
        subst heq
        rw [if_neg fun h => hfails h.2]
        rfl
      next => rfl
    have henough : ∀ j, joined.count j ≤
        ((g.run (joined.map (·, .joinPath))).after (failed, .joinPath)).sessions .path j := by
      intro j
      rw [hfailed, hopened, if_pos rfl]
      omega
    obtain ⟨hclosing, hclosed⟩ := sessions_run_closing (.leavePath true) rfl rfl henough
    refine ⟨along_append.2 ⟨findsOpen_of_closes_none (hjoins joined) g, ?_, hclosing⟩, .inr ⟨e, _, hresult, ?_⟩⟩
    · exact fun x hx => (nomatch hx)
    · intro x j
      rw [run_append, run_cons, hclosed, hfailed, hopened]
      omega

end Group

end DeclaredTriggers
