import DeclaredTriggers.Proofs.Session.Calls

/-!
# What a call sends

On a server about which nothing is assumed a client can still be followed: what it sends depends on
what it knows and on which of its requests were done, and so does what it knows then. `Session.Goes` is
everything that a move can come to that way, with one case for each path through it, and whatever is
proved about all its cases holds against every server, also against one that hangs up:

> `goes_after`: a call sends what its move says, as far as the connection takes it, and leaves what the
> move leaves. Nothing else is sent, the server is where these requests take it, and the connection keeps
> its number and the client its hooks.

The overrides are changed by a call as another client could have changed them, or not at all.
-/

namespace DeclaredTriggers

open Act (result result_bind)

/-! ## What a move can come to -/

namespace Session

/-- What comes of a text that is sent on its own, if there is one: the requests, whether they are done,
and what is known then. -/
inductive Owns (s : Session) : Option String → List Request → Bool → Session → Prop
  | nothing : Owns s none [] true s
  | done (sql : String) : Owns s (some sql) [.batch sql] true (s.settle true)
  | failed (sql : String) :
      Owns s (some sql) [.batch sql] false ((s.track "" false).settle false)

/-- The preamble of a statement with parameters, if one is sent, and what is known by then. -/
def lead (s : Session) (o : Overrides) (sql : String) : Option String × Session :=
  if (controlOf? sql).isNone then
    let (text, s) := s.preamble o sql false
    (if text ≠ "" then some text else none, s)
  else (none, s)

/-- What can come of a move: the requests, whether it succeeds, and what is known then. -/
inductive Goes (o : Overrides) (s : Session) : Move → List Request → Bool → Session → Prop
  | batch (sql : String) (ok : Bool) :
      Goes o s (.batch sql) [.batch (s.withPreamble o sql).1] ok
        (((s.withPreamble o sql).2.track sql ok).settle ok)
  | prepared {sql : String} {params : List String} {reqs : List Request} {s' : Session} (ok : Bool) :
      Owns (s.lead o sql).2 (s.lead o sql).1 reqs true s' →
        Goes o s (.prepared sql params) (reqs ++ [.prepared sql params]) ok (s'.track sql ok)
  | unled {sql : String} {params : List String} {reqs : List Request} {s' : Session} :
      Owns (s.lead o sql).2 (s.lead o sql).1 reqs false s' →
        Goes o s (.prepared sql params) reqs false s'
  | openIgnore : Goes o s .openIgnore [] true { s with ignore := s.ignore.opened }
  | closeIgnore {queueOnly : Bool} {reqs : List Request} {ok : Bool} {s' : Session} :
      Owns (s.closeIgnore queueOnly).2 (s.closeIgnore queueOnly).1 reqs ok s' →
        Goes o s (.closeIgnore queueOnly) reqs ok s'
  /-- The first session on the search path asks what it was. -/
  | captured (path : String) : s.path.sessions = 0 →
      Goes o s .openPath [showPathRequest] true
        { s with initialPath := some path, path := s.path.opened }
  | uncaptured : s.path.sessions = 0 → Goes o s .openPath [showPathRequest] false s
  | openPath : s.path.sessions ≠ 0 → Goes o s .openPath [] true { s with path := s.path.opened }
  | closePath {queueOnly : Bool} {reqs : List Request} {ok : Bool} {s' : Session} :
      Owns (s.closePath queueOnly).2 (s.closePath queueOnly).1 reqs ok s' →
        Goes o s (.closePath queueOnly) reqs ok s'
  | rest (ok : Bool) : Goes o s .rest [] ok s

end Session

namespace Client

variable {σ : Type} [Server σ]

/-! ## What work sends -/

/-- `Sent c c' reqs`: between `c` and `c'` the client sent these requests, as far as its connection took
any, and nothing else; a server at the end of an open one has received them. -/
structure Sent (c c' : Client σ) (reqs : List Request) : Prop where
  number : c'.wire.number = c.wire.number
  hook : c'.hook = c.hook
  tag : c'.tag = c.tag
  sent : c'.journal.sent =
    c.journal.sent ++ if c.wire.isOpen then reqs.map (c.wire.number, ·) else []
  server : c.wire.isOpen →
    c'.wire.server = reqs.foldl (fun s q => (Server.receive q s).2) c.wire.server

theorem Sent.none {c c' : Client σ} (hwire : c'.wire = c.wire) (hhook : c'.hook = c.hook)
    (htag : c'.tag = c.tag) (hsent : c'.journal.sent = c.journal.sent) : Sent c c' [] :=
  ⟨by rw [hwire], hhook, htag, by simp [hsent], fun _ => by rw [hwire]; rfl⟩

/-- Requests that were done leave the connection open for more. -/
theorem Sent.append {c c' c'' : Client σ} {reqs reqs' : List Request} (h : Sent c c' reqs)
    (hopen : c'.wire.isOpen = c.wire.isOpen) (h' : Sent c' c'' reqs') : Sent c c'' (reqs ++ reqs') := by
  refine ⟨h'.number.trans h.number, h'.hook.trans h.hook, h'.tag.trans h.tag, ?_, fun hc => ?_⟩
  · rw [h'.sent, h.sent, hopen, h.number]
    cases c.wire.isOpen <;> simp
  · rw [h'.server (hopen.trans hc), h.server hc, List.foldl_append]

/-- `Leads act c reqs ok s`: the work succeeds on `c` exactly if `ok`; it sends these requests, as far as
the connection takes any, and leaves the session `s`. The overrides stay, and so does the connection if
the work succeeds. -/
def Leads {α : Type} (act : Act (Client σ) α) (c : Client σ) (reqs : List Request) (ok : Bool)
    (s : Session) : Prop :=
  ∃ r c', result act c = (r, c') ∧ r.toOption.isSome = ok ∧ Sent c c' reqs ∧
    (ok → c'.wire.isOpen = c.wire.isOpen) ∧ c'.overrides = c.overrides ∧ c'.session = s

/-- What is learned in front of requests and behind them sends nothing. -/
theorem Sent.of_put {c c' : Client σ} {s : Session} {j : Journal} {reqs : List Request}
    (h : Sent (c.put ⟨s, c.wire.server⟩ j) c' reqs) (hj : j.sent = c.journal.sent) :
    Sent c c' reqs :=
  ⟨h.number, h.hook, h.tag, by rw [← hj]; exact h.sent, h.server⟩

theorem Sent.put {c c' : Client σ} {reqs : List Request} (h : Sent c c' reqs) (s : Session)
    {j : Journal} (hj : j.sent = c'.journal.sent) : Sent c (c'.put ⟨s, c'.wire.server⟩ j) reqs :=
  ⟨h.number, h.hook, h.tag, hj.trans h.sent, h.server⟩

variable {c : Client σ}

/-! ## Requests -/

theorem leads_sendRaw (q : Request) (c : Client σ) : ∃ ok, Leads (sendRaw q) c [q] ok c.session := by
  unfold sendRaw Leads
  rw [Act.result_focus]
  have hsend : result (Line.send q) ⟨c.wire, c.journal⟩ = Line.send q ⟨c.wire, c.journal⟩ := rfl
  rw [hsend]
  dsimp only [Line.send, ExceptT.mk]
  by_cases hopen : c.wire.isOpen
  · rw [if_pos hopen]
    have hsent : c.journal.sent ++ [(c.wire.number, q)] =
        c.journal.sent ++ if c.wire.isOpen then [q].map (c.wire.number, ·) else [] := by
      rw [if_pos hopen]
      rfl
    generalize hreceived : Server.receive q c.wire.server = received
    have hserver : c.wire.isOpen →
        received.2 = [q].foldl (fun s q => (Server.receive q s).2) c.wire.server :=
      fun _ => congrArg Prod.snd hreceived.symm
    rcases received with ⟨_ | _ | _, server⟩
    · exact ⟨true, _, _, rfl, rfl, ⟨rfl, rfl, rfl, hsent, hserver⟩, fun _ => rfl, rfl, rfl⟩
    · exact ⟨false, _, _, rfl, rfl, ⟨rfl, rfl, rfl, hsent, hserver⟩, fun hok => (nomatch hok), rfl,
        rfl⟩
    · exact ⟨false, _, _, rfl, rfl, ⟨rfl, rfl, rfl, hsent, hserver⟩, fun hok => (nomatch hok), rfl,
        rfl⟩
  · rw [if_neg hopen]
    refine ⟨false, _, _, rfl, rfl, ⟨rfl, rfl, rfl, ?_, fun h => absurd h hopen⟩,
      fun hok => (nomatch hok), rfl, rfl⟩
    rw [if_neg hopen, List.append_nil]

theorem leads_sendBatch (sql : String) (c : Client σ) :
    ∃ ok, Leads (sendBatch sql) c [.batch sql] ok c.session := by
  obtain ⟨ok, r, c', hresult, hr, hrest⟩ := leads_sendRaw (.batch sql) c
  refine ⟨ok, r.map fun _ => (), c', ?_, ?_, hrest⟩
  · unfold sendBatch
    rw [result_bind, hresult]
    cases r <;> rfl
  · rw [← hr]
    cases r <;> rfl

/-- What is sent on its own is done or fails, and is tracked. -/
theorem leads_sendOwn (sql : String) (c : Client σ) :
    ∃ reqs ok s, c.session.Owns (some sql) reqs ok s ∧ Leads (sendOwn sql) c reqs ok s := by
  obtain ⟨ok, r, c', hresult, hr, hsent, hopen, ho, hs⟩ := leads_sendBatch sql c
  unfold sendOwn Leads
  rw [Act.result_bind_ok (Act.result_attempt hresult)]
  cases r with
  | ok u =>
    subst hr
    refine ⟨_, _, _, .done sql, .ok (), { c' with session := c'.session.settle true }, rfl, rfl,
      ⟨hsent.number, hsent.hook, hsent.tag, hsent.sent, hsent.server⟩, hopen, ho, ?_⟩
    exact congrArg (Session.settle · true) hs
  | error e =>
    subst hr
    refine ⟨_, _, _, .failed sql, .error e,
      { c' with session := (c'.session.track "" false).settle false }, rfl, rfl,
      ⟨hsent.number, hsent.hook, hsent.tag, hsent.sent, hsent.server⟩, hopen, ho, ?_⟩
    exact congrArg (fun s : Session => (s.track "" false).settle false) hs

theorem leads_sendUndo (undo : Option String) (c : Client σ) :
    ∃ reqs ok s, c.session.Owns undo reqs ok s ∧ Leads (sendUndo undo) c reqs ok s := by
  cases undo with
  | some sql => exact leads_sendOwn sql c
  | none =>
    exact ⟨_, _, _, .nothing, .ok (), c, rfl, rfl, .none rfl rfl rfl rfl, fun _ => rfl, rfl, rfl⟩

/-- Work on a client that knows something else. -/
theorem Leads.of_session {α : Type} {act : Act (Client σ) α} {s s' : Session} {reqs : List Request}
    {ok : Bool} (h : Leads act { c with session := s } reqs ok s') :
    ∃ r c', result act { c with session := s } = (r, c') ∧ r.toOption.isSome = ok ∧
      Sent c c' reqs ∧ (ok → c'.wire.isOpen = c.wire.isOpen) ∧ c'.overrides = c.overrides ∧
      c'.session = s' := by
  obtain ⟨r, c', hresult, hr, hsent, hrest⟩ := h
  exact ⟨r, c', hresult, hr, ⟨hsent.number, hsent.hook, hsent.tag, hsent.sent, hsent.server⟩, hrest⟩

/-- The preamble of a statement with parameters is what leads it. -/
theorem leads_sendPreamble (sql : String) (c : Client σ) :
    ∃ reqs ok s, (c.session.lead c.overrides sql).2.Owns (c.session.lead c.overrides sql).1 reqs ok s ∧
      Leads (sendPreamble sql) c reqs ok s := by
  unfold sendPreamble Session.lead
  cases controlOf? sql with
  | some control =>
    exact ⟨_, _, _, .nothing, .ok (), c, rfl, rfl, .none rfl rfl rfl rfl, fun _ => rfl, rfl, rfl⟩
  | none =>
    have hdecide : result (decide fun s o => s.preamble o sql false) c =
        (.ok (c.session.preamble c.overrides sql false).1,
          { c with session := (c.session.preamble c.overrides sql false).2 }) := rfl
    unfold Leads
    simp only [Option.isNone_none, if_true, result_bind, hdecide]
    by_cases htext : (c.session.preamble c.overrides sql false).1 = ""
    · -- an empty preamble is not sent, but what it decided is known
      rw [if_neg fun hne => hne htext, if_neg fun hne => hne htext]
      exact ⟨_, _, _, .nothing, .ok (), _, rfl, rfl, .none rfl rfl rfl rfl, fun _ => rfl, rfl, rfl⟩
    · rw [if_pos htext, if_pos htext]
      obtain ⟨reqs, ok, s, howns, hleads⟩ :=
        leads_sendOwn (c.session.preamble c.overrides sql false).1
          { c with session := (c.session.preamble c.overrides sql false).2 }
      exact ⟨reqs, ok, s, howns, hleads.of_session⟩

/-! ## Moves -/

theorem leads_prepared {α : Type} (sql : String) (params : List String) (value : Answer → α)
    (outcome : α → Hook.Outcome) (c : Client σ) :
    ∃ reqs ok s, c.session.Goes c.overrides ((c.left sql params.length).elim .rest
        (.prepared · params)) reqs ok s ∧ Leads (prepared sql params value outcome) c reqs ok s := by
  obtain ⟨r, j, hj, hinspect, hleft⟩ := result_inspect sql params.length c
  rw [← hleft]
  unfold prepared Leads
  cases r with
  | error e =>
    -- the hooks refuse the statement
    rw [Act.result_bind_error hinspect]
    exact ⟨_, _, _, .rest false, .error e, _, rfl, rfl, (Sent.none rfl rfl rfl rfl).put _ hj,
      fun hok => (nomatch hok), rfl, rfl⟩
  | ok context =>
    obtain ⟨reqs, ok, s, howns, r₁, c₁, hpreamble, hr₁, hsent₁, hopen₁, ho₁, hs₁⟩ :=
      leads_sendPreamble context.exec (c.put c.link j)
    rw [Act.result_bind_ok hinspect]
    cases r₁ with
    | error e =>
      -- the preamble fails, and the statement is not sent
      cases hr₁
      rw [Act.result_bind_error hpreamble]
      exact ⟨_, _, _, .unled howns, .error e, _, rfl, rfl, hsent₁.of_put hj, fun hok => (nomatch hok),
        ho₁, hs₁⟩
    | ok u =>
      cases hr₁
      obtain ⟨ok₂, r₂, c₂, hsend, hr₂, hsent₂, hopen₂, ho₂, hs₂⟩ :=
        leads_sendRaw (.prepared context.exec params) c₁
      obtain ⟨j₃, hj₃, htrack⟩ := result_track_conclude (·.track context.exec r₂.toOption.isSome)
        context outcome (r₂.map value) c₂
      rw [Act.result_bind_ok hpreamble, Act.result_bind_ok (Act.result_attempt hsend), htrack]
      refine ⟨_, _, _, .prepared ok₂ howns, _, _, rfl, ?_, ?_, fun hok => ?_, ho₂.trans ho₁, ?_⟩
      · rw [← hr₂]
        cases r₂ <;> rfl
      · exact ((hsent₁.of_put hj).append (hopen₁ rfl) hsent₂).put _ hj₃
      · exact (hopen₂ hok).trans (hopen₁ rfl)
      · rw [← hr₂, ← hs₁, ← hs₂]
        rfl

theorem leads_batch (sql : String) (c : Client σ) :
    ∃ reqs ok s, c.session.Goes c.overrides ((c.left sql 0).elim .rest .batch) reqs ok s ∧
      Leads (batch sql) c reqs ok s := by
  obtain ⟨r, j, hj, hinspect, hleft⟩ := result_inspect sql 0 c
  rw [← hleft]
  unfold batch Leads
  cases r with
  | error e =>
    rw [Act.result_bind_error hinspect]
    exact ⟨_, _, _, .rest false, .error e, _, rfl, rfl, (Sent.none rfl rfl rfl rfl).put _ hj,
      fun hok => (nomatch hok), rfl, rfl⟩
  | ok context =>
    have hdecide : result (decide fun s o => s.withPreamble o context.exec)
        (c.put c.link j) =
        (.ok (c.session.withPreamble c.overrides context.exec).1,
          c.put ⟨(c.session.withPreamble c.overrides context.exec).2, c.wire.server⟩ j) := rfl
    obtain ⟨ok, r₁, c₁, hsend, hr₁, hsent₁, hopen₁, ho₁, hs₁⟩ :=
      leads_sendBatch (c.session.withPreamble c.overrides context.exec).1
        (c.put ⟨(c.session.withPreamble c.overrides context.exec).2, c.wire.server⟩ j)
    obtain ⟨j₂, hj₂, htrack⟩ := result_track_conclude
      (fun s => (s.track context.exec r₁.toOption.isSome).settle r₁.toOption.isSome) context
      (fun () => .batch) r₁ c₁
    rw [Act.result_bind_ok hinspect, Act.result_bind_ok hdecide,
      Act.result_bind_ok (Act.result_attempt hsend), htrack]
    refine ⟨_, _, _, .batch context.exec ok, _, _, rfl, hr₁, ?_, hopen₁, ho₁, ?_⟩
    · exact (hsent₁.of_put hj).put _ hj₂
    · rw [← hr₁]
      show (c₁.session.track _ _).settle _ = _
      rw [hs₁]
      rfl

theorem leads_closeIgnore (c : Client σ) :
    ∃ reqs ok s, (c.session.closeIgnore false).2.Owns (c.session.closeIgnore false).1 reqs ok s ∧
      Leads closeIgnore c reqs ok s := by
  have hdecide : result (decide fun s _ => s.closeIgnore false) c =
      (.ok (c.session.closeIgnore false).1, { c with session := (c.session.closeIgnore false).2 }) :=
    rfl
  obtain ⟨reqs, ok, s, howns, hleads⟩ := leads_sendUndo (c.session.closeIgnore false).1
    { c with session := (c.session.closeIgnore false).2 }
  refine ⟨reqs, ok, s, howns, ?_⟩
  unfold closeIgnore Leads
  rw [Act.result_bind_ok hdecide]
  exact hleads.of_session

theorem leads_closePath (c : Client σ) :
    ∃ reqs ok s, (c.session.closePath false).2.Owns (c.session.closePath false).1 reqs ok s ∧
      Leads closePath c reqs ok s := by
  have hdecide : result (decide fun s _ => s.closePath false) c =
      (.ok (c.session.closePath false).1, { c with session := (c.session.closePath false).2 }) := rfl
  obtain ⟨reqs, ok, s, howns, hleads⟩ := leads_sendUndo (c.session.closePath false).1
    { c with session := (c.session.closePath false).2 }
  refine ⟨reqs, ok, s, howns, ?_⟩
  unfold closePath Leads
  rw [Act.result_bind_ok hdecide]
  exact hleads.of_session

/-- A session that is dropped only queues its undoing. -/
theorem goes_drop (s : Session) (o : Overrides) :
    s.Goes o (.closeIgnore true) [] true (s.closeIgnore true).2 ∧
      s.Goes o (.closePath true) [] true (s.closePath true).2 := by
  have hclose : ∀ (t : Setting) (idle : Bool) (undo : Option String),
      (t.close idle false undo).1 = none := by
    intro t idle undo
    unfold Setting.close
    cases undo with
    | none => rfl
    | some sql =>
      simp only
      split <;> rfl
  constructor
  · refine .closeIgnore ?_
    rw [show (s.closeIgnore true).1 = none from
      hclose s.ignore (s.status = .idle) (some resetIgnoreSql)]
    exact .nothing
  · refine .closePath ?_
    rw [show (s.closePath true).1 = none from hclose s.path (s.status = .idle) s.undoPath?]
    exact .nothing

theorem leads_showPath (c : Client σ) : ∃ ok, Leads showPath c [showPathRequest] ok c.session := by
  obtain ⟨ok, r, c', hsend, hr, hsent, hopen, ho, hs⟩ := leads_sendRaw showPathRequest c
  unfold Leads showPath
  rw [show sendRaw (.prepared "SHOW search_path" []) = sendRaw (σ := σ) showPathRequest from rfl]
  cases r with
  | error e =>
    rw [Act.result_bind_error hsend]
    exact ⟨false, _, _, rfl, rfl, hsent, fun hok => (nomatch hok), ho, hs⟩
  | ok answer =>
    subst hr
    rw [Act.result_bind_ok hsend]
    cases answer.rows with
    | nil => exact ⟨false, _, _, rfl, rfl, hsent, fun hok => (nomatch hok), ho, hs⟩
    | cons row rows => exact ⟨_, _, _, Act.result_lift _ _, rfl, hsent, fun _ => hopen rfl, ho, hs⟩

theorem leads_openPath (c : Client σ) :
    ∃ reqs ok s, c.session.Goes c.overrides .openPath reqs ok s ∧ Leads openPath c reqs ok s := by
  unfold openPath Leads
  rw [Act.result_bind_ok (Act.result_get c)]
  by_cases hfirst : c.session.path.sessions = 0
  · simp only [hfirst, if_true]
    obtain ⟨ok, r, c', hshow, hr, hsent, hopen, ho, hs⟩ := leads_showPath c
    cases r with
    | error e =>
      subst hr
      have hbind : ∀ f : String → Act (Client σ) Unit,
          result (showPath >>= f) c = (.error e, c') := fun f => Act.result_bind_error hshow f
      refine ⟨_, _, _, .uncaptured hfirst, .error e, c', ?_, rfl, hsent, fun hok => (nomatch hok), ho,
        hs⟩
      simp only [result_bind, hshow]
    | ok path =>
      subst hr
      refine ⟨_, _, _, .captured path hfirst, .ok (), { c' with session :=
        { c'.session with initialPath := some path, path := c'.session.path.opened } }, ?_, rfl,
        ⟨hsent.number, hsent.hook, hsent.tag, hsent.sent, hsent.server⟩, hopen, ho, ?_⟩
      · simp only [result_bind, hshow]
        rfl
      · rw [← hs]
  · simp only [hfirst, if_false]
    exact ⟨_, _, _, .openPath hfirst, .ok (), { c with session :=
      { c.session with path := c.session.path.opened } }, rfl, rfl, .none rfl rfl rfl rfl,
      fun _ => rfl, rfl, rfl⟩

/-! ## Calls -/

/-- What comes of a call: its requests, and whether it succeeds. -/
structure Goes (c : Client σ) (call : Call) (reqs : List Request) (ok : Bool) : Prop where
  session : c.session.Goes c.overrides (c.move call) reqs ok (c.after call).session
  succeeds : (result call.act c).1.toOption.isSome = ok
  sent : Sent c (c.after call) reqs
  overrides : (c.after call).overrides = c.overrides ∨
    ∃ change : Elsewhere, (c.after call).overrides = change.apply c.overrides

section

variable {call : Call} {reqs : List Request} {ok : Bool} {s : Session}

/-- Work that gives something nobody asked for. -/
theorem Leads.forget {α : Type} {act : Act (Client σ) α} (h : Leads act c reqs ok s) :
    Leads (do let _ ← act) c reqs ok s := by
  obtain ⟨r, c', hresult, hr, hrest⟩ := h
  cases r with
  | ok a => exact ⟨.ok (), c', Act.result_bind_ok hresult _, hr, hrest⟩
  | error e => exact ⟨.error e, c', Act.result_bind_error hresult _, hr, hrest⟩

theorem Leads.goes (call : Call) (h : Leads call.act c reqs ok s)
    (hgoes : c.session.Goes c.overrides (c.move call) reqs ok s) : c.Goes call reqs ok := by
  obtain ⟨r, c', hresult, hr, hsent, -, ho, rfl⟩ := h
  have hafter : c.after call = c' := congrArg Prod.snd hresult
  exact ⟨hafter ▸ hgoes, by rw [hresult]; exact hr, hafter ▸ hsent, .inl (hafter ▸ ho)⟩

/-- Work behind a change of the overrides. -/
theorem Leads.goes_of_override (call : Call) (change : Elsewhere) {act : Act (Client σ) Unit}
    (h : Leads act { c with overrides := change.apply c.overrides } reqs ok s)
    (hact : call.act = do
      override fun o => ((), change.apply o)
      act)
    (hgoes : c.session.Goes c.overrides (c.move call) reqs ok s) : c.Goes call reqs ok := by
  obtain ⟨r, c', hresult, hr, hsent, -, ho, rfl⟩ := h
  have hoverride : result (override fun o => ((), change.apply o)) c =
      (.ok (), { c with overrides := change.apply c.overrides }) := rfl
  have hboth : result call.act c = (r, c') := by
    rw [hact, Act.result_bind_ok hoverride, hresult]
  have hafter : c.after call = c' := congrArg Prod.snd hboth
  refine ⟨hafter ▸ hgoes, by rw [hboth]; exact hr, hafter ▸ ?_, .inr ⟨change, hafter ▸ ho⟩⟩
  exact ⟨hsent.number, hsent.hook, hsent.tag, hsent.sent, hsent.server⟩

/-- A change of what is known and of the overrides sends nothing. -/
theorem goes_of_result {r : Except Error Unit} {o : Overrides}
    (hresult : result call.act c = (r, { c with session := s, overrides := o }))
    (hgoes : c.session.Goes c.overrides (c.move call) [] r.toOption.isSome s)
    (ho : o = c.overrides ∨ ∃ change : Elsewhere, o = change.apply c.overrides) :
    c.Goes call [] r.toOption.isSome := by
  have hafter : c.after call = { c with session := s, overrides := o } := congrArg Prod.snd hresult
  exact ⟨by rw [hafter]; exact hgoes, by rw [hresult], by rw [hafter]; exact .none rfl rfl rfl rfl,
    by rw [hafter]; exact ho⟩

end

theorem goes_ignore (registry : Registry) (uris : List String) (c : Client σ) :
    ∃ ok, c.Goes (.ignore registry uris) [] ok := by
  have hmove : c.move (.ignore registry uris) =
      if (registry.ignorable uris).toBool then .openIgnore else .rest := rfl
  have hlift := Act.result_lift (registry.ignorable uris) c
  cases hids : registry.ignorable uris with
  | error e =>
    rw [hids] at hlift hmove
    refine ⟨_, goes_of_result (s := c.session) (o := c.overrides) (r := .error e) ?_ ?_ (.inl rfl)⟩
    · show result (do let _ ← ignore registry uris) c = _
      unfold ignore
      rw [hids, Act.result_bind_error (Act.result_bind_error hlift _)]
    · rw [hmove]
      exact .rest false
  | ok ids =>
    rw [hids] at hlift hmove
    refine ⟨_, goes_of_result (s := { c.session with ignore := c.session.ignore.opened })
      (o := (c.overrides.addIgnored ids).2) (r := .ok ()) ?_ ?_
      (.inr ⟨.ignore registry uris, ?_⟩)⟩
    · show result (do let _ ← ignore registry uris) c = _
      have hignore : result (ignore registry uris) c = result (ignoring ids) c := by
        unfold ignore
        rw [hids]
        exact Act.result_bind_ok hlift _
      rw [result_bind, hignore]
      rfl
    · rw [hmove]
      exact .openIgnore
    · simp only [Elsewhere.apply, hids]

theorem goes_search (schemas : List String) (c : Client σ) :
    ∃ reqs ok, c.Goes (.search schemas) reqs ok := by
  have hmove : c.move (.search schemas) =
      if (schemas.mapM schemaName : Except Error _).toBool then .openPath else .rest := rfl
  have hlift := Act.result_lift (schemas.mapM schemaName : Except Error _) c
  cases hnames : (schemas.mapM schemaName : Except Error _) with
  | error e =>
    rw [hnames] at hlift hmove
    refine ⟨_, _, goes_of_result (s := c.session) (o := c.overrides) (r := .error e) ?_ ?_
      (.inl rfl)⟩
    · show result (do let _ ← searching schemas) c = _
      unfold searching
      rw [hnames, Act.result_bind_error (Act.result_bind_error hlift _)]
    · rw [hmove]
      exact .rest false
  | ok names =>
    rw [hnames] at hlift hmove
    obtain ⟨reqs, ok, s, hgoes, r, c', hopenPath, hr, hsent, hopen, ho, hs⟩ := leads_openPath c
    have hsearching : result (searching schemas) c = match (r, c') with
        | (.ok _, c') => (.ok ⟨(c'.overrides.addSchemas names).1⟩,
            { c' with overrides := (c'.overrides.addSchemas names).2 })
        | (.error e, c') => (.error e, c') := by
      unfold searching
      rw [hnames, Act.result_bind_ok hlift, result_bind, hopenPath]
      cases r <;> rfl
    have hact : (Call.search schemas).act = (do let _ ← searching schemas : Act (Client σ) Unit) := rfl
    refine ⟨reqs, ok, ?_⟩
    cases r with
    | error e =>
      have hresult : result (Call.search schemas).act c = (.error e, c') := by
        rw [hact, Act.result_bind_error hsearching]
      have hafter : c.after (.search schemas) = c' := congrArg Prod.snd hresult
      refine ⟨?_, by rw [hresult]; exact hr, hafter ▸ hsent, .inl (hafter ▸ ho)⟩
      rw [hafter, hmove, hs]
      exact hgoes
    | ok u =>
      have hresult : result (Call.search schemas).act c =
          (.ok (), { c' with overrides := (c'.overrides.addSchemas names).2 }) := by
        rw [hact, Act.result_bind_ok hsearching]
        rfl
      have hafter : c.after (.search schemas) =
          { c' with overrides := (c'.overrides.addSchemas names).2 } := congrArg Prod.snd hresult
      refine ⟨?_, by rw [hresult]; exact hr, ?_, .inr ⟨.search names, ?_⟩⟩
      · rw [hafter, hmove, show ({ c' with overrides := _ } : Client σ).session = c'.session from rfl,
          hs]
        exact hgoes
      · rw [hafter]
        exact ⟨hsent.number, hsent.hook, hsent.tag, hsent.sent, hsent.server⟩
      · rw [hafter, ← ho]
        rfl

/-- A call sends what its move says, as far as the connection takes it, and leaves what the move
leaves. -/
theorem goes_after (c : Client σ) (call : Call) : ∃ reqs ok, c.Goes call reqs ok := by
  cases call with
  | batch sql =>
    obtain ⟨reqs, ok, s, hgoes, hleads⟩ := leads_batch sql c
    exact ⟨reqs, ok, hleads.goes (.batch sql) hgoes⟩
  | query sql params =>
    obtain ⟨reqs, ok, s, hgoes, hleads⟩ :=
      leads_prepared sql params Answer.rows (fun rows => .rows rows.length) c
    exact ⟨reqs, ok, hleads.forget.goes (.query sql params) hgoes⟩
  | execute sql params =>
    obtain ⟨reqs, ok, s, hgoes, hleads⟩ := leads_prepared sql params Answer.affected .affected c
    exact ⟨reqs, ok, hleads.forget.goes (.execute sql params) hgoes⟩
  | ignore registry uris =>
    obtain ⟨ok, h⟩ := goes_ignore registry uris c
    exact ⟨[], ok, h⟩
  | releaseIgnore scope =>
    obtain ⟨reqs, ok, s, howns, hleads⟩ :=
      leads_closeIgnore { c with overrides := c.overrides.removeIgnored scope.added }
    exact ⟨reqs, ok, hleads.goes_of_override (.releaseIgnore scope)
      (.ignoreNoLonger scope.added) rfl (.closeIgnore howns)⟩
  | dropIgnore scope =>
    exact ⟨[], true, goes_of_result (r := .ok ()) (o := c.overrides.removeIgnored scope.added) rfl
      (goes_drop c.session c.overrides).1 (.inr ⟨.ignoreNoLonger scope.added, rfl⟩)⟩
  | search schemas => exact goes_search schemas c
  | releaseSchema scope =>
    obtain ⟨reqs, ok, s, howns, hleads⟩ :=
      leads_closePath { c with overrides := c.overrides.removeSchemas scope.added }
    exact ⟨reqs, ok, hleads.goes_of_override (.releaseSchema scope)
      (.searchNoLonger scope.added) rfl (.closePath howns)⟩
  | dropSchema scope =>
    exact ⟨[], true, goes_of_result (r := .ok ()) (o := c.overrides.removeSchemas scope.added) rfl
      (goes_drop c.session c.overrides).2 (.inr ⟨.searchNoLonger scope.added, rfl⟩)⟩
  | joinIgnore =>
    exact ⟨[], true, goes_of_result (r := .ok ()) (o := c.overrides) rfl .openIgnore (.inl rfl)⟩
  | leaveIgnore queueOnly =>
    cases queueOnly with
    | false =>
      obtain ⟨reqs, ok, s, howns, hleads⟩ := leads_closeIgnore c
      exact ⟨reqs, ok, hleads.goes (.leaveIgnore false) (.closeIgnore howns)⟩
    | true =>
      exact ⟨[], true, goes_of_result (r := .ok ()) (o := c.overrides) rfl
        (goes_drop c.session c.overrides).1 (.inl rfl)⟩
  | joinPath =>
    obtain ⟨reqs, ok, s, hgoes, hleads⟩ := leads_openPath c
    exact ⟨reqs, ok, hleads.goes .joinPath hgoes⟩
  | leavePath queueOnly =>
    cases queueOnly with
    | false =>
      obtain ⟨reqs, ok, s, howns, hleads⟩ := leads_closePath c
      exact ⟨reqs, ok, hleads.goes (.leavePath false) (.closePath howns)⟩
    | true =>
      exact ⟨[], true, goes_of_result (r := .ok ()) (o := c.overrides) rfl
        (goes_drop c.session c.overrides).2 (.inl rfl)⟩
  | elsewhere change =>
    exact ⟨[], true, goes_of_result (r := .ok ()) (s := c.session) rfl (.rest true)
      (.inr ⟨change, rfl⟩)⟩

end Client

end DeclaredTriggers
