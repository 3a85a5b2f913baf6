import DeclaredTriggers.Proofs.Session.Roster

/-!
# Clients that cannot be told apart

What a client takes for the path to go back to matters only while something on the search path is set, owed or
needed: the first session asks for the path again. So two clients that differ in nothing else, and in this only
where the search path is untouched (`Client.LooksLike`), send the same and come to the same, whatever is asked of both
and whatever their servers answer. There is one lemma for each part of a client's work, which says that both do
the same and are alike again (`Act.Agree`).

> `Roster.looksLike_run`: rosters with the same guards on clients that are alike leave the same journal behind,
> whichever steps they take.

One kind of call is left out: a session must not be closed on a search path on which none is open. Exact counts rule
that out (`Roster.sessions_exact`).
-/

namespace DeclaredTriggers

open Act (result Agree)
open Sql (Control)

/-! ## Sessions -/

/-- `s.LooksLike t`, or `s` and `t` are alike: the sessions are the same, or they differ in what they take for the
path to go back to and the search path is untouched. -/
inductive Session.LooksLike (s : Session) : Session → Prop
  | same : LooksLike s s
  | untouched (path : Option String) : s.path = {} → LooksLike s { s with initialPath := path }

namespace Session

variable {s t : Session}

/-- Work that takes the path to go back to along and leaves an untouched search path untouched keeps sessions
alike. -/
theorem LooksLike.map (h : s.LooksLike t) {f : Session → Session} (hpath : s.path = {} → (f s).path = {})
    (htold : ∀ path, s.path = {} → f { s with initialPath := path } = { f s with initialPath := path }) :
    (f s).LooksLike (f t) := by
  cases h with
  | same => exact .same
  | untouched path hs =>
    rw [htold path hs]
    exact .untouched path (hpath hs)

theorem LooksLike.status (h : s.LooksLike t) : t.status = s.status := by cases h <;> rfl

theorem LooksLike.setting (h : s.LooksLike t) (x : Variable) : t.setting x = s.setting x := by
  cases h <;> cases x <;> rfl

theorem LooksLike.eq_of_open (h : s.LooksLike t) (hopen : 0 < s.path.sessions) : t = s := by
  cases h with
  | same => rfl
  | untouched path hs =>
    rw [hs] at hopen
    cases hopen

/-- What depends on the path to go back to in no other way than it is taken along comes out the same. -/
theorem LooksLike.work (h : s.LooksLike t) {α : Type} {f : Session → α × Session}
    (hf : ∀ path, s.path = {} → (f s).2.path = {} ∧
      f { s with initialPath := path } = ((f s).1, { (f s).2 with initialPath := path })) :
    (f t).1 = (f s).1 ∧ (f s).2.LooksLike (f t).2 := by
  cases h with
  | same => exact ⟨rfl, .same⟩
  | untouched path hs =>
    obtain ⟨hpath, htold⟩ := hf path hs
    rw [htold]
    exact ⟨rfl, .untouched path hpath⟩

theorem LooksLike.preamble (h : s.LooksLike t) (o : Overrides) (statement : String) (inBatch : Bool) :
    (t.preamble o statement inBatch).1 = (s.preamble o statement inBatch).1 ∧
      (s.preamble o statement inBatch).2.LooksLike (t.preamble o statement inBatch).2 := by
  refine h.work (f := (Session.preamble · o statement inBatch)) fun path hs => ?_
  dsimp only
  cases hback : s.holdsBack statement with
  | true =>
    have hback' : ({ s with initialPath := path } : Session).holdsBack statement = true := hback
    rw [preamble_of_holdsBack hback, preamble_of_holdsBack hback']
    exact ⟨hs, rfl⟩
  | false =>
    have hback' : ({ s with initialPath := path } : Session).holdsBack statement = false := hback
    have huntouched : ∀ isLocal something : Bool, Setting.setAlong {} isLocal something = {} := by decide
    refine ⟨?_, Prod.ext ?_ ?_⟩
    · rw [preamble_session, hback]
      simp only [Bool.false_eq_true, if_false, hs, huntouched]
    · rw [preamble_text hback', preamble_text hback]
      simp only [hs, Bool.false_eq_true, if_false]
    · rw [preamble_session, preamble_session, hback', hback]
      rfl

theorem LooksLike.withPreamble (h : s.LooksLike t) (o : Overrides) (sql : String) :
    (t.withPreamble o sql).1 = (s.withPreamble o sql).1 ∧
      (s.withPreamble o sql).2.LooksLike (t.withPreamble o sql).2 := by
  have hfront := fun statement => h.preamble o statement true
  have hplaced := placed_withPreamble s o sql
  generalize s.withPreamble o sql = sent at hplaced ⊢
  cases hplaced with
  | first hc =>
    rw [withPreamble_of_ordinary hc]
    exact ⟨congrArg (· ++ sql) (hfront sql).1, (hfront sql).2⟩
  | second hc henters hsplit hrest =>
    rw [withPreamble_of_split hc henters hsplit hrest]
    exact ⟨by rw [(hfront _).1], (hfront _).2⟩
  | nowhere hc hnone =>
    rw [withPreamble_of_control hc hnone]
    exact ⟨rfl, h⟩

theorem path_committed (s : Session) (h : s.path = {}) : s.committed.path = {} := by
  rw [show s.committed.path = s.path.committed from rfl, h]
  rfl

theorem path_rolledBack (s : Session) (h : s.path = {}) : s.rolledBack.path = {} := by
  rw [show s.rolledBack.path = s.path.rolledBack from rfl, h]
  rfl

/-- Commits, rollbacks and failures do not look at the path to go back to. -/
theorem LooksLike.track (h : s.LooksLike t) (sql : String) (ok : Bool) :
    (s.track sql ok).LooksLike (t.track sql ok) := by
  refine h.map (f := (Session.track · sql ok))
    (fun hs => track_keeps path_committed path_rolledBack (fun _ _ h => h) hs sql ok) fun path _ => ?_
  have hcontrol : ∀ (s : Session) (c : Control),
      ({ s with initialPath := path } : Session).afterControl c = { s.afterControl c with initialPath := path } := by
    intro s c
    cases c with
    | commit => by_cases hs : s.status = .inError <;> simp [afterControl, hs, Session.rolledBack, Session.committed]
    | opens | rollback | rollbackTo | savepoint | release => rfl
  cases ok with
  | true =>
    rw [track_true, track_true]
    exact List.foldl_hom (fun s : Session => { s with initialPath := path }) hcontrol
  | false =>
    rw [track_false, track_false]
    unfold afterFailure
    split
    next => rfl
    next => split <;> rfl

theorem LooksLike.settle (h : s.LooksLike t) (ok : Bool) : (s.settle ok).LooksLike (t.settle ok) := by
  refine h.map (f := (Session.settle · ok)) (fun hs => settle_keeps path_committed path_rolledBack hs ok)
    fun path _ => ?_
  unfold Session.settle
  by_cases hstatus : s.status = .idle <;> cases ok <;> simp [hstatus, Session.committed, Session.rolledBack]

theorem LooksLike.closeIgnore (h : s.LooksLike t) (queueOnly : Bool) :
    (t.closeIgnore queueOnly).1 = (s.closeIgnore queueOnly).1 ∧
      (s.closeIgnore queueOnly).2.LooksLike (t.closeIgnore queueOnly).2 :=
  h.work (f := (Session.closeIgnore · queueOnly)) fun _ hs => ⟨hs, rfl⟩

theorem LooksLike.opened (h : s.LooksLike t) :
    LooksLike { s with ignore := s.ignore.opened } { t with ignore := t.ignore.opened } :=
  h.map (f := fun s => { s with ignore := s.ignore.opened }) id fun _ _ => rfl

/-- A first session makes them the same. -/
theorem LooksLike.captured (h : s.LooksLike t) (path : String) :
    LooksLike { s with initialPath := some path, path := s.path.opened }
      { t with initialPath := some path, path := t.path.opened } := by
  cases h <;> exact .same

theorem LooksLike.rolledBack (h : s.LooksLike t) : s.rolledBack.LooksLike t.rolledBack :=
  h.map (f := Session.rolledBack) (path_rolledBack s) fun _ _ => rfl

/-- What an untouched search path is taken to go back to is not owed. -/
theorem LooksLike.owed (h : s.LooksLike t) : t.owed = s.owed := by
  cases h with
  | same => rfl
  | untouched path hs =>
    unfold Session.owed
    simp only [hs]
    rfl

end Session

/-! ## Clients -/

namespace Client

variable {σ : Type} {c d : Client σ}

/-- Clients whose sessions are alike and that are the same in everything else. -/
structure LooksLike (c d : Client σ) : Prop where
  session : c.session.LooksLike d.session
  rest : d = { c with session := d.session }

namespace LooksLike

theorem refl (c : Client σ) : c.LooksLike c := ⟨.same, rfl⟩

theorem eq_of_open (h : c.LooksLike d) (hopen : 0 < c.session.path.sessions) : d = c := by
  rw [h.rest, h.session.eq_of_open hopen]

theorem overrides (h : c.LooksLike d) : d.overrides = c.overrides := by rw [h.rest]

/-- What a client learns from both sessions alike leaves them alike. -/
theorem of_session (h : c.LooksLike d) {s t : Session} (hs : s.LooksLike t) :
    LooksLike { c with session := s } { d with session := t } :=
  ⟨hs, by rw [h.rest]⟩

/-- Whatever else changes changes in both. -/
theorem of_rest (h : c.LooksLike d) (f : Client σ → Client σ)
    (hf : ∀ (c : Client σ) s, f { c with session := s } = { f c with session := s }) : (f c).LooksLike (f d) := by
  have hsession : ∀ c : Client σ, (f c).session = c.session := fun c => congrArg (·.session) (hf c c.session)
  refine ⟨?_, ?_⟩
  · rw [hsession, hsession]
    exact h.session
  · rw [hsession]
    exact (congrArg f h.rest).trans (hf c d.session)

end LooksLike

/-! ### What a client does without its server -/

/-- Both do the same and are alike again. -/
abbrev AgreeOn {α : Type} (act : Act (Client σ) α) (c d : Client σ) : Prop :=
  Agree LooksLike (result act c) (result act d)

variable (h : c.LooksLike d)

include h

theorem agree_record (events : List Event) : AgreeOn (record events) c d :=
  ⟨rfl, h.of_rest (fun c => { c with journal := { c.journal with events := c.journal.events ++ events } })
    fun _ _ => rfl⟩

theorem agree_learn {f : Session → Session} (hf : ∀ {s t : Session}, s.LooksLike t → (f s).LooksLike (f t)) :
    AgreeOn (learn f) c d :=
  ⟨rfl, h.of_session (hf h.session)⟩

theorem agree_decide {α : Type} {f : Session → Overrides → α × Session}
    (hf : ∀ {s t : Session} (o : Overrides), s.LooksLike t → (f t o).1 = (f s o).1 ∧ (f s o).2.LooksLike (f t o).2) :
    AgreeOn (decide f) c d := by
  obtain ⟨hcame, hleft⟩ := hf c.overrides h.session
  refine Agree.get ⟨?_, ?_⟩
  · show Except.ok (f c.session c.overrides).1 = Except.ok (f d.session d.overrides).1
    rw [h.overrides, hcame]
  · show LooksLike { c with session := (f c.session c.overrides).2 } { d with session := (f d.session d.overrides).2 }
    refine h.of_session ?_
    rw [h.overrides]
    exact hleft

theorem agree_override {α : Type} (f : Overrides → α × Overrides) : AgreeOn (override f) c d := by
  refine Agree.get ⟨?_, ?_⟩
  · show Except.ok (f c.overrides).1 = Except.ok (f d.overrides).1
    rw [h.overrides]
  · exact h.of_rest (fun c => { c with overrides := (f c.overrides).2 }) fun _ _ => rfl

theorem contextOf_looksLike (sql : String) (params : Nat) : d.contextOf sql params = c.contextOf sql params := by
  have hsessions : ∀ x, (d.session.setting x).sessions = (c.session.setting x).sessions :=
    fun x => by rw [h.session.setting x]
  have hignore : d.session.ignore.sessions = c.session.ignore.sessions := hsessions .ignore
  have hpath : d.session.path.sessions = c.session.path.sessions := hsessions .path
  unfold contextOf
  rw [hignore, hpath, h.overrides, h.rest]

theorem agree_inspect (sql : String) (params : Nat) : AgreeOn (inspect sql params) c d := by
  have hhook : d.hook = c.hook := by rw [h.rest]
  refine Agree.get ?_
  rw [contextOf_looksLike h, hhook]
  cases c.hook with
  | none => exact Agree.pure h _
  | some hook =>
    refine Agree.bind (agree_record h _) fun _ _ _ h => ?_
    split
    next => exact Agree.pure h _
    next => exact Agree.throw h _

theorem agree_report (context : Hook.Context) (outcome : Hook.Outcome) :
    AgreeOn (report context outcome) c d := by
  have hhook : d.hook = c.hook := by rw [h.rest]
  refine Agree.get ?_
  rw [hhook]
  cases c.hook with
  | none => exact Agree.pure h _
  | some hook => exact agree_record h _

theorem agree_conclude {α : Type} (context : Hook.Context) (outcome : α → Hook.Outcome) (r : Except Error α) :
    AgreeOn (conclude context outcome r) c d := by
  cases r with
  | ok a => exact Agree.bind (agree_report h _ _) fun _ _ _ h => Agree.pure h a
  | error e => exact Agree.bind (agree_report h _ _) fun _ _ _ h => Agree.throw h e

/-! ### What a client sends -/

variable [Server σ]

theorem agree_sendRaw (q : Request) : AgreeOn (sendRaw q) c d := by
  unfold sendRaw
  rw [AgreeOn, Act.result_focus, Act.result_focus]
  have hline : (⟨d.wire, d.journal⟩ : Line σ) = ⟨c.wire, c.journal⟩ := by rw [h.rest]
  rw [hline]
  generalize result (Line.send q) (⟨c.wire, c.journal⟩ : Line σ) = sent
  exact ⟨rfl, h.of_rest (fun c => { c with wire := sent.2.wire, journal := sent.2.journal }) fun _ _ => rfl⟩

theorem agree_sendBatch (sql : String) : AgreeOn (sendBatch sql) c d :=
  Agree.bind (agree_sendRaw h _) fun _ _ _ h => Agree.pure h ()

theorem agree_sendOwn (sql : String) : AgreeOn (sendOwn sql) c d := by
  refine Agree.bind (Agree.attempt (agree_sendBatch h sql)) fun r _ _ h => ?_
  cases r with
  | ok u => exact agree_learn h fun h => h.settle true
  | error e =>
    exact Agree.bind (agree_learn h fun h => (h.track "" false).settle false) fun _ _ _ h => Agree.throw h e

theorem agree_sendPreamble (sql : String) : AgreeOn (sendPreamble sql) c d := by
  unfold sendPreamble
  split
  next =>
    refine Agree.bind (agree_decide h fun o h => h.preamble o sql false) fun text _ _ h => ?_
    split
    next => exact agree_sendOwn h text
    next => exact Agree.pure h ()
  next => exact Agree.pure h ()

theorem agree_prepared {α : Type} (sql : String) (params : List String) (value : Answer → α)
    (outcome : α → Hook.Outcome) : AgreeOn (prepared sql params value outcome) c d := by
  refine Agree.bind (agree_inspect h _ _) fun context _ _ h => ?_
  refine Agree.bind (agree_sendPreamble h _) fun _ _ _ h => ?_
  refine Agree.bind (Agree.attempt (agree_sendRaw h _)) fun reply _ _ h => ?_
  refine Agree.bind (agree_learn h fun h => h.track _ _) fun _ _ _ h => ?_
  exact agree_conclude h _ _ _

theorem agree_batch (sql : String) : AgreeOn (batch sql) c d := by
  refine Agree.bind (agree_inspect h _ _) fun context _ _ h => ?_
  refine Agree.bind (agree_decide h fun o h => h.withPreamble o _) fun full _ _ h => ?_
  refine Agree.bind (Agree.attempt (agree_sendBatch h _)) fun reply _ _ h => ?_
  refine Agree.bind (agree_learn h fun h => (h.track _ _).settle _) fun _ _ _ h => ?_
  exact agree_conclude h _ _ _

theorem agree_handOver : AgreeOn handOver c d := by
  have hlast : ∀ {c d : Client σ}, c.LooksLike d →
      AgreeOn (do sendBatch (← get).session.owed) c d := by
    intro c d h
    refine Agree.get ?_
    rw [h.session.owed]
    exact agree_sendBatch h _
  refine Agree.get ?_
  rw [h.session.owed, h.session.status]
  split
  next =>
    dsimp only
    split
    next =>
      refine Agree.bind (agree_record h _) fun _ _ _ h => ?_
      refine Agree.bind (agree_sendBatch h _) fun _ _ _ h => ?_
      exact Agree.bind (agree_learn h fun h => h.rolledBack) fun _ _ _ h => hlast h
    next => exact hlast h
  next => exact Agree.pure h _

/-! ### Sessions and scopes -/

theorem agree_showPath : AgreeOn showPath c d := by
  refine Agree.bind (agree_sendRaw h _) fun answer _ _ h => ?_
  split
  next => exact Agree.lift h _
  next => exact Agree.throw h _

/-- The first session on the search path asks for it again, and then there is no difference any more. -/
theorem agree_openPath : AgreeOn openPath c d := by
  by_cases hopen : 0 < c.session.path.sessions
  · rw [h.eq_of_open hopen]
    exact Agree.refl LooksLike.refl _
  · have hnone : c.session.path.sessions = 0 := by omega
    have hnone' : d.session.path.sessions = 0 := by
      rw [show d.session.path = c.session.path from h.session.setting .path]
      exact hnone
    refine Agree.get ?_
    rw [if_pos hnone, if_pos hnone']
    exact Agree.bind (agree_showPath h) fun path _ _ h => ⟨rfl, h.of_session (h.session.captured path)⟩

theorem agree_sendUndo (undo : Option String) : AgreeOn (sendUndo undo) c d := by
  cases undo with
  | some sql => exact agree_sendOwn h sql
  | none => exact Agree.pure h ()

theorem agree_closeIgnore : AgreeOn closeIgnore c d :=
  Agree.bind (agree_decide h fun _ h => h.closeIgnore false) fun undo _ _ h => agree_sendUndo h undo

omit [Server σ] in
theorem agree_ignoring (ids : List String) : AgreeOn (ignoring ids) c d := by
  refine Agree.bind (agree_learn h fun h => h.opened) fun _ _ _ h => ?_
  exact Agree.bind (agree_override h _) fun _ _ _ h => Agree.pure h _

omit [Server σ] in
theorem agree_ignore (registry : Registry) (uris : List String) : AgreeOn (ignore registry uris) c d :=
  Agree.bind (Agree.lift h _) fun ids _ _ h => agree_ignoring h ids

theorem agree_searching (schemas : List String) : AgreeOn (searching schemas) c d := by
  refine Agree.bind (Agree.lift h _) fun names _ _ h => ?_
  refine Agree.bind (agree_openPath h) fun _ _ _ h => ?_
  exact Agree.bind (agree_override h _) fun _ _ _ h => Agree.pure h _

/-- A call does the same on both, unless it closes a session on the search path where none is open. -/
theorem agree_call {call : Call} (hopen : call.closes? = some .path → 0 < c.session.path.sessions) :
    AgreeOn call.act c d := by
  have hsame : call.closes? = some .path → AgreeOn call.act c d := fun hcloses => by
    rw [h.eq_of_open (hopen hcloses)]
    exact Agree.refl LooksLike.refl _
  cases call with
  | batch sql => exact agree_batch h sql
  | query sql params => exact Agree.bind (agree_prepared h _ _ _ _) fun _ _ _ h => Agree.pure h ()
  | execute sql params => exact Agree.bind (agree_prepared h _ _ _ _) fun _ _ _ h => Agree.pure h ()
  | ignore registry uris => exact Agree.bind (agree_ignore h _ _) fun _ _ _ h => Agree.pure h ()
  | search schemas => exact Agree.bind (agree_searching h _) fun _ _ _ h => Agree.pure h ()
  | releaseIgnore scope => exact Agree.bind (agree_override h _) fun _ _ _ h => agree_closeIgnore h
  | dropIgnore scope =>
    exact Agree.bind (agree_override h _) fun _ _ _ h => agree_learn h fun h => (h.closeIgnore true).2
  | joinIgnore => exact agree_learn h fun h => h.opened
  | leaveIgnore queueOnly =>
    cases queueOnly with
    | false => exact agree_closeIgnore h
    | true => exact agree_learn h fun h => (h.closeIgnore true).2
  | joinPath => exact agree_openPath h
  | elsewhere change => exact agree_override h fun o => ((), change.apply o)
  | releaseSchema | dropSchema | leavePath => exact hsame rfl

end Client

/-! ## Groups -/

namespace Group

variable {σ : Type} {n : Nat} {g g' : Group σ n}

/-- Groups whose clients are alike and that share the same. -/
structure LooksLike (g g' : Group σ n) : Prop where
  worker : g'.worker = g.worker
  overrides : g'.overrides = g.overrides
  journal : g'.journal = g.journal
  clients : ∀ i, (g.client i).LooksLike (g'.client i)

theorem LooksLike.withClient (h : g.LooksLike g') (i : Fin n) {c d : Client σ} (hc : c.LooksLike d) :
    (g.withClient i c).LooksLike (g'.withClient i d) := by
  have hshared : (g'.withClient i d).overrides = (g.withClient i c).overrides := by
    show g'.overrides.set g'.worker[i] d.overrides = g.overrides.set g.worker[i] c.overrides
    rw [hc.overrides, h.overrides]
    simp only [h.worker]
  have hjournal : d.journal = c.journal := by rw [hc.rest]
  refine ⟨h.worker, hshared, hjournal, fun j => ?_⟩
  by_cases hij : i = j
  · subst hij
    rw [client_withClient, client_withClient]
    exact hc
  · -- the others see the same change of what they share
    obtain ⟨o, hclient, -⟩ := client_withClient_of_ne g (fun heq => hij heq.symm) c
    obtain ⟨o', hclient', -⟩ := client_withClient_of_ne g' (fun heq => hij heq.symm) d
    have hover : ((g'.withClient i d).client j).overrides = ((g.withClient i c).client j).overrides := by
      show (g'.withClient i d).overrides[g'.worker[j]] = (g.withClient i c).overrides[g.worker[j]]
      simp only [hshared, h.worker]
    rw [hclient, hclient'] at hover
    obtain rfl : o' = o := hover
    rw [hclient, hclient', hjournal]
    exact (h.clients j).of_rest (fun e => { e with overrides := o', journal := c.journal }) fun _ _ => rfl

theorem LooksLike.on (h : g.LooksLike g') (i : Fin n) {α : Type} {act : Act (Client σ) α}
    (hact : Client.AgreeOn act (g.client i) (g'.client i)) :
    Agree LooksLike (result (Group.on i act) g) (result (Group.on i act) g') :=
  ⟨hact.came, h.withClient i hact.left⟩

section

variable [Server σ]

theorem LooksLike.after (h : g.LooksLike g') {step : Fin n × Call} (hopen : g.FindsOpen step) :
    (g.after step).LooksLike (g'.after step) :=
  (h.on step.1 (Client.agree_call (h.clients step.1) (hopen .path))).left

theorem LooksLike.run (h : g.LooksLike g') {steps : List (Fin n × Call)} (hopen : Along FindsOpen g steps) :
    (g.run steps).LooksLike (g'.run steps) := by
  induction steps generalizing g g' with
  | nil => exact h
  | cons step rest ih => exact ih (h.after hopen.1) hopen.2

/-- A session is entered on both or on neither. -/
theorem LooksLike.enterAfter (h : g.LooksLike g') {opened : List (Fin n)} (clients : List (Fin n))
    (hopened : ∀ j, opened.count j ≤ g.sessions .path j) :
    Agree LooksLike (result (SchemaSession.enterAfter opened clients) g)
      (result (SchemaSession.enterAfter opened clients) g') := by
  induction clients generalizing opened g g' with
  | nil => exact Agree.pure h _
  | cons i rest ih =>
    have hjoined := h.on i (Client.agree_openPath (h.clients i))
    generalize hfirst : result (Group.on i Client.openPath) g = first at hjoined
    generalize hfirst' : result (Group.on i Client.openPath) g' = first' at hjoined
    obtain ⟨r, k⟩ := first
    obtain ⟨r', k'⟩ := first'
    obtain ⟨hcame, hleft⟩ := hjoined
    obtain rfl : r = r' := hcame
    have hk : k = g.after (i, .joinPath) := (congrArg Prod.snd hfirst).symm
    have hr : (result Call.joinPath.act (g.client i)).1 = r := congrArg Prod.fst hfirst
    have hcount : ∀ j, k.sessions .path j =
        g.sessions .path j + if i = j ∧ r.toOption.isSome then 1 else 0 := by
      intro j
      rw [hk, sessions_after]
      by_cases hij : i = j
      · subst hij
        simp [hr, Call.opens?, Call.closes?]
      · simp [hij]
    rw [SchemaSession.enterAfter, Act.result_bind_ok (Act.result_attempt hfirst),
      Act.result_bind_ok (Act.result_attempt hfirst')]
    cases r with
    | ok u =>
      refine ih hleft fun j => ?_
      have := hopened j
      rw [hcount, List.count_append, List.count_singleton]
      by_cases hij : i = j <;> simp [hij, Except.toOption]
      · omega
      · exact this
    | error e =>
      have henough : ∀ j, opened.count j ≤ k.sessions .path j := fun j => by
        rw [hcount]
        exact Nat.le_trans (hopened j) (Nat.le_add_right _ _)
      have hclosing := (sessions_run_closing (.leavePath true) rfl rfl henough).1
      refine Agree.bind ?_ fun _ _ _ h => Agree.throw h e
      rw [run_dropSchemas, run_dropSchemas]
      exact ⟨rfl, hleft.run hclosing⟩

end

end Group

/-! ## Rosters -/

namespace Roster

variable {σ : Type} {n : Nat} {s t : Roster σ n}

/-- Groups that are alike, with the same guards. -/
structure LooksLike (s t : Roster σ n) : Prop where
  group : s.group.LooksLike t.group
  guards : t.guards = s.guards

theorem LooksLike.enter (h : s.LooksLike t) {α : Type} {act : Act (Group σ n) α}
    (hact : Agree Group.LooksLike (result act s.group) (result act t.group)) (guard : α → Guard n) :
    (s.enter act guard).LooksLike (t.enter act guard) := by
  obtain ⟨hcame, hleft⟩ := hact
  unfold Roster.enter
  generalize result act s.group = p at hcame hleft
  generalize result act t.group = q at hcame hleft
  obtain ⟨r, k⟩ := p
  obtain ⟨r', l⟩ := q
  obtain rfl : r = r' := hcame
  cases r with
  | ok a => exact ⟨hleft, congrArg (guard a :: ·) h.guards⟩
  | error e => exact ⟨hleft, h.guards⟩

variable [Server σ]

/-- Where counts are exact, a step leaves alike what is alike. -/
theorem LooksLike.after (h : s.LooksLike t) (hexact : s.Exact) (step : Step n) :
    (s.after step).LooksLike (t.after step) := by
  have hopen := (hexact.after step).2
  cases step with
  | ignore i registry uris => exact h.enter (h.group.on i (Client.agree_ignore (h.group.clients i) _ _)) _
  | search i schemas => exact h.enter (h.group.on i (Client.agree_searching (h.group.clients i) _)) _
  | ignoreSession clients =>
    refine h.enter ?_ _
    rw [Group.run_enterIgnore, Group.run_enterIgnore]
    exact ⟨rfl, h.group.run hopen⟩
  | schemaSession clients => exact h.enter (h.group.enterAfter clients fun j => Nat.zero_le _) _
  | close place byDrop =>
    cases hguard : s.guards[place]? with
    | none =>
      simp only [Roster.after, h.guards, hguard]
      exact h
    | some guard =>
      simp only [calls, hguard] at hopen
      simp only [Roster.after, h.guards, hguard, guard.run_close]
      exact ⟨h.group.run hopen, rfl⟩
  | state i call plain => exact ⟨h.group.after hopen.1, h.guards⟩

theorem looksLike_run (h : s.LooksLike t) (hexact : s.Exact) (steps : List (Step n)) :
    (s.run steps).LooksLike (t.run steps) := by
  induction steps generalizing s t with
  | nil => exact h
  | cons step rest ih => exact ih (h.after hexact step) (hexact.after step).1

end Roster

end DeclaredTriggers
