import DeclaredTriggers.Proofs.Session.Counts
import DeclaredTriggers.Proofs.Session.Executions
import DeclaredTriggers.Proofs.Session.Groups
import DeclaredTriggers.Proofs.Session.Sparing
import DeclaredTriggers.Proofs.Session.Suppression
import DeclaredTriggers.Proofs.Session.Tracking
import DeclaredTriggers.Proofs.Session.Undoings
import DeclaredTriggers.Proofs.Sql.FirstWord
import DeclaredTriggers.Proofs.Sql.NameList

/-!
# What an open session searches

The schemas to search belong to a worker and change under a client whose session stays open: any client
of the worker may enter a scope or leave one. This file says what the client's next statement meets:

> `searches_iff`: while a session on the search path is open on a client and no failure is known of, one
> ordinary statement is executed with the schemas to search, in their order; and where there are none,
> with the path from before its first session exactly if an undoing is pending or that is the path
> already.

`Group.Began` finds the first session in a run, and what the client was told then is what it goes by
until the last one is closed (`Began.told`). What one statement meets follows from what its dues leave,
by cases: there is something to search (`searched_behind`), there is not but an undoing is pending
(`undone_behind`), or nothing is due (`unsaid_behind`). In the third case the client takes the path for
its own. So it is if the client sent nothing while there were schemas to search. Otherwise it may be
what the last statement was sent with: a scope that ends sets nothing while a session stays open
(`searches_released`).
-/

namespace DeclaredTriggers

open Sql (Control)

/-! ## Single statements -/

/-- The dues of one ordinary statement go in front of it. -/
theorem Move.covered?_of_single {m : Move} {sql : String} {st : List Char}
    (hsql : m.text? = some sql) (hst : Sql.statements sql.toList = [st])
    (hordinary : Control.ofStatement? st = none) : m.covered? = some ([], sql) := by
  cases m with
  | batch text =>
    cases hsql
    show Session.covered? sql = _
    unfold Session.covered?
    rw [hst, List.headD_cons, hordinary]
  | prepared text params =>
    cases hsql
    have hcontrol : controlOf? sql = none := Sql.ordinary_of_statements hst hordinary
    exact if_pos (by rw [hcontrol]; rfl)
  | openIgnore | closeIgnore | openPath | closePath | rest => cases hsql

/-! ## What the dues leave of the search path -/

/-- The schemas to search are read back from what is set, in their order. -/
theorem Overrides.names_pathContent (o : Overrides) :
    Sql.names? o.pathContent.text = some o.schemas := Sql.names_joined o.schemas

theorem Overrides.Registered.told_path_of_nil {o : Overrides} (ho : o.Registered)
    (h : o.schemas = []) : ho.told .path = none := by
  unfold told
  rw [h]
  rfl

/-- The dues that are done leave what is searched, or what was told, or what they found. -/
theorem Link.path_of_dues {l : Link Backend} {o : Overrides} (ho : o.Registered)
    (hknown : l.session.initialPath = none → l.session.path = {}) {isLocal : Bool} {after : Backend}
    (h : Backend.Ran l.server (l.session.dues o isLocal) true after) :
    after.phase = l.server.phase ∧ ∃ home : Content,
      (l.session.path.pending → ∃ path, l.session.initialPath = some path ∧
        home.text = Text.trimEnd path.toList) ∧
      after.holdings .path =
        l.session.path.heldAlong home isLocal (ho.told .path) (l.server.holdings .path) := by
  have hleft : ∀ home : Content,
      (l.session.path.pending → l.session.Undoes (l.server.conduct.defaults .path) home .path) →
      after.phase = l.server.phase ∧ after.holdings .path =
        l.session.path.heldAlong home isLocal (ho.told .path) (l.server.holdings .path) := by
    intro home hundoes
    obtain ⟨mid, hmid, hphase, hheld⟩ :=
      holdings_of_dues (x := .path) ho hundoes
        (show Backend.Ran l.server ([] ++ l.session.dues o isLocal) true after from h)
    cases hmid
    exact ⟨hphase, hheld⟩
  cases hpending : l.session.path.pending with
  | false =>
    have hnot : ¬ l.session.path.pending = true := by
      rw [hpending]
      simp
    obtain ⟨hphase, hheld⟩ := hleft (l.server.value .path) fun hp => absurd hp hnot
    exact ⟨hphase, _, fun hp => (nomatch hp), hheld⟩
  | true =>
    cases hinitial : l.session.initialPath with
    | none =>
      rw [hknown hinitial] at hpending
      cases hpending
    | some path =>
      -- the undoing was done, so what it sets is something that the variable can hold
      have hdue : Session.undoPathStatement path ∈ l.session.dues o isLocal := by
        unfold Session.dues Session.undoings
        rw [hpending, hinitial]
        simp
      have hclosed : Sql.isClosed (Text.trimEnd path.toList) :=
        h.closed_of_set rfl hdue (effect_set .path false _)
      obtain ⟨hphase, hheld⟩ := hleft ⟨_, hclosed⟩ fun _ =>
        ⟨hknown, fun path' hpath' => by rw [hinitial] at hpath'; cases hpath'; rfl⟩
      exact ⟨hphase, _, fun _ => ⟨path, rfl, rfl⟩, hheld⟩

/-- Only a move that opens a session leaves more of them than there were. -/
theorem Session.Goes.sessions_le {s s' : Session} {o : Overrides} {m : Move} {reqs : List Request} {ok : Bool}
    (h : s.Goes o m reqs ok s') (hm : m ≠ .openPath) : s'.path.sessions ≤ s.path.sessions := by
  have hcount := h.sessions .path
  have hopens : ¬(m.opens? = some .path ∧ ok) := fun hboth => hm (Move.eq_openPath_of_opens hboth.1)
  rw [if_neg hopens] at hcount
  exact hcount.trans_le (Nat.sub_le _ _)

/-- The first session on the search path is told what that is. -/
theorem Link.told_of_opened {l : Link Backend} (hclosed : l.session.path.sessions = 0)
    (hopen : 0 < l.openPath.2.session.path.sessions) :
    l.openPath.2.session.initialPath = some (String.ofList (l.server.value .path).text) := by
  unfold openPath at hopen ⊢
  rw [if_pos hclosed] at hopen ⊢
  split at hopen
  next path hpath => rw [Backend.path?_showPath hpath]; rfl
  next => exact absurd hclosed (Nat.ne_of_gt hopen)

/-! ## Clients -/

namespace Client

variable {c : Client Backend}

/-- What holds of a client all along: its texts are put together as they should be, it loses no undoing,
it knows whether there is a transaction unless something failed, and where there is none its server has
nothing left of one. -/
structure Steady (c : Client Backend) : Prop where
  composed : c.Composed
  sound : c.session.Sound ∧ c.session.Settled
  discerns : c.session.status.Discerns c.wire.server.phase
  tidy : c.wire.server.Tidy

theorem Fresh.steady (h : c.Fresh) (htracks : c.Tracks) (htidy : c.wire.server.Tidy) :
    c.Steady :=
  ⟨h.composed, h.sound, TransactionStatus.Tracks.discerns htracks, htidy⟩

/-- A client that is made on a connection with one search path remembers that one. -/
theorem Fresh.remembers (h : c.Fresh) {home : Content} (hstill : c.wire.server.Still .path home) :
    c.Remembers (Text.trimEnd home.text) := by
  refine ⟨fun path hinitial => ?_, ?_, ?_, ?_⟩
  · rw [h.initialPath] at hinitial
    cases hinitial
  · exact congrArg (fun v => Text.trimEnd v.text) hstill.outside
  · show (c.wire.server.holdings .path).All _
    rw [hstill.held]
    exact .alone rfl
  · intro m hm
    obtain ⟨p, hp, rfl⟩ := List.mem_map.1 hm
    rw [hstill.savepoints p hp]
    exact .alone rfl

theorem steady_after (h : c.Steady) (call : Call) : (c.after call).Steady := by
  refine ⟨composed_after h.composed call, sound_after h.sound call,
    discerns_after h.composed h.discerns call, ?_⟩
  rw [server_after h.composed]
  exact Link.server_move (fun q b _ => Backend.tidy_receive q b) h.tidy _ _

/-- A call behind which a session is open, and none was before, asks what the search path is. -/
theorem told_of_opened (hc : c.Composed) (hclosed : c.session.path.sessions = 0) {call : Call}
    (hopen : 0 < (c.after call).session.path.sessions) :
    (c.after call).session.initialPath =
      some (String.ofList (c.wire.server.value .path).text) := by
  have hmove : c.move call = .openPath := by
    by_contra hm
    obtain ⟨reqs, ok, hgoes⟩ := c.goes_after call
    have hle := hgoes.session.sessions_le hm
    omega
  rw [session_after hc, hmove] at hopen ⊢
  exact Link.told_of_opened hclosed hopen

section

variable {call : Call} {sql : String} {st : List Char} (h : c.Steady)
  (hstatus : c.session.status ≠ .inError) (hsql : (c.move call).text? = some sql)
  (hst : Sql.statements sql.toList = [st]) (hordinary : Control.ofStatement? st = none)
  (hconcurrent : Sql.isConcurrent sql.toList = false)

include h hstatus hsql hst hordinary hconcurrent

/-- The one statement of a call is executed if the call succeeds, and with what its dues leave. -/
theorem behind_single {v : Content}
    (hvalue : ∀ after, Backend.Ran c.wire.server
      (c.session.dues c.overrides ((c.move call).isLocal c.session)) true after →
        after.value .path = v ∧ ∀ sql params, c.move call = .prepared sql params →
          after.phase = .idle → (after.holdings .path).passing = none) :
    (c.succeeds call → (c.behind call).map Execution.statement = [st]) ∧
      ∀ e ∈ c.behind call, e.statement = st ∧ e.values .path = v := by
  have hcovered := Move.covered?_of_single hsql hst hordinary
  have hback := Session.holdsBack_eq_false hstatus hconcurrent
  obtain ⟨hfront, hall, hvalues⟩ := behind_of_covered h.composed hcovered hback hvalue
  rw [hst] at hfront hall hvalues
  have hlength : (c.behind call).length ≤ 1 := Execution.length_le hfront
  have hspan : 1 ≤ Backend.span .path c.wire.server.conduct.savepointName [] [st] :=
    Backend.span_pos _ _ _ _ _
  rw [List.take_of_length_le (hlength.trans hspan)] at hvalues
  refine ⟨hall, fun e he => ⟨?_, hvalues e he⟩⟩
  exact List.mem_singleton.1 (hfront.subset (List.mem_map_of_mem he))

/-- Where there are schemas to search and a session is open, the statement is executed with them. -/
theorem searched_behind (hopen : 0 < c.session.path.sessions) (hschemas : c.overrides.schemas ≠ []) :
    (c.succeeds call → (c.behind call).map Execution.statement = [st]) ∧
      ∀ e ∈ c.behind call, e.statement = st ∧ e.values .path = c.overrides.pathContent := by
  refine behind_single h hstatus hsql hst hordinary hconcurrent fun after hran => ?_
  obtain ⟨hphase, home, -, hheld⟩ :=
    Link.path_of_dues (l := c.link) h.composed.registered h.sound.1.known hran
  have htold : h.composed.registered.told .path = some c.overrides.pathContent := by
    unfold Overrides.Registered.told
    exact if_neg (by simpa using hschemas)
  rw [htold] at hheld
  refine ⟨?_, fun sql params hmove hidle => ?_⟩
  · show (after.holdings .path).value = _
    rw [hheld]
    exact Setting.value_heldAlong hopen _ _ _ _
  · -- no transaction is open, so what is set is set for good
    have hglobal : (c.move call).isLocal c.session = false := by
      rw [hmove]
      refine decide_eq_false fun hin => ?_
      have hdiscerns := h.discerns
      rw [hin] at hdiscerns
      exact hdiscerns (hphase ▸ hidle)
    rw [hheld, hglobal]
    exact Setting.passing_heldAlong hopen _ _ _

/-- Where there are none and an undoing is pending, it is executed with what was told. -/
theorem undone_behind (hschemas : c.overrides.schemas = []) (hpending : c.session.path.pending)
    {path : String} (hinitial : c.session.initialPath = some path) :
    (c.succeeds call → (c.behind call).map Execution.statement = [st]) ∧
      ∀ e ∈ c.behind call, e.statement = st ∧
        (e.values .path).text = Text.trimEnd path.toList := by
  have htold := h.composed.registered.told_path_of_nil hschemas
  have hleft : ∀ {isLocal : Bool} {after : Backend},
      Backend.Ran c.wire.server (c.session.dues c.overrides isLocal) true after →
      ∃ home : Content, home.text = Text.trimEnd path.toList ∧
        after.holdings .path = ⟨home, none⟩ := by
    intro isLocal after hran
    obtain ⟨-, home, hhome, hheld⟩ :=
      Link.path_of_dues (l := c.link) h.composed.registered h.sound.1.known hran
    obtain ⟨told, hsaid, htext⟩ := hhome hpending
    have hsame : told = path := Option.some.inj (hsaid.symm.trans hinitial)
    rw [htold] at hheld
    exact ⟨home, hsame ▸ htext, hheld.trans (if_pos hpending)⟩
  have hbehind := @behind_single c call sql st h hstatus hsql hst hordinary hconcurrent
  by_cases hclosed : Sql.isClosed (Text.trimEnd path.toList)
  · obtain ⟨hall, hvalues⟩ := hbehind (v := ⟨_, hclosed⟩) fun after hran => by
      obtain ⟨⟨text, htextClosed⟩, rfl, hheld⟩ := hleft hran
      refine ⟨?_, fun _ _ _ _ => by rw [hheld]⟩
      show (after.holdings .path).value = _
      rw [hheld]
      rfl
    refine ⟨hall, fun e he => ⟨(hvalues e he).1, ?_⟩⟩
    rw [(hvalues e he).2]
  · -- the undoing cannot be done, so nothing is executed: it would be with one thing and another
    have hnone : ∀ v, (c.succeeds call → (c.behind call).map Execution.statement = [st]) ∧
        ∀ e ∈ c.behind call, e.statement = st ∧ e.values .path = v := fun v =>
      hbehind (v := v) fun after hran => by
        obtain ⟨⟨text, htextClosed⟩, rfl, -⟩ := hleft hran
        exact absurd htextClosed hclosed
    refine ⟨(hnone ⟨[], rfl⟩).1, fun e he => ?_⟩
    have hempty := ((hnone ⟨[], rfl⟩).2 e he).2
    have hspace := ((hnone ⟨[' '], rfl⟩).2 e he).2
    rw [hempty] at hspace
    cases hspace

/-- Where nothing is due on the search path, it is executed with what is there. -/
theorem unsaid_behind (hschemas : c.overrides.schemas = [])
    (hpending : c.session.path.pending = false) :
    (c.succeeds call → (c.behind call).map Execution.statement = [st]) ∧
      ∀ e ∈ c.behind call, e.statement = st ∧ e.values .path = c.wire.server.value .path := by
  refine behind_single h hstatus hsql hst hordinary hconcurrent fun after hran => ?_
  obtain ⟨hphase, home, -, hheld⟩ :=
    Link.path_of_dues (l := c.link) h.composed.registered h.sound.1.known hran
  have htold := h.composed.registered.told_path_of_nil hschemas
  have hsame : after.holdings .path = c.wire.server.holdings .path := by
    rw [htold] at hheld
    exact hheld.trans (if_neg (show ¬ c.session.path.pending = true by rw [hpending]; simp))
  refine ⟨congrArg Held.value hsame, fun _ _ _ hidle => ?_⟩
  rw [hsame, h.tidy.holdings (hphase ▸ hidle)]

/-- Where there are no schemas to search, it is executed with what was told exactly if an undoing is
pending or that is what is there. -/
theorem unsearched_behind (hschemas : c.overrides.schemas = []) {path : String}
    (hinitial : c.session.initialPath = some path) :
    (c.succeeds call → (c.behind call).map Execution.statement = [st]) ∧
      ∀ e ∈ c.behind call, e.statement = st ∧
        (Text.trimEnd (e.values .path).text = Text.trimEnd path.toList ↔ c.session.path.pending ∨
          Text.trimEnd (c.wire.server.value .path).text = Text.trimEnd path.toList) := by
  cases hpending : c.session.path.pending with
  | true =>
    obtain ⟨hall, hvalues⟩ :=
      undone_behind h hstatus hsql hst hordinary hconcurrent hschemas hpending hinitial
    refine ⟨hall, fun e he => ⟨(hvalues e he).1, fun _ => .inl rfl, fun _ => ?_⟩⟩
    rw [(hvalues e he).2]
    exact Text.trimEnd_trimEnd _
  | false =>
    obtain ⟨hall, hvalues⟩ :=
      unsaid_behind h hstatus hsql hst hordinary hconcurrent hschemas hpending
    refine ⟨hall, fun e he => ⟨(hvalues e he).1, ?_⟩⟩
    rw [(hvalues e he).2]
    simp

end

end Client

/-! ## Groups -/

namespace Group

variable {n : Nat} {g : Group Backend n} {i : Fin n}

theorem steady_run (h : (g.client i).Steady) (steps : List (Fin n × Call)) :
    ((g.run steps).client i).Steady :=
  client_run_keeps (I := fun c => c.Steady) (P := fun _ _ => True)
    (fun _ call h _ => Client.steady_after h call) (fun _ _ h => Client.steady_after h _)
    (fun _ _ h => ⟨⟨h.composed.isOpen, h.composed.pathClosed, h.composed.registered⟩, h.sound,
      h.discerns, h.tidy⟩) h
    (along_of_forall (P := fun step => step.1 = i → True) (fun _ _ _ => trivial) g)

/-- A run of the group in which one client's own calls spare the search path. -/
def Spares (g : Group Backend n) (i : Fin n) (steps : List (Fin n × Call)) : Prop :=
  Along (fun g step => step.1 = i → (g.client i).Spares step.2) g steps

/-- What a client was told of the search path stays so while it spares the path, whatever the others
do. -/
theorem remembers_run {w : List Char} (hc : (g.client i).Composed) (h : (g.client i).Remembers w)
    {steps : List (Fin n × Call)} (hspares : g.Spares i steps) :
    ((g.run steps).client i).Remembers w := by
  have helsewhere : ∀ (c : Client Backend) change, c.Spares (.elsewhere change) :=
    fun c change sql hsql => (nomatch hsql)
  refine (client_run_keeps (I := fun c => c.Composed ∧ c.Remembers w) (P := fun c call => c.Spares call)
    ?_ ?_ ?_ ⟨hc, h⟩ hspares).2
  · exact fun c call hc hcall =>
      ⟨Client.composed_after hc.1 call, Client.remembers_after hc.1 hc.2 hcall⟩
  · exact fun c change hc =>
      ⟨Client.composed_after hc.1 _, Client.remembers_after hc.1 hc.2 (helsewhere c change)⟩
  · exact fun c j hc => ⟨⟨hc.1.isOpen, hc.1.pathClosed, hc.1.registered⟩, hc.2.told, hc.2.server⟩

/-- `Began g i before first since`: behind `before` no session on the search path is open on the client;
then `first` opens one, and from there on through all of `since` one is. -/
structure Began (g : Group Backend n) (i : Fin n) (before : List (Fin n × Call)) (first : Call)
    (since : List (Fin n × Call)) : Prop where
  closed : ((g.run before).client i).session.path.sessions = 0
  isOpen : ∀ more, more <+: since →
    0 < ((g.run (before ++ (i, first) :: more)).client i).session.path.sessions

/-- Where a session is open, there was a first one. -/
theorem exists_began (hclosed : (g.client i).session.path.sessions = 0) {steps : List (Fin n × Call)}
    (hopen : 0 < ((g.run steps).client i).session.path.sessions) :
    ∃ before first since, steps = before ++ (i, first) :: since ∧ g.Began i before first since := by
  -- from the end of the run: either a session was open before the last call, or that opened the first
  induction steps using List.reverseRecOn with
  | nil => exact absurd hclosed (Nat.ne_of_gt hopen)
  | append_singleton steps step ih =>
    obtain ⟨j, call⟩ := step
    by_cases hearlier : ((g.run steps).client i).session.path.sessions = 0
    · have hij : j = i := by
        by_contra hne
        rw [run_snoc, session_after_of_ne _ hne, hearlier] at hopen
        exact Nat.lt_irrefl 0 hopen
      subst hij
      refine ⟨steps, call, [], rfl, hearlier, fun more hmore => ?_⟩
      rw [List.prefix_nil.1 hmore]
      exact hopen
    · obtain ⟨before, first, since, rfl, hbegan⟩ := ih (Nat.pos_of_ne_zero hearlier)
      refine ⟨before, first, since ++ [(j, call)], by simp, hbegan.closed, fun more hmore => ?_⟩
      rcases List.prefix_concat_iff.1 hmore with rfl | hmore
      · simpa using hopen
      · exact hbegan.isOpen more hmore

/-- From then on the client takes the search path for what it was before the first session. -/
theorem Began.told {before since : List (Fin n × Call)} {first : Call}
    (h : g.Began i before first since) (hg : (g.client i).Steady) :
    ((g.run (before ++ (i, first) :: since)).client i).session.initialPath =
      some (String.ofList (((g.run before).client i).wire.server.value .path).text) := by
  induction since using List.reverseRecOn with
  | nil =>
    have hopen := h.isOpen [] (List.prefix_refl _)
    rw [run_snoc, after_eq, client_withClient] at hopen ⊢
    exact Client.told_of_opened (steady_run hg before).composed h.closed hopen
  | append_singleton since step ih =>
    obtain ⟨j, call⟩ := step
    have hearlier : g.Began i before first since :=
      ⟨h.closed, fun more hmore => h.isOpen more (hmore.trans (List.prefix_append _ _))⟩
    rw [← ih hearlier, ← List.cons_append, ← List.append_assoc, run_snoc]
    by_cases hij : j = i
    · subst hij
      have hopen := h.isOpen since (List.prefix_append _ _)
      rw [after_eq, client_withClient]
      -- only a first session asks again
      rcases Client.initialPath_after (steady_run hg _).composed call with hsame | ⟨-, hclosed, -⟩
      · exact hsame
      · exact absurd hclosed (Nat.ne_of_gt hopen)
    · rw [session_after_of_ne _ hij]

/-- Whatever the clients of a group do, and however their scopes and sessions overlap: while a session on
the search path is open on a client and no failure is known of, one ordinary statement that it sends is
executed with the schemas to search, in their order. Where there are none left, it is executed with the
path from before the first of the sessions exactly if the undoing of an earlier one is pending, or that
is the path already; and that is the path if the client never sent anything while there were schemas to
search. -/
theorem searches_iff (hfresh : (g.client i).Fresh) (htracks : (g.client i).Tracks)
    (htidy : (g.client i).wire.server.Tidy) {steps : List (Fin n × Call)}
    (hopen : 0 < ((g.run steps).client i).session.path.sessions)
    (hstatus : ((g.run steps).client i).session.status ≠ .inError) :
    ∃ before first since, steps = before ++ (i, first) :: since ∧ g.Began i before first since ∧
      let c := (g.run steps).client i
      let told := Text.trimEnd (((g.run before).client i).wire.server.value .path).text
      ∀ call sql st, (c.move call).text? = some sql → Sql.statements sql.toList = [st] →
        Control.ofStatement? st = none → Sql.isConcurrent sql.toList = false →
        (c.succeeds call → (c.behind call).map Execution.statement = [st]) ∧
          ∀ e ∈ c.behind call, e.statement = st ∧
            (c.overrides.schemas ≠ [] → e.values .path = c.overrides.pathContent ∧
              Sql.names? (e.values .path).text = some c.overrides.schemas) ∧
            (c.overrides.schemas = [] →
              (Text.trimEnd (e.values .path).text = told ↔ c.session.path.pending ∨
                Text.trimEnd (c.wire.server.value .path).text = told) ∧
              ∀ w early late, steps = early ++ late → ((g.run early).client i).Remembers w →
                (g.run early).Spares i late → Text.trimEnd (e.values .path).text = told) := by
  have hclosed : (g.client i).session.path.sessions = 0 :=
    congrArg Setting.sessions (hfresh.setting .path)
  have hsteady : (g.client i).Steady := hfresh.steady htracks htidy
  obtain ⟨before, first, since, rfl, hbegan⟩ := exists_began hclosed hopen
  refine ⟨before, first, since, rfl, hbegan, ?_⟩
  intro c told call sql st hsql hst hordinary hconcurrent
  have hc : c.Steady := steady_run hsteady _
  have hinitial := hbegan.told hsteady
  by_cases hschemas : c.overrides.schemas = []
  · obtain ⟨hall, hvalues⟩ :=
      Client.unsearched_behind hc hstatus hsql hst hordinary hconcurrent hschemas hinitial
    rw [String.toList_ofList] at hvalues
    refine ⟨hall, fun e he => ?_⟩
    obtain ⟨hstatement, hiff⟩ := hvalues e he
    refine ⟨hstatement, fun hsome => absurd hschemas hsome, fun _ => ⟨hiff, ?_⟩⟩
    intro w early late hsteps hremembers hspares
    -- what is remembered all along is what was told in the end
    have hlast : c.Remembers w := by
      have := remembers_run (steady_run hsteady early).composed hremembers hspares
      rwa [← run_append, ← hsteps] at this
    have htold : told = w := by
      rw [← hlast.told _ hinitial, String.toList_ofList]
    exact hiff.2 (.inr (hlast.value.trans htold.symm))
  · obtain ⟨hall, hvalues⟩ := Client.searched_behind hc hstatus hsql hst hordinary hconcurrent
      hopen hschemas
    refine ⟨hall, fun e he => ⟨(hvalues e he).1, fun _ => ⟨(hvalues e he).2, ?_⟩,
      fun hnone => absurd hnone hschemas⟩⟩
    rw [(hvalues e he).2]
    exact Overrides.names_pathContent _

theorem fresh_pair (i : Fin 2) :
    (pair.client i).Fresh ∧ (pair.client i).Tracks ∧ (pair.client i).wire.server.Tidy := by
  have hclient : pair.client i = Client.connectedTo { conduct := .cancelling none } .idle := by
    match i with
    | 0 | 1 => rfl
  rw [hclient]
  exact ⟨Client.fresh_connectedTo _ (by simp), rfl, fun _ => rfl, fun _ => rfl⟩

/-- A session on one client, and a scope that another one enters. -/
def searchShared {n : Nat} (i j : Fin n) : List (Fin n × Call) :=
  [(i, .joinPath), (j, .search ["archive"])]

/-- The first one searches what the second one does, and its own path when that is over. -/
theorem searches_shared :
    let shared := (pair.run (searchShared 0 1)).client 0
    let left := (pair.run (searchShared 0 1 ++ [(1, .releaseSchema ⟨["archive"]⟩)])).client 0
    let call : Call := .execute "SELECT 1" []
    ((shared.behind call).map Execution.statement = ["SELECT 1".toList] ∧
        ∀ e ∈ shared.behind call, Sql.names? (e.values .path).text = some ["archive"]) ∧
      (left.behind call).map Execution.statement = ["SELECT 1".toList] ∧
        ∀ e ∈ left.behind call, Text.trimEnd (e.values .path).text =
          Text.trimEnd ((pair.client 0).wire.server.value .path).text := by
  intro shared left call
  obtain ⟨hfresh, htracks, htidy⟩ := fresh_pair 0
  have hshared : 0 < shared.session.path.sessions ∧ shared.session.status ≠ .inError ∧
      shared.overrides.schemas = ["archive"] ∧ shared.succeeds call ∧
      (shared.move call).text? = some "SELECT 1" := by decide +kernel
  have hleft : 0 < left.session.path.sessions ∧ left.session.status ≠ .inError ∧
      left.overrides.schemas = [] ∧ left.succeeds call ∧
      (left.move call).text? = some "SELECT 1" := by decide +kernel
  have hremembers : (pair.client 0).Remembers
      (Text.trimEnd ((pair.client 0).wire.server.value .path).text) :=
    hfresh.remembers ⟨rfl, rfl, fun _ hp => (nomatch hp), fun _ => rfl⟩
  have hspares : pair.Spares 0 (searchShared 0 1 ++ [(1, .releaseSchema ⟨["archive"]⟩)]) :=
    ⟨fun _ sql hsql => (nomatch hsql), fun h => (nomatch h), fun h => (nomatch h), trivial⟩
  constructor
  · obtain ⟨hopen, hstatus, hschemas, hsucceeds, htext⟩ := hshared
    obtain ⟨_, _, _, -, -, hall⟩ := searches_iff hfresh htracks htidy hopen hstatus
    obtain ⟨hexecuted, hvalues⟩ :=
      hall call "SELECT 1" "SELECT 1".toList htext (by decide) (by decide) (by decide)
    refine ⟨hexecuted hsucceeds, fun e he => ?_⟩
    obtain ⟨-, hsome, -⟩ := hvalues e he
    rw [(hsome (by rw [hschemas]; simp)).2, hschemas]
  · obtain ⟨hopen, hstatus, hschemas, hsucceeds, htext⟩ := hleft
    obtain ⟨before, first, since, hsteps, -, hall⟩ :=
      searches_iff hfresh htracks htidy hopen hstatus
    obtain ⟨hexecuted, hvalues⟩ :=
      hall call "SELECT 1" "SELECT 1".toList htext (by decide) (by decide) (by decide)
    refine ⟨hexecuted hsucceeds, fun e he => ?_⟩
    obtain ⟨-, -, hnone⟩ := hvalues e he
    -- the first call is the only one on this client
    cases before with
    | nil => exact (hnone hschemas).2 _ [] _ rfl hremembers hspares
    | cons step before =>
      have hmem : ((0, first) : Fin 2 × Call) ∈ before ++ (0, first) :: since := by simp
      rw [searchShared, List.cons_append, List.cons_append, List.cons_append,
        List.cons.injEq] at hsteps
      rw [← hsteps.2] at hmem
      simp at hmem

/-- A session, and a scope in it in which a statement is sent before it is over. -/
def searchReleased {n : Nat} (i : Fin n) : List (Fin n × Call) :=
  [(i, .joinPath), (i, .search ["archive"]), (i, .execute "SELECT 1" []),
    (i, .releaseSchema ⟨["archive"]⟩)]

/-- The next statement still meets the schemas of the scope: where there is nothing to search, nothing is
set, and what was set stays. -/
theorem searches_released :
    ¬ ∀ (g : Group Backend 2) (i : Fin 2) (steps before since : List (Fin 2 × Call)) (first : Call),
      (g.client i).Fresh → (g.client i).Tracks → (g.client i).wire.server.Tidy →
      steps = before ++ (i, first) :: since → g.Began i before first since →
      (∀ step ∈ steps, ∀ sql, step.2.text? = some sql →
        ∀ st ∈ Sql.statements sql.toList, (Effect.ofStatement st).writes .path = false) →
      ((g.run steps).client i).session.status ≠ .inError →
      ((g.run steps).client i).overrides.schemas = [] →
      ∀ call sql st, (((g.run steps).client i).move call).text? = some sql →
        Sql.statements sql.toList = [st] → Control.ofStatement? st = none →
        Sql.isConcurrent sql.toList = false →
        ∀ e ∈ ((g.run steps).client i).behind call, Text.trimEnd (e.values .path).text =
          Text.trimEnd (((g.run before).client i).wire.server.value .path).text := by
  intro hall
  obtain ⟨hfresh, htracks, htidy⟩ := fresh_pair 0
  have hopen : ∀ more ∈ (searchReleased (0 : Fin 2)).tail.inits,
      0 < ((pair.run ([] ++ (0, .joinPath) :: more)).client 0).session.path.sessions := by
    decide +kernel
  have hbegan : pair.Began 0 [] .joinPath (searchReleased 0).tail :=
    ⟨rfl, fun more hmore => hopen more ((List.mem_inits _ _).2 hmore)⟩
  have htexts : ∀ step ∈ searchReleased (0 : Fin 2), ∀ sql, step.2.text? = some sql →
      sql = "SELECT 1" := by simp [searchReleased, Call.text?]
  have hsilent : ∀ step ∈ searchReleased (0 : Fin 2), ∀ sql, step.2.text? = some sql →
      ∀ st ∈ Sql.statements sql.toList, (Effect.ofStatement st).writes .path = false := by
    intro step hstep sql hsql
    rw [htexts step hstep sql hsql]
    decide
  have hfacts : ((pair.run (searchReleased 0)).client 0).session.status ≠ .inError ∧
      ((pair.run (searchReleased 0)).client 0).overrides.schemas = [] ∧
      (((pair.run (searchReleased 0)).client 0).move (.execute "SELECT 2" [])).text? =
        some "SELECT 2" ∧
      ¬ ∀ e ∈ ((pair.run (searchReleased 0)).client 0).behind (.execute "SELECT 2" []),
        Text.trimEnd (e.values .path).text =
          Text.trimEnd (((pair.run []).client 0).wire.server.value .path).text := by decide +kernel
  obtain ⟨hstatus, hschemas, htext, hstale⟩ := hfacts
  exact hstale (hall pair 0 (searchReleased 0) [] (searchReleased 0).tail .joinPath hfresh htracks
    htidy rfl hbegan hsilent hstatus hschemas (.execute "SELECT 2" []) "SELECT 2" "SELECT 2".toList
    htext (by decide) (by decide) (by decide))

end Group

end DeclaredTriggers
